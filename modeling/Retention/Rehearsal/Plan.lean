import Retention.Pruner.Basic
import Retention.Rehearsal.Journal

/-!
# Planned code

Code that a user would supply, described by data: predicates, functions of custom strategies, and
hooks.  Each plan says what the code does with which objects, and is turned into code that keeps a
journal.
-/

namespace Retention

/-- A set of names: all, or those of a list. -/
inductive Names where
  | all
  | these (names : List String)
  deriving DecidableEq, Repr

def Names.has : Names → String → Bool
  | all, _ => true
  | these names, name => names.contains name

variable {σ : Type}

/-! ## Predicates -/

/-- What a predicate does. -/
inductive Rule where
  | pod
  | job
  /-- A predicate over pods that vetoes some names. -/
  | typedPod (names : List String)
  /-- A predicate over jobs that vetoes some names. -/
  | typedJob (names : List String)
  /-- A predicate over objects that fails for some names and vetoes others. -/
  | untyped (failing : Names) (message : String) (vetoed : Names) (reason : String)
  deriving DecidableEq, Repr

namespace Rule

/-- The verdict on typed metadata of which some names are vetoed. -/
def typedVerdict (names : List String) (metadata : Metadata) : Verdict :=
  if names.contains metadata.key.name then .error (.unprunable metadata.key "typed veto")
  else .ok ()

/-- The verdict on an object by name. -/
def untypedVerdict (failing : Names) (message : String) (vetoed : Names) (reason : String)
    (o : Object) : Verdict :=
  if failing.has o.key.name then .error (.other message)
  else if vetoed.has o.key.name then .error (.unprunable o.key reason)
  else .ok ()

/-- The predicate that follows a rule.  The built-in ones make no entry in the journal, and typed
ones make theirs once an object is decoded. -/
def predicate (journal : Journal σ) : Rule → Predicate σ
  | pod => Registry.podPredicate
  | job => Registry.jobPredicate
  | typedPod names => Registry.typed "Pod" Pod.ofJson? fun pod => do
    journal.record (.judged pod.metadata.key.name)
    return typedVerdict names pod.metadata
  | typedJob names => Registry.typed "Job" Job.ofJson? fun job => do
    journal.record (.judged job.metadata.key.name)
    return typedVerdict names job.metadata
  | untyped failing message vetoed reason => fun o => do
    journal.record (.judged o.key.name)
    return untypedVerdict failing message vetoed reason o

end Rule

/-! ## Selections -/

/-- What the function of a custom strategy selects. -/
inductive SelectionPlan where
  | all
  | nothing
  | reversed
  /-- Each candidate twice in a row. -/
  | twice
  | first (count : Nat)
  | named (names : List String)
  | failing (text : String)
  /-- An object that need not be a candidate. -/
  | fabricated (o : Object)
  deriving DecidableEq

namespace SelectionPlan

def select (candidates : List Object) : SelectionPlan → Except String (List Object)
  | all => .ok candidates
  | nothing => .ok []
  | reversed => .ok candidates.reverse
  | twice => .ok (candidates.flatMap fun o => [o, o])
  | first count => .ok (candidates.take count)
  | named names => .ok (candidates.filter fun o => names.contains o.key.name)
  | failing text => .error text
  | fabricated o => .ok [o]

def selector (journal : Journal σ) (plan : SelectionPlan) : Selector σ := fun candidates => do
  journal.record (.selected (candidates.map Object.key))
  return plan.select candidates

end SelectionPlan

/-! ## Hooks -/

/-- What a hook does: the texts with which it fails for some names, and the names for which it fires
the token. -/
structure HookPlan where
  failing : List (String × String)
  firing : List String
  deriving DecidableEq, Repr

/-- The hook that follows a plan.  It fires the token before it fails. -/
def HookPlan.hook (journal : Journal σ) (plan : HookPlan) : Hook σ := fun o => do
  journal.record (.hooked o.key)
  if plan.firing.contains o.key.name then journal.fire
  match plan.failing.lookup o.key.name with
  | some text => return .error text
  | none => return .ok ()

end Retention
