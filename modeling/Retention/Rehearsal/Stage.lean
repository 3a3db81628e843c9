import Retention.Rehearsal.Journal

/-!
# The stage

A store that keeps its objects in memory, with a clock, a journal, and faults that can be planned
for its calls.  Calls change nothing where a fault makes them fail or keeps them from ending.
-/

namespace Retention

/-- What goes wrong with a call. -/
inductive Fault where
  | failing (text : String)
  /-- The token fires while it runs, and it ends well. -/
  | firing
  /-- The token fires while it runs, and it does not end. -/
  | stalling
  /-- The token fires while it runs, and it fails. -/
  | firingAndFailing (text : String)
  deriving DecidableEq, Repr

/-- A store in memory. -/
structure Stage where
  objects : List Object
  now : Instant
  /-- The calls on the store so far, the latest first. -/
  latestCalls : List Recorded
  listFault : Option Fault
  /-- The faults of deletions, by the names of objects. -/
  deleteFaults : List (String × Fault)
  /-- Whether the token of the pass is at hand, so that it can be fired. -/
  holdsToken : Bool

namespace Stage

/-- The stage with objects and a time on its clock. -/
def start (objects : List Object) (now : Instant) : Stage :=
  ⟨objects, now, [], none, [], true⟩

def calls (s : Stage) : List Recorded := s.latestCalls.reverse

def record (call : Recorded) : Call Stage Unit :=
  .change fun s => { s with latestCalls := call :: s.latestCalls }

/-- Fires the token if it is at hand. -/
def fire : Call Stage Unit := do
  if ← .read holdsToken then .fire

def journal : Journal Stage := ⟨record, fire⟩

def faulted {α : Type} (fault : Option Fault) (call : Call Stage α) :
    Call Stage (Awaited α) :=
  match fault with
  | none => do return some (.ok (← call))
  | some (.failing text) => .answer (some (.error (.other text)))
  | some .firing => do
    fire
    return some (.ok (← call))
  | some .stalling => do
    fire
    return none
  | some (.firingAndFailing text) => do
    fire
    return some (.error (.other text))

/-- The objects that a request asks for.  Labels and types are not looked at. -/
def found (request : ListRequest) (s : Stage) : List Object :=
  match request.ns with
  | some ns => s.objects.filter fun o => o.metadata.ns = some ns
  | none => s.objects

def list (request : ListRequest) : Call Stage (Awaited (List Object)) := do
  record (.listed request)
  faulted (← .read listFault) (.read (found request))

/-- The stage without the objects with a key. -/
def without (key : ResourceKey) (s : Stage) : Stage :=
  { s with objects := s.objects.filter fun o => o.key ≠ key }

/-- Deletes the objects with the key of another. -/
def delete (type : TypeIdentifier) (o : Object) : Call Stage (Awaited Unit) := do
  record (.deleted type o.key)
  faulted (← .read fun s => s.deleteFaults.lookup o.key.name) (.change (without o.key))

def store : Store Stage := ⟨list, delete⟩

end Stage

end Retention
