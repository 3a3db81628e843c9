import Retention.Prunability.Registry
import Retention.Store.Basic
import Retention.Strategy.Selection

/-!
# Pruners

A pruner holds the settings of a pass over one resource type: which objects to list, which
predicates and which strategy decide about them, and what happens around deletions.  It is built by
starting from a strategy, changing fields, and checking the whole with `Pruner.build`.
-/

namespace Retention

/-- Code that runs right before an object is deleted, and can prevent it by failing with a text. -/
abbrev Hook (σ : Type) := Object → Call σ (Except String Unit)

/-- Checks what a pass lists: type, namespace and label filter, in this order. -/
def checkTarget (type : TypeIdentifier) (ns : Option String) (labels : Labels) :
    Except ConfigError Unit :=
  if type.version.isEmpty then .error (.emptyTypeField .version)
  else if type.kind.isEmpty then .error (.emptyTypeField .kind)
  else if ns = some "" then .error .emptyNamespace
  else labels.check.mapError .invalidLabel

/-- The settings of a pass. -/
structure Pruner (σ : Type) where
  type : TypeIdentifier
  strategy : Strategy σ
  registry : Registry σ
  labels : Labels
  /-- The namespace that is listed, or all of them. -/
  ns : Option String
  dryRun : Bool
  /-- Whether objects can ask to be kept by an annotation. -/
  respectPreserve : Bool
  hook : Option (Hook σ)
  /-- The clock that ages are counted from. -/
  clock : σ → Instant

namespace Pruner

variable {σ : Type}

/-- The pruner with a strategy and otherwise standard settings: pods of all namespaces, the built-in
predicates, real deletions. -/
def ofStrategy (strategy : Strategy σ) (clock : σ → Instant) : Pruner σ where
  type := .pod
  strategy := strategy
  registry := .builtIn
  labels := .empty
  ns := none
  dryRun := false
  respectPreserve := false
  hook := none
  clock := clock

/-- The pruner with one label more in its filter. -/
def addLabel (p : Pruner σ) (key value : String) : Pruner σ :=
  { p with labels := p.labels.insert key value }

/-- Checks every setting that a pass depends on. -/
def check (p : Pruner σ) : Except ConfigError Unit :=
  match checkTarget p.type p.ns p.labels with
  | .error e => .error e
  | .ok () => p.strategy.check

theorem check_ok_iff {p : Pruner σ} :
    p.check = .ok () ↔ checkTarget p.type p.ns p.labels = .ok () ∧ p.strategy.check = .ok () := by
  unfold check
  cases checkTarget p.type p.ns p.labels with
  | error _ => simp
  | ok _ => simp

/-- The pruner itself, where its settings are valid. -/
def build (p : Pruner σ) : Except ConfigError (Pruner σ) :=
  p.check.map fun _ => p

/-- What is built is the pruner itself, and its settings are valid. -/
theorem build_eq_ok_iff {p built : Pruner σ} :
    p.build = .ok built ↔ built = p ∧ p.check = .ok () := by
  unfold build
  cases p.check with
  | error _ => simp [Except.map]
  | ok _ => simp [Except.map, eq_comm]

/-- What a pass asks the store for. -/
def request (p : Pruner σ) : ListRequest :=
  ⟨p.type, p.labels.selector, p.ns⟩

def truthName (b : Bool) : String :=
  if b then "true" else "false"

def debugNamespace (ns : Option String) : String :=
  match ns with
  | some ns => "Some(" ++ Text.quoted ns ++ ")"
  | none => "None"

def debug (p : Pruner σ) : String :=
  "Pruner \x7b type_id: " ++ p.type.debug ++ ", strategy: " ++ p.strategy.debug ++
    ", registry: " ++ p.registry.debug ++ ", labels: " ++ Text.quotedPairs p.labels.entries ++
    ", namespace: " ++ debugNamespace p.ns ++ ", dry_run: " ++ truthName p.dryRun ++
    ", respect_preserve_annotation: " ++ truthName p.respectPreserve ++
    ", pre_delete_hook: " ++ truthName p.hook.isSome ++ ", .. \x7d"

end Pruner

end Retention
