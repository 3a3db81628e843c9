import Retention.Config.Basic
import Retention.Pruner.Amendment
import Retention.Rehearsal.Stage

/-!
# The faults of settings

Settings can have many faults at once, and a check reports one of them.  `Config.faults` lists them
all: those of the target in the order type, namespace, labels, and then those of the strategy.  The
check of a configuration reports the first one (`Config.check_eq_firstOf`), and so does building the
pruner that it makes, with one difference: a function that is left to be given is a fault there.
Where it is given, only the target is left to be at fault.
-/

namespace Retention

variable {σ ε : Type}

/-! ## The first of many faults -/

/-- What a check comes to that reports the first of these faults. -/
def firstOf : List ε → Except ε Unit
  | [] => .ok ()
  | fault :: _ => .error fault

/-- The fault that a check reports, if it reports one. -/
def faultsOf : Except ε Unit → List ε
  | .ok () => []
  | .error fault => [fault]

theorem firstOf_faultsOf (check : Except ε Unit) : firstOf (faultsOf check) = check := by
  cases check <;> rfl

/-- A later fault is reported where there is no earlier one. -/
theorem firstOf_append (earlier later : List ε) :
    firstOf (earlier ++ later) =
      match firstOf earlier with
      | .error fault => .error fault
      | .ok () => firstOf later := by
  cases earlier <;> rfl

theorem firstOf_map {δ : Type} (f : ε → δ) (faults : List ε) :
    firstOf (faults.map f) = (firstOf faults).mapError f := by
  cases faults <;> rfl

/-- A fault that is looked for first. -/
theorem firstOf_ite_append {c : Prop} [Decidable c] (fault : ε) (later : List ε) :
    firstOf ((if c then [fault] else []) ++ later) =
      if c then .error fault else firstOf later := by
  split <;> rfl

/-! ## Targets -/

/-- The faults of a label: that of its key, and then that of its value. -/
def labelFaults (entry : String × String) : List LabelFault :=
  (faultsOf (checkKey entry.1)).map (.key entry.1) ++
    (faultsOf (checkValue entry.2)).map (.value entry.1 entry.2)

/-- The faults of a target, in the order in which they are looked for. -/
def targetFaults (type : TypeIdentifier) (ns : Option String) (labels : Labels) :
    List ConfigError :=
  (if type.version.isEmpty then [.emptyTypeField .version] else []) ++
    ((if type.kind.isEmpty then [.emptyTypeField .kind] else []) ++
      ((if ns = some "" then [.emptyNamespace] else []) ++
        (labels.entries.flatMap labelFaults).map .invalidLabel))

theorem checkLabel_eq_firstOf (entry : String × String) :
    checkLabel entry.1 entry.2 = firstOf (labelFaults entry) := by
  unfold checkLabel labelFaults
  rw [firstOf_append, firstOf_map, firstOf_map, firstOf_faultsOf, firstOf_faultsOf]
  cases checkKey entry.1 <;> rfl

theorem checkEntries_eq_firstOf (entries : List (String × String)) :
    checkEntries entries = firstOf (entries.flatMap labelFaults) := by
  induction entries with
  | nil => rfl
  | cons entry rest ih =>
    obtain ⟨key, value⟩ := entry
    have first := checkLabel_eq_firstOf (key, value)
    simp only at first
    rw [checkEntries, List.flatMap_cons, firstOf_append, ← first, ih]
    cases checkLabel key value <;> rfl

/-- The check of a target reports its first fault. -/
theorem checkTarget_eq_firstOf (type : TypeIdentifier) (ns : Option String) (labels : Labels) :
    checkTarget type ns labels = firstOf (targetFaults type ns labels) := by
  unfold checkTarget targetFaults
  rw [firstOf_ite_append, firstOf_ite_append, firstOf_ite_append, firstOf_map,
    ← checkEntries_eq_firstOf]
  rfl

/-! ## Configurations -/

namespace StrategySettings

/-- Settings have the faults of their strategy, but for a function that is left to be given. -/
theorem check_of_ne_custom {settings : StrategySettings} (given : settings ≠ .custom) :
    settings.check = (settings.strategy : Strategy σ).check := by
  cases settings with
  | custom => exact absurd rfl given
  | _ => rfl

end StrategySettings

namespace Pruner

/-- Building a pruner fails with the fault that its check reports. -/
theorem build_eq_map (p : Pruner σ) : p.build = p.check.map fun _ => p := rfl

theorem check_of_strategy_ok {p : Pruner σ} (valid : p.strategy.check = .ok ()) :
    p.check = checkTarget p.type p.ns p.labels := by
  unfold check
  rw [valid]
  cases checkTarget p.type p.ns p.labels <;> rfl

end Pruner

namespace Config

/-- The faults of a configuration, in the order in which they are looked for. -/
def faults (c : Config) : List ConfigError :=
  targetFaults c.type c.ns c.labels ++ faultsOf c.strategy.check

/-- The check of a configuration reports its first fault. -/
theorem check_eq_firstOf (c : Config) : c.check = firstOf c.faults := by
  unfold check faults
  rw [firstOf_append, firstOf_faultsOf, ← checkTarget_eq_firstOf]
  cases checkTarget c.type c.ns c.labels <;> rfl

variable (c : Config) (clock : σ → Instant)

/-- A function that is left to be given is no fault of a configuration. -/
theorem faults_of_custom (custom : c.strategy = .custom) :
    c.faults = targetFaults c.type c.ns c.labels := by
  rw [faults, custom]
  exact List.append_nil _

/-- The pruner that a configuration makes is checked as the configuration is, unless a function is
left to be given. -/
theorem check_pruner_of_ne_custom (given : c.strategy ≠ .custom) :
    (c.pruner clock).check = c.check := by
  unfold Pruner.check check
  rw [StrategySettings.check_of_ne_custom (σ := σ) given]
  rfl

/-- Where a function is left to be given, its lack is the last fault of the pruner. -/
theorem check_pruner_of_custom (custom : c.strategy = .custom) :
    (c.pruner clock).check = firstOf (c.faults ++ [.missingCustomStrategy]) := by
  have lacks : (c.pruner clock).strategy.check = .error .missingCustomStrategy := by
    simp only [pruner, custom]
    rfl
  have same : checkTarget (c.pruner clock).type (c.pruner clock).ns (c.pruner clock).labels =
      firstOf c.faults := by
    rw [c.faults_of_custom custom, ← checkTarget_eq_firstOf]
    rfl
  unfold Pruner.check
  rw [lacks, same, firstOf_append]
  cases firstOf c.faults <;> rfl

/-- Once its function is given, only the target of a pruner is left to be at fault. -/
theorem check_amend_selector (selector : Selector σ) :
    ((c.pruner clock).amend (.selector selector)).check =
      firstOf (targetFaults c.type c.ns c.labels) := by
  rw [← checkTarget_eq_firstOf]
  exact Pruner.check_of_strategy_ok rfl

/-- Checking a configuration and building its pruner report the same fault, whatever faults there are
together.  A function that is left to be given makes the one difference: the check says nothing of
it, and building reports its lack after all other faults.  Where it is given, whatever the strategy
was, building reports the first fault of the target. -/
theorem check_agrees_build :
    c.check = firstOf c.faults ∧
      (c.strategy ≠ .custom → (c.pruner clock).build = c.check.map fun _ => c.pruner clock) ∧
      (c.strategy = .custom →
        c.check = firstOf (targetFaults c.type c.ns c.labels) ∧
          (c.pruner clock).build =
            match c.check with
            | .error fault => .error fault
            | .ok () => .error .missingCustomStrategy) ∧
      (∀ selector : Selector σ,
        ((c.pruner clock).amend (.selector selector)).build =
          (firstOf (targetFaults c.type c.ns c.labels)).map fun _ =>
            (c.pruner clock).amend (.selector selector)) ∧
      (c.check = .ok () → ∀ selector : Selector σ,
        ((c.pruner clock).amend (.selector selector)).build =
          .ok ((c.pruner clock).amend (.selector selector))) := by
  have attached (selector : Selector σ) :
      ((c.pruner clock).amend (.selector selector)).build =
        (firstOf (targetFaults c.type c.ns c.labels)).map fun _ =>
          (c.pruner clock).amend (.selector selector) := by
    rw [Pruner.build_eq_map, check_amend_selector]
  refine ⟨c.check_eq_firstOf, ?_, ?_, attached, ?_⟩
  · intro given
    rw [Pruner.build_eq_map, c.check_pruner_of_ne_custom clock given]
  · intro custom
    constructor
    · rw [check_eq_firstOf, c.faults_of_custom custom]
    · rw [Pruner.build_eq_map, c.check_pruner_of_custom clock custom, firstOf_append,
        ← check_eq_firstOf]
      cases c.check <;> rfl
  · intro valid selector
    have target : firstOf (targetFaults c.type c.ns c.labels) = .ok () := by
      rw [check_eq_firstOf, faults, firstOf_append] at valid
      cases first : firstOf (targetFaults c.type c.ns c.labels) with
      | error _ =>
        rw [first] at valid
        cases valid
      | ok _ => rfl
    rw [attached, target]
    rfl

end Config

/-! ## Rehearsed configurations -/

namespace Rehearsed

/-- A configuration with a fault in every place, and two in its one label. -/
def faulty : Config where
  type := ⟨"batch", "", ""⟩
  strategy := .maxCount (-1)
  labels := TextMap.ofList [("a b", "-")]
  ns := some ""
  dryRun := false
  respectPreserve := false

/-- The same configuration where nothing but the label is at fault, and a function is to be given. -/
def waiting : Config :=
  { faulty with type := .job, strategy := .custom, ns := none }

end Rehearsed

namespace Config

open Rehearsed in
theorem check_agrees_build_rehearsed :
    faulty.faults = [.emptyTypeField .version, .emptyTypeField .kind, .emptyNamespace,
        .invalidLabel (.key "a b" (.name .malformed)),
        .invalidLabel (.value "a b" "-" .malformed), .negativeMaxCount (-1)] ∧
      faulty.strategy ≠ .custom ∧
      (faulty.pruner Stage.now).build = .error (.emptyTypeField .version) ∧
      waiting.strategy = .custom ∧
      (waiting.pruner Stage.now).build =
        .error (.invalidLabel (.key "a b" (.name .malformed))) ∧
      { waiting with labels := .empty }.check = .ok () ∧
      ∃ p, ((Config.pruner { waiting with labels := .empty } Stage.now).amend
        (.selector fun candidates => .answer (.ok candidates))).build = .ok p := by
  have faults : faulty.faults = [.emptyTypeField .version, .emptyTypeField .kind, .emptyNamespace,
      .invalidLabel (.key "a b" (.name .malformed)),
      .invalidLabel (.value "a b" "-" .malformed), .negativeMaxCount (-1)] := by decide +kernel
  have given : faulty.strategy ≠ .custom := nofun
  obtain ⟨first, built, -⟩ := check_agrees_build faulty Stage.now
  obtain ⟨malformed, -, lacking, -⟩ := check_agrees_build waiting Stage.now
  obtain ⟨-, -, -, -, valid⟩ := check_agrees_build { waiting with labels := .empty } Stage.now
  have others : waiting.faults = [.invalidLabel (.key "a b" (.name .malformed)),
      .invalidLabel (.value "a b" "-" .malformed)] := by decide +kernel
  refine ⟨faults, given, ?_, rfl, ?_, rfl, _, valid rfl _⟩
  · rw [built given, first, faults]
    rfl
  · rw [(lacking rfl).2, malformed, others]
    rfl

end Config

end Retention
