import Retention.Proofs.Accounting
import Retention.Proofs.Phases
import Retention.Pruner.Amendment

/-!
# Valid settings

The settings of a strategy are checked twice: before a pass, when there is no object yet, and again
while it selects.  The two checks find the same faults (`Strategy.select_config_iff`), so a pruner
that was built never stops with a fault of its settings.
-/

namespace Retention

variable {σ : Type}

/-! ## The two checks of a strategy -/

theorem selectByMaxCount_config_iff {candidates : List Object} {count : Int64} {e : ConfigError} :
    selectByMaxCount candidates count = .error (.config e) ↔
      (Strategy.maxCount count : Strategy σ).check = .error e := by
  by_cases negative : count < 0
  · simp [selectByMaxCount, Strategy.check, negative]
  · simp [selectByMaxCount, Strategy.check, negative]

theorem selectByMaxAge_config_iff {candidates : List Object} {age : String} {now : Instant}
    {e : ConfigError} :
    selectByMaxAge candidates age now = .error (.config e) ↔
      (Strategy.maxAge age : Strategy σ).check = .error e := by
  cases read : readMaxAge age with
  | error fault => simp [selectByMaxAge, Strategy.check, read, Except.map]
  | ok nanos =>
    simp only [selectByMaxAge, Strategy.check, read, Except.map]
    cases now.back nanos with
    | none => simp
    | some cutoff => simp

/-- A strategy finds a fault of its settings while it selects exactly where the check finds it,
whatever the candidates. -/
theorem Strategy.select_config_iff (strategy : Strategy σ) (candidates : List Object)
    (now : Instant) (s : σ) (e : ConfigError) :
    ((strategy.select candidates now).run s).answer = .error (.config e) ↔
      strategy.check = .error e := by
  cases strategy with
  | maxCount count => exact selectByMaxCount_config_iff
  | maxAge age => exact selectByMaxAge_config_iff
  | olderThan cutoff =>
    change (Except.ok _ = .error _) ↔ (Except.ok () = .error e)
    simp
  | custom selector =>
    cases selector with
    | none =>
      change (Except.error _ = .error _) ↔ (Except.error _ = .error e)
      simp
    | some selector =>
      change ((selector candidates).run s).answer.mapError _ = .error _ ↔ (Except.ok () = .error e)
      cases ((selector candidates).run s).answer <;> simp [Except.mapError]

/-! ## Passes with valid settings -/

theorem PruneError.isEarly_of_isConfigError {e : PruneError} (config : e.isConfigError = true) :
    e.isEarly = true := by
  cases e with
  | config _ | strategy _ => rfl
  | _ => cases config

namespace Pruner

variable {p : Pruner σ} {store : Store σ} {scene : Scene σ}

/-- A choice with valid settings does not stop with a fault of them. -/
theorem Choice.not_isConfigError {r : Progress σ (List Object)} (choice : p.Choice store scene r)
    (valid : p.check = .ok ()) {e : PruneError} (stops : r.outcome = .error e) :
    e.isConfigError = false := by
  cases choice with
  | invalid invalid =>
    rw [valid] at invalid
    cases invalid
  | unlisted _ listing =>
    cases stops
    rcases listing.error_cases with rfl | ⟨_, rfl⟩ <;> rfl
  | unfiltered _ _ filtering =>
    rcases filtering.error_cases stops with ⟨_, _, rfl⟩ | ⟨_, _, rfl⟩ <;> rfl
  | @selected _ candidates _ after _ _ _ _ _ _ selecting =>
    cases selecting with
    | answered _ _ => cases stops
    | @failed source _ called answer =>
      cases stops
      cases source with
      | custom _ | beforeCalendar => rfl
      | config fault =>
        -- The strategy would find a fault that the check before the pass did not find.
        rw [← called, Strategy.select_config_iff, (check_ok_iff.mp valid).2] at answer
        cases answer

theorem not_isConfigError_of_check (valid : p.check = .ok ()) {e : PruneError}
    (stops : ((p.prune store).run scene).outcome = .error e) : e.isConfigError = false := by
  have course := prune_course (p := p) store scene
  generalize (p.prune store).run scene = pass at course stops
  rcases course.continuation with
    ⟨e, after, trace, chosen, rfl⟩ | ⟨selection, middle, first, later, chosen, continued⟩
  · exact (choice_of_run chosen).not_isConfigError valid stops
  · have late := continued.not_early stops
    by_contra config
    rw [PruneError.isEarly_of_isConfigError (Bool.not_eq_false _ ▸ config)] at late
    cases late

/-- The check of a strategy finds exactly the faults that would stop it while it selects, so no pass
of a pruner that was built, whatever changes of its settings came before, stops with such a fault. -/
theorem built_not_isConfigError :
    (∀ (strategy : Strategy σ) (candidates : List Object) (now : Instant) (s : σ) (e : ConfigError),
      ((strategy.select candidates now).run s).answer = .error (.config e) ↔
        strategy.check = .error e) ∧
    ∀ (strategy : Strategy σ) (clock : σ → Instant) (amendments : List (Amendment σ))
      (p : Pruner σ), (ofAmendments strategy clock amendments).build = .ok p →
      ∀ (store : Store σ) (scene : Scene σ) (e : PruneError),
        ((p.prune store).run scene).outcome = .error e → e.isConfigError = false := by
  refine ⟨Strategy.select_config_iff, ?_⟩
  intro strategy clock amendments p built store scene e stops
  obtain ⟨rfl, valid⟩ := build_eq_ok_iff.mp built
  exact not_isConfigError_of_check valid stops

end Pruner

/-! ## A rehearsed pass -/

namespace Rehearsed

/-- A strategy without its function, which is given later and then fails. -/
def lateSelector : List (Amendment Stage) :=
  [.registry .empty, .label "app" "reports",
    .selector (SelectionPlan.selector Stage.journal (.failing "no quota"))]

end Rehearsed

namespace Pruner

open Rehearsed in
theorem built_not_isConfigError_rehearsed :
    (Strategy.custom none : Strategy Stage).check = .error .missingCustomStrategy ∧
      (((Strategy.custom none).select [pod "a" (-2)] .epoch).run stage).answer =
        .error (.config .missingCustomStrategy) ∧
      (ofAmendments (.custom none) Stage.now lateSelector).build =
        .ok (ofAmendments (.custom none) Stage.now lateSelector) ∧
      (((ofAmendments (.custom none) Stage.now lateSelector).prune Stage.store).run
        ⟨stage, .quiet⟩).outcome = .error (.strategy (.custom "no quota")) ∧
      (PruneError.strategy (.custom "no quota")).isConfigError = false := by
  obtain ⟨faults, passes⟩ := built_not_isConfigError (σ := Stage)
  have built : (ofAmendments (.custom none) Stage.now lateSelector).build =
      .ok (ofAmendments (.custom none) Stage.now lateSelector) := rfl
  have harmless := passes _ _ _ _ built Stage.store ⟨stage, .quiet⟩ _ rfl
  exact ⟨rfl, (faults _ _ _ _ _).mpr rfl, built, rfl, harmless⟩

end Pruner

end Retention
