import Retention.Proofs.Choice
import Retention.Proofs.Removal

/-!
# The course of a pass

`Course` puts the choice of a selection and its removal together: a pass stops before it has a
selection, or only says what it would delete, or deletes until it stops or is through.
`prune_course` says that every pass takes one of these courses.
-/

namespace Retention

variable {σ : Type}

namespace Pruner

variable (p : Pruner σ)

/-- The reports of a pass that removes nothing. -/
def dryReports (selection : List Object) : List Event :=
  (selection.map fun o => .reported (.wouldDelete o.key)) ++
    [.reported (.dryRunComplete p.type selection.length)]

/-- Reports are not seen where none of them is. -/
theorem viewed_dryReports {α : Type} {see : Event → Option α}
    (blind : ∀ notice, see (.reported notice) = none) (selection : List Object) :
    viewed see (p.dryReports selection) = [] := by
  simp [dryReports, viewed, List.filterMap_append, List.filterMap_map, blind]

/-- The courses that a pass can take. -/
inductive Course (store : Store σ) (scene : Scene σ) : Progress σ (List Object) → Prop
  /-- It has no selection. -/
  | unchosen {after : Scene σ} {e : PruneError} {trace : List Event} :
    (p.chosen store).run scene = ⟨.error e, after, trace⟩ →
    Course store scene ⟨.error e, after, trace⟩
  /-- It says what it would delete. -/
  | dry {selection : List Object} {after : Scene σ} {trace : List Event} :
    p.dryRun = true → (p.chosen store).run scene = ⟨.ok selection, after, trace⟩ →
    Course store scene ⟨.ok selection, after, trace ++ p.dryReports selection⟩
  /-- It stops on the way through its selection. -/
  | stopped {selection : List Object} {middle after : Scene σ} {e : PruneError}
    {first second : List Event} :
    p.dryRun = false → (p.chosen store).run scene = ⟨.ok selection, middle, first⟩ →
    p.Removal store selection [] middle ⟨.error e, after, second⟩ →
    Course store scene ⟨.error e, after, first ++ second⟩
  /-- It deletes its selection. -/
  | complete {selection : List Object} {middle after : Scene σ} {first second : List Event} :
    p.dryRun = false → (p.chosen store).run scene = ⟨.ok selection, middle, first⟩ →
    p.Removal store selection [] middle ⟨.ok (), after, second⟩ →
    Course store scene
      ⟨.ok selection, after,
        first ++ second ++ [.reported (.complete p.type selection.length)]⟩

variable {p}

theorem run_wouldDelete (selection : List Object) (scene : Scene σ) :
    (wouldDelete selection).run scene =
      ⟨.ok (), scene, selection.map fun o => .reported (.wouldDelete o.key)⟩ := by
  induction selection with
  | nil => rfl
  | cons o rest ih =>
    have first : (Pass.report (.wouldDelete o.key)).run scene =
      ⟨.ok (), scene, [.reported (.wouldDelete o.key)]⟩ := rfl
    unfold wouldDelete
    rw [Pass.run_bind_of_ok first, ih]
    rfl

/-- Every pass takes one of the courses of `Course`. -/
theorem prune_course (store : Store σ) (scene : Scene σ) :
    p.Course store scene ((p.prune store).run scene) := by
  unfold prune
  generalize chosen : (p.chosen store).run scene = r
  obtain ⟨outcome, middle, first⟩ := r
  cases outcome with
  | error e =>
    rw [Pass.run_bind_of_error chosen]
    exact .unchosen chosen
  | ok selection =>
    rw [Pass.run_bind_of_ok chosen]
    unfold removed
    cases dry : p.dryRun with
    | true =>
      have course := Course.dry dry chosen
      have reported : ((do
          wouldDelete selection
          Pass.report (.dryRunComplete p.type selection.length)) : Pass σ Unit).run middle =
            ⟨.ok (), middle, p.dryReports selection⟩ := by
        rw [Pass.run_bind_of_ok (run_wouldDelete selection middle)]
        rfl
      simp only [if_true]
      rw [Pass.run_bind_of_ok reported]
      simpa [Progress.after, Pass.run, Pass.done] using course
    | false =>
      have removal := deleteAll_removal (p := p) store selection [] middle
      generalize deleted : (p.deleteAll store selection []).run middle = r at removal
      obtain ⟨outcome, after, second⟩ := r
      simp only [Bool.false_eq_true, if_false]
      cases outcome with
      | error e =>
        rw [Pass.run_bind_of_error (Pass.run_bind_of_error deleted)]
        exact .stopped dry chosen removal
      | ok _ =>
        have course := Course.complete dry chosen removal
        rw [Pass.run_bind_of_ok (Pass.run_bind_of_ok deleted)]
        simpa [Progress.after, Pass.run, Pass.done, Pass.report] using course

theorem choice_of_run {store : Store σ} {scene : Scene σ} {r : Progress σ (List Object)}
    (chosen : (p.chosen store).run scene = r) : p.Choice store scene r :=
  chosen ▸ chosen_choice store scene

/-- What the strategy selects is what the pass goes on with: a real pass whose trace has a selection
removes this selection, after a part that removes nothing. -/
theorem Course.removal_of_selected {store : Store σ} {scene : Scene σ}
    {r : Progress σ (List Object)} {candidates selection : List Object}
    (course : p.Course store scene r) (real : p.dryRun = false)
    (selected : .selected candidates (.ok selection) ∈ r.trace) :
    ∃ middle first left, p.Choice store scene ⟨.ok selection, middle, first⟩ ∧
      p.Removal store selection [] middle left ∧
      (∀ returned, r.outcome = .ok returned → returned = selection ∧ left.outcome = .ok ()) ∧
      (∀ e, r.outcome = .error e → left.outcome = .error e) ∧ r.scene = left.scene ∧
      removals r.trace = removals left.trace := by
  have seen : selection ∈ selections r.trace := mem_viewed.mpr ⟨_, selected, rfl⟩
  cases course with
  | unchosen chosen =>
    rw [(choice_of_run chosen).selections_eq] at seen
    cases seen
  | dry dry _ => cases dry.symm.trans real
  | stopped _ chosen removal =>
    have choice := choice_of_run chosen
    have chosen := choice.selections_eq
    have none := removal.selections_eq
    simp only [Except.toOption, Option.toList_some] at chosen
    simp only [viewed_append, chosen, none, List.append_nil, List.mem_singleton] at seen
    subst seen
    refine ⟨_, _, _, choice, removal, ?_, ?_, rfl, by simp [choice.removals_eq]⟩
    · rintro _ ⟨⟩
    · rintro _ ⟨⟩
      rfl
  | complete _ chosen removal =>
    have choice := choice_of_run chosen
    have chosen := choice.selections_eq
    have none := removal.selections_eq
    simp only [Except.toOption, Option.toList_some] at chosen
    simp only [viewed_append, chosen, none, List.append_nil, viewed_cons, viewed_nil,
      Event.selection?, Option.toList_none, List.mem_singleton] at seen
    subst seen
    refine ⟨_, _, _, choice, removal, ?_, ?_, rfl, by simp [choice.removals_eq]⟩
    · rintro _ ⟨⟩
      exact ⟨rfl, rfl⟩
    · rintro _ ⟨⟩

/-! ## Cancelled passes -/

section Cancelled

variable {store : Store σ} {scene : Scene σ} {deleted : List ResourceKey}

theorem hasFired_looked {token : Token} (fired : token.hasFired = true) :
    token.looked.hasFired = true := by
  obtain ⟨looks⟩ := token
  simp only [Token.hasFired, decide_eq_true_eq] at fired
  subst fired
  rfl

theorem hasFired_awaited {α : Type} {reply : Reply σ (Option α)} (none : reply.answer = none) :
    (scene.awaited reply).token.hasFired = true := by
  simp [Scene.awaited, none, Token.afterCall, Token.hasFired, Token.fired]

theorem Listing.hasFired_of_cancelled {r : Progress σ (List Object)}
    (listing : p.Listing store scene r) (cancelled : r.outcome = .error (.cancelled deleted)) :
    r.scene.token.hasFired = true := by
  cases listing with
  | cancelledBefore fired => exact fired
  | givenUp _ _ answer => exact hasFired_awaited answer
  | failed _ _ _ => cases cancelled
  | answered _ _ _ => cases cancelled

theorem Filtering.ne_cancelled {listed : List Object} {r : Progress σ (List Object)}
    (filtering : p.Filtering listed scene r) : r.outcome ≠ .error (.cancelled deleted) := by
  intro cancelled
  rcases filtering.error_cases cancelled with ⟨_, _, mistyped⟩ | ⟨_, _, undecided⟩
  · cases mistyped
  · cases undecided

theorem Choice.hasFired_of_cancelled {r : Progress σ (List Object)}
    (choice : p.Choice store scene r) (cancelled : r.outcome = .error (.cancelled deleted)) :
    r.scene.token.hasFired = true := by
  cases choice with
  | invalid _ => cases cancelled
  | unlisted _ listing => exact listing.hasFired_of_cancelled cancelled
  | unfiltered _ _ filtering => exact (filtering.ne_cancelled cancelled).elim
  | selected _ _ _ selecting => cases selecting <;> cases cancelled

theorem Attempt.hasFired_of_cancelled {o : Object} {earlier : List ResourceKey}
    {r : Progress σ Unit} (attempt : p.Attempt store o earlier scene r)
    (cancelled : r.outcome = .error (.cancelled deleted)) : r.scene.token.hasFired = true := by
  cases attempt with
  | cancelledBefore fired => exact hasFired_looked fired
  | refused _ _ => cases cancelled
  | cancelledAfterHook _ _ fired => exact fired
  | givenUp _ _ _ _ answer => exact hasFired_awaited answer
  | failed _ _ _ _ _ => cases cancelled
  | gone _ _ _ _ _ => cases cancelled

theorem Removal.hasFired_of_cancelled {selection : List Object} {earlier : List ResourceKey}
    {r : Progress σ Unit} (removal : p.Removal store selection earlier scene r)
    (cancelled : r.outcome = .error (.cancelled deleted)) : r.scene.token.hasFired = true := by
  induction removal with
  | finished => cases cancelled
  | stopped attempt => exact attempt.hasFired_of_cancelled cancelled
  | next _ _ ih => exact ih cancelled

/-- A pass is cancelled only where the token has fired. -/
theorem Course.hasFired_of_cancelled {r : Progress σ (List Object)} (course : p.Course store scene r)
    (cancelled : r.outcome = .error (.cancelled deleted)) : r.scene.token.hasFired = true := by
  cases course with
  | unchosen chosen => exact (choice_of_run chosen).hasFired_of_cancelled cancelled
  | dry _ _ => cases cancelled
  | stopped _ _ removal =>
    apply removal.hasFired_of_cancelled
    injection cancelled with same
    rw [same]
  | complete _ _ _ => cases cancelled

end Cancelled

end Pruner

end Retention
