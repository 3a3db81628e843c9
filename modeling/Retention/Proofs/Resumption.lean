import Retention.Proofs.Accounting
import Retention.Proofs.Candidates
import Retention.Proofs.Memory

/-!
# Passes that take up where another stopped

A pass that stops in the midst of its deletions can be run again.  Over a store in memory, with a
strategy that selects by itself, a registry that judges each object by itself and a clock that
stands still, the next undisturbed pass deletes what was left of the first selection, in its order
(`resumption`).

`Selects` says what a pass selects among held objects.  It is carried from the first pass to the
next one by `Selects.without`: without the objects of a beginning of the selection, the rest of it
is selected.
-/

namespace Retention

variable {σ : Type}

/-- A pass in which the token stays quiet, and no call of the store or the hook fails. -/
structure Undisturbed (pass : Progress σ (List Object)) : Prop where
  quiet : pass.scene.token.hasFired = false
  unfailing : failures pass.trace = []

namespace Pruner

/-- What a pass selects depends on nothing but the objects that are listed. -/
structure Foreseeable (p : Pruner σ) (verdict : Object → Verdict) (now : Instant) : Prop where
  builtIn : p.strategy.isBuiltIn = true
  judges : p.JudgesBy verdict
  clock : ∀ s, p.clock s = now

/-- A pass with these verdicts at this instant comes to a selection among held objects. -/
structure Selects (p : Pruner σ) (verdict : Object → Verdict) (now : Instant)
    (held selection : List Object) : Prop where
  valid : p.check = .ok ()
  faultless : ∀ l ∈ held, p.Faultless verdict l
  selected : p.strategy.builtInSelection (p.survivors verdict held) now = .ok selection

variable {p : Pruner σ} {verdict : Object → Verdict} {now : Instant}

/-- Without the objects of a beginning of a selection, a pass selects the rest of it. -/
theorem Selects.without {held selection : List Object} (selects : p.Selects verdict now held selection)
    (distinct : (held.map Object.key).Nodup) {k : Nat} (le : k ≤ selection.length) :
    p.Selects verdict now (withoutKeys ((selection.take k).map Object.key) held)
      (selection.drop k) := by
  constructor
  case valid => exact selects.valid
  case faultless => exact fun l mem => selects.faultless l (List.mem_of_mem_filter mem)
  case selected =>
    rw [survivors_withoutKeys]
    exact Strategy.builtInSelection_without (survivors_distinct distinct) selects.selected le

variable {store : Store σ} {held : σ → List Object} {scene after : Scene σ}
  {selection : List Object} {trace : List Event}

/-! ## The choice -/

section Choosing

variable (foreseeable : p.Foreseeable verdict now) (memory : p.InMemory store held)

include foreseeable memory

/-- A pass that comes to a selection comes to that among the held objects. -/
theorem Choice.selects (choice : p.Choice store scene ⟨.ok selection, after, trace⟩) :
    p.Selects verdict now (held scene.state) selection ∧ held after.state = held scene.state := by
  obtain ⟨listed, candidates, middle, last, first, second, third, valid, listing, filtering,
    selecting, rfl⟩ := choice.of_ok
  obtain ⟨rfl, kept⟩ := listing.held_eq memory
  have filtered := filtering.held_eq memory
  have faultless := filtering.faultless foreseeable.judges rfl
  have survivors : candidates = p.survivors verdict (held scene.state) :=
    Except.ok.inj (filtering.outcome_of_faultless foreseeable.judges faultless)
  cases selecting with
  | answered called answer =>
    rw [Strategy.run_select foreseeable.builtIn, foreseeable.clock, survivors] at called
    subst called
    exact ⟨⟨valid, faultless, answer⟩, filtered.trans kept⟩

/-- An undisturbed pass comes to a selection where there is one. -/
theorem Choice.ok_of_selects {r : Progress σ (List Object)} (choice : p.Choice store scene r)
    (quiet : r.scene.token.hasFired = false) (unfailing : failures r.trace = [])
    (selects : p.Selects verdict now (held scene.state) selection) : r.outcome = .ok selection := by
  cases choice with
  | invalid invalid =>
    rw [selects.valid] at invalid
    cases invalid
  | unlisted _ listing =>
    cases listing with
    | cancelledBefore fired =>
      rw [quiet] at fired
      cases fired
    | givenUp _ _ _ => simp [startedEvent] at unfailing
    | failed _ _ _ => simp [startedEvent] at unfailing
  | unfiltered _ listing filtering =>
    obtain ⟨rfl, -⟩ := listing.held_eq memory
    cases filtering.outcome_of_faultless foreseeable.judges selects.faultless
  | selected _ listing filtering selecting =>
    obtain ⟨rfl, -⟩ := listing.held_eq memory
    have survivors := Except.ok.inj
      (filtering.outcome_of_faultless foreseeable.judges selects.faultless)
    cases selecting with
    | failed called answer =>
      rw [Strategy.run_select foreseeable.builtIn, foreseeable.clock, survivors] at called
      subst called
      cases answer.symm.trans selects.selected
    | answered called answer =>
      rw [Strategy.run_select foreseeable.builtIn, foreseeable.clock, survivors] at called
      subst called
      have same := answer.symm.trans selects.selected
      cases same
      rfl

end Choosing

/-! ## The removal -/

/-- Something goes wrong in an attempt that stops the pass. -/
theorem Attempt.disturbed {o : Object} {earlier : List ResourceKey} {e : PruneError}
    (attempt : p.Attempt store o earlier scene ⟨.error e, after, trace⟩)
    (quiet : after.token.hasFired = false) : failures trace ≠ [] := by
  cases attempt with
  | cancelledBefore fired =>
    have later := hasFired_looked fired
    cases later.symm.trans quiet
  | refused _ hook => simp [hook.failures_eq]
  | cancelledAfterHook _ _ fired => cases fired.symm.trans quiet
  | givenUp _ _ _ _ _ => simp
  | failed _ _ _ _ _ => simp

/-- An undisturbed removal comes to its end. -/
theorem Removal.ok_of_undisturbed {earlier : List ResourceKey} {r : Progress σ Unit}
    (removal : p.Removal store selection earlier scene r) (quiet : r.scene.token.hasFired = false)
    (unfailing : failures r.trace = []) : r.outcome = .ok () := by
  induction removal with
  | finished => rfl
  | stopped attempt => exact (attempt.disturbed quiet unfailing).elim
  | next _ _ ih =>
    simp only [Progress.after, viewed_append, List.append_eq_nil_iff] at unfailing
    exact ih quiet unfailing.2

/-! ## The passes -/

/-- An undisturbed real pass deletes the selection among the held objects, where there is one. -/
theorem Course.of_undisturbed {r : Progress σ (List Object)} (course : p.Course store scene r)
    (real : p.dryRun = false) (foreseeable : p.Foreseeable verdict now)
    (memory : p.InMemory store held) (undisturbed : Undisturbed r)
    (selects : p.Selects verdict now (held scene.state) selection) :
    r.outcome = .ok selection ∧ deletions r.trace = selection.map p.goneDeletion := by
  obtain ⟨quiet, unfailing⟩ := undisturbed
  cases course with
  | dry dry _ => cases dry.symm.trans real
  | unchosen chosen =>
    have ends := (choice_of_run chosen).ok_of_selects foreseeable memory quiet unfailing selects
    cases ends
  | stopped _ _ removal =>
    simp only [viewed_append, List.append_eq_nil_iff] at unfailing
    cases removal.ok_of_undisturbed quiet unfailing.2
  | complete _ chosen removal =>
    have choice := choice_of_run chosen
    have same := (choice.selects foreseeable memory).1.selected.symm.trans selects.selected
    cases same
    refine ⟨rfl, ?_⟩
    simp only [viewed_append, choice.deletions_eq, removal.tally.of_ok, List.nil_append, viewed_cons,
      viewed_nil, Event.deletion?, Option.toList_none, List.append_nil]

/-- How two passes go together: `first` stops after `k` of the objects it selected are gone, `next`
takes up what it left, and `whole` starts where `first` did and is not stopped. -/
structure Resumes (p : Pruner σ) (selection : List Object) (k : Nat)
    (first next whole : Progress σ (List Object)) : Prop where
  /-- A pass that ends well leaves nothing to select. -/
  ended : ∀ returned, first.outcome = .ok returned →
    returned = selection ∧ k = selection.length ∧ next.outcome = .ok []
  /-- An error carries the keys of the objects that are gone, but for the last of them where its
  deletion was given up. -/
  stopped : ∀ e, first.outcome = .error e →
    e.deleted = (selection.take k).map Object.key ∨
      ∃ j, k = j + 1 ∧ e = .cancelled ((selection.take j).map Object.key)
  /-- The next pass deletes the rest of the selection. -/
  rest : next.outcome = .ok (selection.drop k) ∧
    deletions next.trace = (selection.drop k).map p.goneDeletion
  /-- An uninterrupted pass deletes the whole of it. -/
  all : whole.outcome = .ok selection ∧ deletions whole.trace = selection.map p.goneDeletion
  /-- Together the two passes delete what the uninterrupted one does, in its order. -/
  keys : (selection.take k).map Object.key ++ goneKeys next.trace = goneKeys whole.trace

/-- However a real pass ends after its strategy selected objects, those of a beginning of the
selection are gone, and an undisturbed pass over what is left deletes the others. -/
theorem resumption (p : Pruner σ) (store : Store σ) {held : σ → List Object}
    {verdict : Object → Verdict} {now : Instant} (foreseeable : p.Foreseeable verdict now)
    (memory : p.InMemory store held) (real : p.dryRun = false) {scene again start : Scene σ}
    (distinct : ((held scene.state).map Object.key).Nodup) {candidates selection : List Object}
    (selected : .selected candidates (.ok selection) ∈ ((p.prune store).run scene).trace)
    (left : held again.state = held ((p.prune store).run scene).scene.state)
    (same : held start.state = held scene.state)
    (next : Undisturbed ((p.prune store).run again))
    (whole : Undisturbed ((p.prune store).run start)) :
    ∃ k ≤ selection.length,
      held ((p.prune store).run scene).scene.state =
        withoutKeys ((selection.take k).map Object.key) (held scene.state) ∧
      p.Resumes selection k ((p.prune store).run scene) ((p.prune store).run again)
        ((p.prune store).run start) := by
  obtain ⟨middle, first, removed, choice, removal, returns, ends, state, -⟩ :=
    (prune_course store scene).removal_of_selected real selected
  obtain ⟨selects, kept⟩ := choice.selects foreseeable memory
  obtain ⟨k, le, gone, finished, stopped⟩ := removal.exists_held memory
  rw [kept, ← state] at gone
  -- Both later passes are undisturbed, so each deletes what there is to select where it starts.
  have selectsRest : p.Selects verdict now (held again.state) (selection.drop k) := by
    rw [left, gone]
    exact selects.without distinct le
  have selectsAll : p.Selects verdict now (held start.state) selection := by
    rw [same]
    exact selects
  have rest := (prune_course store again).of_undisturbed real foreseeable memory next selectsRest
  have all := (prune_course store start).of_undisturbed real foreseeable memory whole selectsAll
  refine ⟨k, le, gone, ?_⟩
  constructor
  case ended =>
    intro returned ok
    obtain ⟨rfl, ending⟩ := returns returned ok
    have through := finished ending
    rw [through, List.drop_length] at rest
    exact ⟨rfl, through, rest.1⟩
  case stopped =>
    intro e stops
    simpa using stopped e (ends e stops)
  case rest => exact rest
  case all => exact all
  case keys =>
    rw [goneKeys, goneKeys, rest.2, all.2, goneKeys_goneDeletion, goneKeys_goneDeletion,
      ← List.map_append, List.take_append_drop]

end Pruner

/-! ## Rehearsed passes -/

namespace Rehearsed

/-- The same pruner with a clock that stands still. -/
def timelessPruner : Pruner Stage := { pruner with clock := fun _ => .epoch }

/-- The verdicts of a registry without predicates. -/
def typedVerdict (o : Object) : Verdict :=
  match o.type? with
  | none => .error (.missingTypeMeta o.key)
  | some _ => .ok ()

theorem foreseeable_timelessPruner : timelessPruner.Foreseeable typedVerdict .epoch := by
  constructor
  case builtIn => rfl
  case judges =>
    intro o s
    change ((Registry.empty.judge o).run s).answer = typedVerdict o
    unfold Registry.judge typedVerdict
    cases o.type? <;> rfl
  case clock => exact fun _ => rfl

theorem inMemory_timelessPruner :
    timelessPruner.InMemory Stage.store (Stage.found timelessPruner.request) := by
  apply Stage.inMemory
  · intro o s
    change Stage.found _ ((Registry.empty.judge o).run s).state = _
    unfold Registry.judge
    cases o.type? <;> rfl
  · rintro hook ⟨⟩ o s
    rfl

end Rehearsed

namespace Pruner

open Rehearsed in
theorem resumption_rehearsed :
    ((timelessPruner.prune Stage.store).run ⟨stage, .quiet⟩).outcome =
        .error (.delete ⟨none, "b"⟩ [⟨none, "a"⟩] (.other "held")) ∧
      ∃ k ≤ 2,
        Stage.found timelessPruner.request
            ((timelessPruner.prune Stage.store).run ⟨stage, .quiet⟩).scene.state =
          withoutKeys (([pod "a" (-2), pod "b" (-1)].take k).map Object.key) stage.objects ∧
        timelessPruner.Resumes [pod "a" (-2), pod "b" (-1)] k
          ((timelessPruner.prune Stage.store).run ⟨stage, .quiet⟩)
          ((timelessPruner.prune Stage.store).run
            ⟨.start [bare "b" (-1), bare "c" 1] .epoch, .quiet⟩)
          ((timelessPruner.prune Stage.store).run
            ⟨.start [bare "a" (-2), bare "b" (-1), bare "c" 1] .epoch, .quiet⟩) := by
  have distinct : ((Stage.found timelessPruner.request stage).map Object.key).Nodup := by
    change [ResourceKey.mk none "a", ⟨none, "b"⟩, ⟨none, "c"⟩].Nodup
    decide
  have selected :
      .selected [pod "a" (-2), pod "b" (-1), pod "c" 1] (.ok [pod "a" (-2), pod "b" (-1)]) ∈
        ((timelessPruner.prune Stage.store).run ⟨stage, .quiet⟩).trace :=
    List.mem_of_getElem? (i := 5) rfl
  exact ⟨rfl, resumption _ _ foreseeable_timelessPruner inMemory_timelessPruner rfl distinct
    selected rfl rfl ⟨rfl, rfl⟩ ⟨rfl, rfl⟩⟩

end Pruner

end Retention
