import Retention.Proofs.Candidates
import Retention.Proofs.Continuation
import Retention.Proofs.Trimming

/-!
# What a pass may remove

An object that a pass hands to its hook or to the store, or returns, is a `Survivor` of this pass: it
was listed, the registry found it prunable, and it did not ask to be kept, or was not heard.  A
strategy that selects by itself takes each survivor at most as often as it was listed.

The statement rests on `Choice.survivor`, about the part of a pass that removes nothing; what comes
later asks nothing more, so a survivor stays one (`Survivor.append`).
-/

namespace Retention

variable {σ : Type}

/-- A function of the user, where the strategy has one, selects only among the candidates it is
given. -/
def Strategy.SelectsCandidates (strategy : Strategy σ) : Prop :=
  ∀ selector, strategy = .custom (some selector) → ∀ candidates s selection,
    ((selector candidates).run s).answer = .ok selection → selection ⊆ candidates

theorem Strategy.selectsCandidates_of_builtIn {strategy : Strategy σ}
    (builtIn : strategy.isBuiltIn = true) : strategy.SelectsCandidates := by
  rintro selector rfl
  cases builtIn

theorem Strategy.SelectsCandidates.subset {strategy : Strategy σ}
    (selects : strategy.SelectsCandidates) {candidates selection : List Object} {now : Instant}
    {s : σ} (answer : ((strategy.select candidates now).run s).answer = .ok selection) :
    selection ⊆ candidates := by
  cases builtIn : strategy.isBuiltIn with
  | true =>
    rw [run_select builtIn] at answer
    exact (subperm_of_builtIn answer).subset
  | false =>
    cases strategy with
    | custom selector =>
      cases selector with
      | none => cases answer
      | some selector =>
        apply selects selector rfl candidates s selection
        change ((selector candidates).run s).answer.mapError StrategyError.custom =
          .ok selection at answer
        cases own : ((selector candidates).run s).answer with
        | error text =>
          rw [own] at answer
          cases answer
        | ok own =>
          rw [own] at answer
          cases answer
          rfl
    | _ => cases builtIn

namespace Pruner

variable {p : Pruner σ} {store : Store σ} {scene after : Scene σ} {selection : List Object}
  {trace : List Event} {o : Object}

/-- An object that a pass with this trace may remove. -/
structure Survivor (p : Pruner σ) (trace : List Event) (o : Object) : Prop where
  /-- The store was asked for objects once, and the object is a coerced one of its answer. -/
  listed : ∃ objects, listings trace = [(p.request, some (.ok objects))] ∧
    ∃ l ∈ objects, l.coerce p.type = .ok o ∧ o.metadata = l.metadata ∧ o.key = l.key
  prunable : .judged o (.ok ()) ∈ trace
  heard : p.respectPreserve = true → ∀ text,
    o.metadata.annotations.bind (·.get? preserveAnnotation) = some text → ¬ ReadsTrue text

/-- A survivor stays one while nothing is asked. -/
theorem Survivor.append {later : List Event} (survivor : p.Survivor trace o)
    (silent : inquiries later = []) : p.Survivor (trace ++ later) o := by
  have unlisted : listings later = [] := by
    rw [← listings_inquiries, silent]
    rfl
  obtain ⟨⟨objects, answer, listed⟩, prunable, heard⟩ := survivor
  refine ⟨⟨objects, ?_, listed⟩, List.mem_append_left later prunable, heard⟩
  simp only [viewed_append, unlisted, List.append_nil]
  exact answer

/-! ## The choice -/

/-- What the strategy selects are survivors. -/
theorem Choice.survivor (choice : p.Choice store scene ⟨.ok selection, after, trace⟩)
    (selects : p.strategy.SelectsCandidates) : ∀ o ∈ selection, p.Survivor trace o := by
  intro o mem
  obtain ⟨listed, candidates, middle, last, first, second, third, -, listing, filtering,
    selecting, rfl⟩ := choice.of_ok
  have candidate : o ∈ candidates := by
    cases selecting with
    | answered called answer =>
      rw [← called] at answer
      exact selects.subset answer mem
  have found : o ∈ prunableObjects second := by
    rw [← filtering.outcome_ok rfl]
    exact candidate
  have eligible : o ∈ listed.filterMap p.eligible? := filtering.prunableObjects_sublist.subset found
  obtain ⟨l, inListed, eligible⟩ := List.mem_filterMap.mp eligible
  obtain ⟨coerced, unheard⟩ := eligible?_eq_some.mp eligible
  constructor
  case listed =>
    have filtered : listings second = [] :=
      filtering.unseen (fun _ => rfl) (fun _ => rfl) fun _ _ => rfl
    have chosen : listings third = [] :=
      selecting.unseen (fun _ => rfl) (fun _ => rfl) fun _ _ => rfl
    refine ⟨listed, ?_, l, inListed, coerced, Object.metadata_of_coerce coerced,
      Object.key_of_coerce coerced⟩
    simp [startedEvent, listing.listings_of_ok, filtered, chosen]
  case prunable =>
    obtain ⟨event, inSecond, seen⟩ := mem_viewed.mp found
    have judged : event = .judged o (.ok ()) := by
      cases event with
      | judged x verdict =>
        cases verdict with
        | error _ => cases seen
        | ok _ => cases seen; rfl
      | _ => cases seen
    rw [← judged]
    exact List.mem_append_left third (List.mem_append_right _ inSecond)
  case heard =>
    intro respects text written reads
    have preserved : o.metadata.isPreserved = true :=
      Metadata.isPreserved_iff.mpr ⟨text, written, reads⟩
    rw [preserves, respects, preserved] at unheard
    cases unheard

/-- The objects that were found prunable are listed ones, none more often than it was listed. -/
theorem Choice.prunableObjects_sublist {r : Progress σ (List Object)}
    (choice : p.Choice store scene r) {objects : List Object}
    (listed : listings r.trace = [(p.request, some (.ok objects))]) :
    (prunableObjects r.trace).Sublist (objects.filterMap p.eligible?) := by
  have unfound {middle : Scene σ} {first : List Event} {outcome : Except PruneError (List Object)}
      (listing : p.Listing store scene ⟨outcome, middle, first⟩) : prunableObjects first = [] :=
    listing.unseen (fun _ => rfl) (fun _ => rfl) fun _ _ => rfl
  cases choice with
  | invalid _ => exact List.nil_sublist _
  | unlisted _ listing =>
    simp only [startedEvent, viewed_cons, Event.prunable?, Option.toList_none, List.nil_append,
      unfound listing]
    exact List.nil_sublist _
  | unfiltered _ listing filtering =>
    have filtered : listings _ = [] :=
      filtering.unseen (fun _ => rfl) (fun _ => rfl) fun _ _ => rfl
    simp only at filtered
    simp [startedEvent, listing.listings_of_ok, filtered] at listed
    simpa [startedEvent, unfound listing, listed] using filtering.prunableObjects_sublist
  | selected _ listing filtering selecting =>
    have filtered : listings _ = [] :=
      filtering.unseen (fun _ => rfl) (fun _ => rfl) fun _ _ => rfl
    have chosen : listings _ = [] :=
      selecting.unseen (fun _ => rfl) (fun _ => rfl) fun _ _ => rfl
    have later : prunableObjects _ = [] :=
      selecting.unseen (fun _ => rfl) (fun _ => rfl) fun _ _ => rfl
    simp only at filtered
    simp [startedEvent, Progress.after, listing.listings_of_ok, filtered, chosen] at listed
    simpa [startedEvent, Progress.after, unfound listing, later, listed] using
      filtering.prunableObjects_sublist

/-- A strategy that selects by itself selects no object more often than it was found prunable. -/
theorem Choice.selection_subperm
    (choice : p.Choice store scene ⟨.ok selection, after, trace⟩)
    (builtIn : p.strategy.isBuiltIn = true) : selection.Subperm (prunableObjects trace) := by
  obtain ⟨listed, candidates, middle, last, first, second, third, -, listing, filtering,
    selecting, rfl⟩ := choice.of_ok
  have found : prunableObjects (p.startedEvent :: first ++ second ++ third) = candidates := by
    have unfound : prunableObjects first = [] :=
      listing.unseen (fun _ => rfl) (fun _ => rfl) fun _ _ => rfl
    have later : prunableObjects third = [] :=
      selecting.unseen (fun _ => rfl) (fun _ => rfl) fun _ _ => rfl
    simp [startedEvent, unfound, later, filtering.outcome_ok rfl]
  rw [found]
  cases selecting with
  | answered called answer =>
    rw [← called, Strategy.run_select builtIn] at answer
    exact Strategy.subperm_of_builtIn answer

/-! ## The pass -/

/-- What a pass hands to its hook or to the store are survivors. -/
theorem Course.survivor_of_handed {r : Progress σ (List Object)} (course : p.Course store scene r)
    (selects : p.strategy.SelectsCandidates) :
    ∀ o ∈ handedObjects r.trace, p.Survivor r.trace o := by
  intro o mem
  rcases course.continuation with
    ⟨e, after, trace, chosen, rfl⟩ | ⟨selection, middle, first, later, chosen, continued⟩
  · rw [(choice_of_run chosen).handedObjects_eq] at mem
    cases mem
  · have choice := choice_of_run chosen
    rw [continued.trace] at mem ⊢
    simp only [viewed_append, choice.handedObjects_eq, List.nil_append] at mem
    exact (choice.survivor selects o (continued.handed mem)).append continued.silent

/-- What a pass removes, or returns, are its survivors. -/
structure Safeguarded (p : Pruner σ) (pass : Progress σ (List Object)) : Prop where
  hooked : ∀ o answer, .hooked o answer ∈ pass.trace → p.Survivor pass.trace o
  deleted : ∀ type o answer, .deleted type o answer ∈ pass.trace → p.Survivor pass.trace o
  returned : ∀ selection, pass.outcome = .ok selection →
    ∀ o ∈ selection, p.Survivor pass.trace o
  /-- The objects found prunable are listed ones that coerce and are not kept, in their order and
  none more often than it was listed. -/
  found : ∀ objects, listings pass.trace = [(p.request, some (.ok objects))] →
    (prunableObjects pass.trace).Sublist (objects.filterMap p.eligible?)
  /-- No key is deleted more often than objects with this key were found prunable. -/
  counted : p.strategy.isBuiltIn = true → ∀ key,
    (deletions pass.trace).countP (fun d => d.object.key = key) ≤
      (prunableObjects pass.trace).countP fun o => o.key = key

/-- Whatever the store, the hook and the token do, a pass removes and returns survivors only, as
long as its strategy selects among the candidates. -/
theorem safeguarded (p : Pruner σ) (store : Store σ) (scene : Scene σ)
    (selects : p.strategy.SelectsCandidates) :
    p.Safeguarded ((p.prune store).run scene) := by
  have course := prune_course (p := p) store scene
  generalize (p.prune store).run scene = pass at course ⊢
  rcases course.continuation with
    ⟨e, after, trace, chosen, rfl⟩ | ⟨selection, middle, first, later, chosen, continued⟩
  · have choice := choice_of_run chosen
    have unhanded := choice.handedObjects_eq
    constructor
    case hooked =>
      intro o answer mem
      have seen : o ∈ handedObjects trace := mem_viewed.mpr ⟨_, mem, rfl⟩
      rw [unhanded] at seen
      cases seen
    case deleted =>
      intro type o answer mem
      have seen : o ∈ handedObjects trace := mem_viewed.mpr ⟨_, mem, rfl⟩
      rw [unhanded] at seen
      cases seen
    case returned => nofun
    case found => exact fun objects => choice.prunableObjects_sublist
    case counted =>
      intro _ key
      rw [choice.deletions_eq]
      exact Nat.zero_le _
  · have choice := choice_of_run chosen
    have survivor : ∀ o ∈ selection, p.Survivor pass.trace o := by
      intro o mem
      rw [continued.trace]
      exact (choice.survivor selects o mem).append continued.silent
    have kept : ∀ o ∈ handedObjects pass.trace, o ∈ selection := by
      intro o mem
      simp only [continued.trace, viewed_append, choice.handedObjects_eq, List.nil_append] at mem
      exact continued.handed mem
    -- What is asked was asked before the selection, and what is deleted is deleted after it.
    have same : listings pass.trace = listings first := by
      rw [← listings_inquiries, continued.inquiries_eq, listings_inquiries]
    have found : prunableObjects pass.trace = prunableObjects first := by
      rw [← prunableObjects_inquiries, continued.inquiries_eq, prunableObjects_inquiries]
    have gone : deletions pass.trace = deletions later := by
      simp only [continued.trace, viewed_append, choice.deletions_eq, List.nil_append]
    constructor
    case hooked =>
      exact fun o answer mem => survivor o (kept o (mem_viewed.mpr ⟨_, mem, rfl⟩))
    case deleted =>
      exact fun type o answer mem => survivor o (kept o (mem_viewed.mpr ⟨_, mem, rfl⟩))
    case returned =>
      intro result ok o mem
      rw [continued.returned result ok] at mem
      exact survivor o mem
    case found =>
      intro objects listed
      rw [same] at listed
      rw [found]
      exact choice.prunableObjects_sublist listed
    case counted =>
      intro builtIn key
      have removed := continued.deleted.sublist.subperm.trans (choice.selection_subperm builtIn)
      have counted := removed.countP_le fun o => o.key = key
      rw [List.countP_map] at counted
      rw [found, gone]
      exact counted

end Pruner

/-! ## A rehearsed pass -/

namespace Rehearsed

/-- The same object where it asks to be kept. -/
def asking (o : Object) : Object :=
  { o with metadata := { o.metadata with
      annotations := some (TextMap.ofList [( preserveAnnotation, " True ")]) } }

/-- A pruner that hears such objects, asks a hook, and removes the last candidate first. -/
def hearingPruner : Pruner Stage :=
  { pruner with
    strategy := .custom (some (SelectionPlan.selector Stage.journal .reversed))
    respectPreserve := true }

/-- Three pods, of which the second asks to be kept. -/
def askingStage : Stage := .start [bare "a" (-2), asking (bare "b" (-1)), bare "c" 1] .epoch

end Rehearsed

namespace Pruner

open Rehearsed in
theorem safeguarded_rehearsed :
    hearingPruner.strategy.SelectsCandidates ∧
      handedObjects ((hearingPruner.prune Stage.store).run ⟨askingStage, .quiet⟩).trace =
        [pod "c" 1, pod "c" 1, pod "a" (-2), pod "a" (-2)] ∧
      hearingPruner.Safeguarded
        ((hearingPruner.prune Stage.store).run ⟨askingStage, .quiet⟩) := by
  have selects : hearingPruner.strategy.SelectsCandidates := by
    rintro selector ⟨⟩ candidates s selection answer o mem
    have reversed : candidates.reverse = selection := Except.ok.inj answer
    rw [← reversed] at mem
    exact List.mem_reverse.mp mem
  exact ⟨selects, rfl, safeguarded _ _ _ selects⟩

end Pruner

end Retention
