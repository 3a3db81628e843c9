import Retention.Proofs.Accounting

/-!
# After the selection

Once a pass has a selection it asks nothing more, and hands nothing but selected objects to the hook
and the store.  `Continuation` says so of the later part of a trace, whether the pass is a dry one,
stops on its way, or comes to its end (`Course.continuation`).
-/

namespace Retention

variable {σ : Type}

namespace Pruner

variable {p : Pruner σ} {store : Store σ} {scene after : Scene σ} {selection : List Object}
  {trace : List Event} {o : Object}

/-! ## The removal -/

theorem HookRun.handedObjects_subset {answer : Except String Unit}
    (run : p.HookRun o scene answer after trace) : handedObjects trace ⊆ [o] := by
  cases run with
  | absent _ => exact List.nil_subset _
  | asked _ _ => simp

theorem Attempt.handedObjects_subset {deleted : List ResourceKey} {r : Progress σ Unit}
    (attempt : p.Attempt store o deleted scene r) : handedObjects r.trace ⊆ [o] := by
  cases attempt with
  | cancelledBefore _ => exact List.nil_subset _
  | refused _ hook => simpa using hook.handedObjects_subset
  | cancelledAfterHook _ hook _ => simpa using hook.handedObjects_subset
  | givenUp _ hook _ _ _ => simpa using hook.handedObjects_subset
  | failed _ hook _ _ _ => simpa using hook.handedObjects_subset
  | gone _ hook _ _ _ => simpa using hook.handedObjects_subset

/-- Only selected objects are handed to the hook and to the store. -/
theorem Removal.handedObjects_subset {deleted : List ResourceKey} {r : Progress σ Unit}
    (removal : p.Removal store selection deleted scene r) : handedObjects r.trace ⊆ selection := by
  induction removal with
  | finished => exact List.nil_subset _
  | @stopped o rest _ _ _ _ _ attempt =>
    intro x mem
    have same := attempt.handedObjects_subset mem
    rw [List.mem_singleton] at same
    exact same ▸ List.mem_cons_self
  | @next o rest _ _ _ _ _ attempt _ ih =>
    intro x mem
    simp only [Progress.after, viewed_append, List.mem_append] at mem
    rcases mem with first | later
    · have same := attempt.handedObjects_subset first
      rw [List.mem_singleton] at same
      exact same ▸ List.mem_cons_self
    · exact List.mem_cons_of_mem o (ih later)

/-! ## The pass -/

/-- What a pass does after `first`, the trace that its choice of a selection has left. -/
structure Continuation (p : Pruner σ) (selection : List Object) (pass : Progress σ (List Object))
    (first later : List Event) : Prop where
  trace : pass.trace = first ++ later
  silent : inquiries later = []
  handed : handedObjects later ⊆ selection
  deleted : (deletions later).map Deletion.object <+: selection
  returned : ∀ returned, pass.outcome = .ok returned → returned = selection
  stopped : ∀ e, pass.outcome = .error e →
    (∃ resource source, e = .delete resource e.deleted source) ∨
      (∃ resource text, e = .preDelete resource e.deleted text) ∨ e = .cancelled e.deleted
  dry : p.dryRun = true → pass.outcome = .ok selection ∧ removals later = []

theorem Continuation.inquiries_eq {pass : Progress σ (List Object)} {first later : List Event}
    (continued : p.Continuation selection pass first later) :
    inquiries pass.trace = inquiries first := by
  simp only [continued.trace, viewed_append, continued.silent, List.append_nil]

/-- A pass stops without a selection, or goes on with the one it has. -/
theorem Course.continuation {pass : Progress σ (List Object)}
    (course : p.Course store scene pass) :
    (∃ e after trace, (p.chosen store).run scene = ⟨.error e, after, trace⟩ ∧
        pass = ⟨.error e, after, trace⟩) ∨
      ∃ selection middle first later, (p.chosen store).run scene = ⟨.ok selection, middle, first⟩ ∧
        p.Continuation selection pass first later := by
  cases course with
  | unchosen chosen => exact .inl ⟨_, _, _, chosen, rfl⟩
  | @dry selection _ _ _ chosen =>
    have unseen {α : Type} {see : Event → Option α}
        (blind : ∀ notice, see (.reported notice) = none) :
        viewed see (p.dryReports selection) = [] := viewed_dryReports p blind selection
    refine .inr ⟨_, _, _, p.dryReports selection, chosen, ?_⟩
    constructor
    case trace => rfl
    case silent => exact unseen fun _ => rfl
    case handed =>
      rw [handedObjects, unseen fun _ => rfl]
      exact List.nil_subset _
    case deleted =>
      rw [deletions, unseen fun _ => rfl]
      exact List.nil_prefix
    case returned =>
      rintro _ ⟨⟩
      rfl
    case stopped => nofun
    case dry => exact fun _ => ⟨rfl, unseen fun _ => rfl⟩
  | @stopped _ _ _ _ _ second real chosen removal =>
    refine .inr ⟨_, _, _, second, chosen, ?_⟩
    constructor
    case trace => rfl
    case silent => exact removal.inquiries_eq
    case handed => exact removal.handedObjects_subset
    case deleted => exact removal.tally.objects_prefix
    case returned => nofun
    case stopped =>
      rintro _ ⟨⟩
      exact removal.tally.stopped
    case dry => exact fun dry => nomatch dry.symm.trans real
  | @complete selection _ _ _ second real chosen removal =>
    have silent := removal.inquiries_eq
    have handed := removal.handedObjects_subset
    have deleted := removal.tally.objects_prefix
    refine .inr ⟨_, _, _, second ++ [.reported (.complete p.type selection.length)], chosen, ?_⟩
    constructor
    case trace => exact List.append_assoc _ _ _
    case silent => simpa using silent
    case handed => simpa using handed
    case deleted => simpa using deleted
    case returned =>
      rintro _ ⟨⟩
      rfl
    case stopped => nofun
    case dry => exact fun dry => nomatch dry.symm.trans real

end Pruner

end Retention
