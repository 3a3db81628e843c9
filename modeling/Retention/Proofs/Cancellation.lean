import Retention.Proofs.Accounting
import Retention.Proofs.Watch

/-!
# Cancelled passes

What the firing of its token does to a pass whose calls all come to their end.  Once the token has
fired no store or hook call is made.  A pass with valid settings whose token has fired before it is
cancelled at once, and one whose token fires while objects are left to delete is cancelled with the
keys of those that are gone.  In all other cases the pass goes as if the token had not fired.

`Interrupted` is the condition under which a firing cuts a pass short, stated over the moments of
the watched pass, and `heeds_token` is the main statement.
-/

namespace Retention

variable {σ : Type}

/-- All calls in a trace have come to their end. -/
def Completed (trace : List Event) : Prop :=
  ∀ event ∈ trace, event.isAbandoned = false

theorem Completed.right {earlier later : List Event} (completed : Completed (earlier ++ later)) :
    Completed later :=
  fun event mem => completed event (List.mem_append_right earlier mem)

/-- A trace that ends with a store or hook call that failed, and with what was put in the log of
it. -/
def EndsFailing (trace : List Event) : Prop :=
  ∃ before event notes, trace = before ++ event :: notes ∧ event.guarded?.isSome = true ∧
    event.failure?.isSome = true ∧ ∀ n ∈ notes, n.record?.isSome = true

theorem EndsFailing.append {trace : List Event} (ends : EndsFailing trace) (earlier : List Event) :
    EndsFailing (earlier ++ trace) := by
  obtain ⟨before, event, notes, rfl, guarded, failing, records⟩ := ends
  exact ⟨earlier ++ before, event, notes, (List.append_assoc _ _ _).symm, guarded, failing, records⟩

theorem records_of_log (log : List LogRecord) (notice : Notice) :
    ∀ n ∈ log.map Event.noted ++ [.reported notice], n.record?.isSome = true := by
  intro n mem
  rcases List.mem_append.mp mem with noted | reported
  · obtain ⟨record, -, rfl⟩ := List.mem_map.mp noted
    rfl
  · rw [List.mem_singleton.mp reported]
    rfl

namespace Pruner

variable {p : Pruner σ} {store : Store σ} {scene after : Scene σ} {o : Object}
  {selection : List Object} {earlier deleted : List ResourceKey} {trace : List Event}

/-! ## What stops a removal -/

theorem HookRun.endsFailing {answer : Except String Unit} {text : String}
    (run : p.HookRun o scene answer after trace) (refuses : answer = .error text) (notice : Notice) :
    EndsFailing (trace ++ [.reported notice]) := by
  cases run with
  | absent _ => cases refuses
  | asked _ _ =>
    refine ⟨[], _, _, rfl, rfl, ?_, records_of_log _ notice⟩
    rw [refuses]
    rfl

/-- A call that fails stops the deletion of an object, and is the last one. -/
theorem Attempt.endsFailing {e : PruneError}
    (attempt : p.Attempt store o earlier scene ⟨.error e, after, trace⟩)
    (uncancelled : ∀ deleted, e ≠ .cancelled deleted) : EndsFailing trace := by
  cases attempt with
  | cancelledBefore _ => exact (uncancelled _ rfl).elim
  | refused _ hook => exact hook.endsFailing rfl _
  | cancelledAfterHook _ _ _ => exact (uncancelled _ rfl).elim
  | givenUp _ _ _ _ _ => exact (uncancelled _ rfl).elim
  | @failed _ _ before _ _ _ _ _ _ =>
    rw [List.append_assoc]
    exact ⟨before, _, _, rfl, rfl, rfl, records_of_log _ _⟩

theorem Removal.endsFailing {r : Progress σ Unit} {e : PruneError}
    (removal : p.Removal store selection earlier scene r) (stops : r.outcome = .error e)
    (uncancelled : ∀ deleted, e ≠ .cancelled deleted) : EndsFailing r.trace := by
  induction removal with
  | finished => cases stops
  | stopped attempt =>
    cases stops
    exact attempt.endsFailing uncancelled
  | next _ _ ih => exact (ih stops).append _

theorem Attempt.failures_of_ok
    (attempt : p.Attempt store o earlier scene ⟨.ok (), after, trace⟩) : failures trace = [] := by
  cases attempt with
  | gone _ hook _ _ _ => simp [hook.failures_eq]

theorem Attempt.failures_of_cancelled
    (attempt : p.Attempt store o earlier scene ⟨.error (.cancelled deleted), after, trace⟩)
    (completed : Completed trace) : failures trace = [] ∧ deletions trace = [] := by
  cases attempt with
  | cancelledBefore _ => exact ⟨rfl, rfl⟩
  | cancelledAfterHook _ hook _ => simp [hook.failures_eq, hook.deletions_eq]
  | givenUp _ _ _ _ _ =>
    have abandoned := completed (.deleted p.type o none) (by simp)
    cases abandoned

/-- A removal that is cancelled has had no failing call, and has left an object. -/
theorem Removal.failures_of_cancelled {r : Progress σ Unit}
    (removal : p.Removal store selection earlier scene r)
    (cancelled : r.outcome = .error (.cancelled deleted)) (completed : Completed r.trace) :
    failures r.trace = [] ∧ (deletions r.trace).length < selection.length := by
  induction removal with
  | finished => cases cancelled
  | stopped attempt =>
    cases cancelled
    obtain ⟨unfailing, none⟩ := attempt.failures_of_cancelled completed
    exact ⟨unfailing, by simp [none]⟩
  | next attempt _ ih =>
    obtain ⟨unfailing, fewer⟩ := ih cancelled completed.right
    constructor
    · simp only [Progress.after, viewed_append, attempt.failures_of_ok, unfailing, List.append_nil]
    · simp only [Progress.after, viewed_append, attempt.deletions_of_ok, List.length_cons,
        List.cons_append, List.nil_append]
      exact Nat.succ_lt_succ fewer

/-! ## What stops a pass -/

/-- A choice that comes to a selection has found the token quiet, has heard it from the strategy,
and has had no failing call. -/
theorem Choice.quiet_of_ok (choice : p.Choice store scene ⟨.ok selection, after, trace⟩) :
    scene.token.hasFired = false ∧ (∃ candidates, .selected candidates (.ok selection) ∈ trace) ∧
      failures trace = [] := by
  obtain ⟨listed, candidates, middle, last, first, second, third, -, listing, filtering, selecting,
    rfl⟩ := choice.of_ok
  have filtered : failures second = [] :=
    filtering.unseen (fun _ => rfl) (fun _ => rfl) fun _ _ => rfl
  have asked : failures third = [] :=
    selecting.unseen (fun _ => rfl) (fun _ => rfl) fun _ _ => rfl
  cases listing with
  | answered quiet _ _ =>
    cases selecting with
    | answered _ _ =>
      refine ⟨quiet, ⟨candidates, by simp⟩, ?_⟩
      simp only [viewed_append, filtered, asked]
      simp [startedEvent]

/-- A choice that is cancelled has found the token fired before it, unless its listing was given
up. -/
theorem Choice.fired_of_cancelled {r : Progress σ (List Object)} (choice : p.Choice store scene r)
    (cancelled : r.outcome = .error (.cancelled deleted)) (completed : Completed r.trace) :
    scene.token.hasFired = true ∧ p.check = .ok () := by
  cases choice with
  | invalid _ => cases cancelled
  | unlisted valid listing =>
    cases listing with
    | cancelledBefore fired => exact ⟨fired, valid⟩
    | givenUp _ _ _ =>
      have abandoned := completed (.listed p.request none) (by simp)
      cases abandoned
    | failed _ _ _ => cases cancelled
  | unfiltered _ _ filtering => exact (filtering.ne_cancelled cancelled).elim
  | selected _ _ _ selecting => cases selecting <;> cases cancelled

/-- A pass is cancelled because its token had fired before it, or with selected objects left to
delete and without a failing call. -/
theorem Course.of_cancelled {r : Progress σ (List Object)} (course : p.Course store scene r)
    (cancelled : r.outcome = .error (.cancelled deleted)) (completed : Completed r.trace) :
    scene.token.hasFired = true ∧ p.check = .ok () ∨
      scene.token.hasFired = false ∧ p.dryRun = false ∧ ∃ candidates selection,
        .selected candidates (.ok selection) ∈ r.trace ∧ failures r.trace = [] ∧
          (deletions r.trace).length < selection.length := by
  cases course with
  | unchosen chosen => exact .inl ((choice_of_run chosen).fired_of_cancelled cancelled completed)
  | dry _ _ => cases cancelled
  | stopped real chosen removal =>
    have choice := choice_of_run chosen
    obtain ⟨quiet, ⟨candidates, selected⟩, unfailing⟩ := choice.quiet_of_ok
    have undeleted : deletions _ = [] := choice.deletions_eq
    cases cancelled
    obtain ⟨later, fewer⟩ := removal.failures_of_cancelled rfl completed.right
    refine .inr ⟨quiet, real, candidates, _, List.mem_append_left _ selected, ?_, ?_⟩
    · simp only [viewed_append, unfailing, later, List.append_nil]
    · simpa only [viewed_append, undeleted, List.nil_append] using fewer
  | complete _ _ _ => cases cancelled

/-- Once objects are selected, a pass that stops without being cancelled stops at a call that
fails. -/
theorem Course.endsFailing {r : Progress σ (List Object)} {candidates : List Object} {e : PruneError}
    (course : p.Course store scene r) (selected : .selected candidates (.ok selection) ∈ r.trace)
    (stops : r.outcome = .error e) (uncancelled : ∀ deleted, e ≠ .cancelled deleted) :
    EndsFailing r.trace := by
  cases course with
  | unchosen chosen =>
    have seen : selection ∈ selections _ := mem_viewed.mpr ⟨_, selected, rfl⟩
    rw [(choice_of_run chosen).selections_eq] at seen
    cases seen
  | dry _ _ => cases stops
  | stopped _ _ removal =>
    cases stops
    exact (removal.endsFailing rfl uncancelled).append _
  | complete _ _ _ => cases stops

/-! ## The token of a pass -/

/-- The pass with each of its calls watched. -/
def watched (p : Pruner σ) (store : Store σ) (s : σ) (fired : Bool) :
    Progress (Watched σ) (List Object) :=
  ((p.guised (watch σ)).prune (store.guised (watch σ))).run ⟨⟨s, []⟩, .ofFired fired⟩

/-- The calls of a pass, the first one first. -/
def moments (p : Pruner σ) (store : Store σ) (s : σ) (fired : Bool) : List Moment :=
  (p.watched store s fired).scene.state.moments

/-- The pass with a token that does not fire, whatever its calls do. -/
def unfired (p : Pruner σ) (store : Store σ) (s : σ) : Progress σ (List Object) :=
  ((p.guised (mute σ)).prune (store.guised (mute σ))).run ⟨s, .quiet⟩

/-- The token fires during a call that does not fail, at a moment when the store has not been asked
to delete all selected objects.  Objects are selected in the end, but need not be by then. -/
def Interrupted (p : Pruner σ) (trace : List Event) (moments : List Moment) : Prop :=
  p.dryRun = false ∧ ∃ candidates selection before m after,
    .selected candidates (.ok selection) ∈ trace ∧ moments = before ++ m :: after ∧
      m.fired = true ∧ m.event.failure? = none ∧
      (deletions ((before ++ [m]).map Moment.event)).length < selection.length

/-- What a pass does with a token that has fired before it, as the flag says, or fires during its
calls. -/
structure HeedsToken (p : Pruner σ) (fired : Bool) (moments : List Moment)
    (pass unfired : Progress σ (List Object)) : Prop where
  /-- The moments have the store and hook calls of the pass. -/
  told : guardedCalls (moments.map Moment.event) = guardedCalls pass.trace
  /-- None of these calls is made once the token has fired. -/
  quiet : ∀ before m after, moments = before ++ m :: after → m.event.guarded?.isSome = true →
    fired = false ∧ ∀ earlier ∈ before, earlier.fired = false
  /-- Invalid settings are reported whether the token has fired or not. -/
  config : ∀ e, p.check = .error e → pass.outcome = .error (.config e) ∧ moments = []
  /-- Where the token has fired before, no call is made. -/
  before : fired = true → p.check = .ok () →
    pass.outcome = .error (.cancelled []) ∧ moments = [] ∧
      ∀ event ∈ pass.trace, event.record?.isSome = true
  /-- A pass that is interrupted is cancelled, with the keys of what the store says is gone. -/
  interrupted : p.Interrupted pass.trace moments →
    pass.outcome = .error (.cancelled (goneKeys pass.trace))
  /-- Otherwise the token might as well not have fired. -/
  otherwise : (fired = true → p.check ≠ .ok ()) → ¬ p.Interrupted pass.trace moments →
    unfired.outcome = pass.outcome ∧ unfired.trace = pass.trace ∧
      unfired.scene.state = pass.scene.state

section Heeding

variable {s : σ} {fired last : Bool} {moments : List Moment}

/-- Where there is nothing to do but to stop, a pass only reports. -/
theorem Course.stops_at_once {r : Progress σ (List Object)} (course : p.Course store scene r) :
    (∀ e, p.check = .error e → r.outcome = .error (.config e) ∧ r.trace = []) ∧
      (scene.token.hasFired = true → p.check = .ok () → r.outcome = .error (.cancelled []) ∧
        ∀ event ∈ r.trace, event.record?.isSome = true) := by
  -- A pass that comes past its listing has valid settings and a token that is quiet then.
  have past {r : Progress σ (List Object)} (valid : p.check = .ok ())
      (quiet : scene.token.hasFired = false) :
      (∀ e, p.check = .error e → r.outcome = .error (.config e) ∧ r.trace = []) ∧
        (scene.token.hasFired = true → p.check = .ok () → r.outcome = .error (.cancelled []) ∧
          ∀ event ∈ r.trace, event.record?.isSome = true) :=
    ⟨fun _ invalid => (nomatch invalid.symm.trans valid),
      fun fired => (nomatch quiet.symm.trans fired)⟩
  have chosen_ok {selection : List Object} {middle : Scene σ} {first : List Event}
      (chosen : (p.chosen store).run scene = ⟨.ok selection, middle, first⟩) :
      p.check = .ok () ∧ scene.token.hasFired = false := by
    obtain ⟨-, -, -, -, -, -, -, valid, -⟩ := (choice_of_run chosen).of_ok
    exact ⟨valid, (choice_of_run chosen).quiet_of_ok.1⟩
  cases course with
  | unchosen chosen =>
    have choice := choice_of_run chosen
    generalize (⟨.error _, _, _⟩ : Progress σ (List Object)) = r at choice ⊢
    cases choice with
    | invalid invalid =>
      refine ⟨fun e same => ?_, fun _ valid => (nomatch invalid.symm.trans valid)⟩
      cases invalid.symm.trans same
      exact ⟨rfl, rfl⟩
    | unlisted valid listing =>
      cases listing with
      | cancelledBefore _ =>
        exact ⟨fun _ invalid => (nomatch invalid.symm.trans valid),
          fun _ _ => ⟨rfl, by simp [startedEvent, Event.record?]⟩⟩
      | givenUp quiet _ _ => exact past valid quiet
      | failed quiet _ _ => exact past valid quiet
    | unfiltered valid listing _ =>
      cases listing with
      | answered quiet _ _ => exact past valid quiet
    | selected valid listing _ _ =>
      cases listing with
      | answered quiet _ _ => exact past valid quiet
  | dry _ chosen | stopped _ chosen _ | complete _ chosen _ =>
    obtain ⟨valid, quiet⟩ := chosen_ok chosen
    exact past valid quiet

/-- The deletions among the moments are those of the trace. -/
theorem deletions_moments {trace : List Event}
    (keeps : Keeps fired moments trace last) :
    deletions (moments.map Moment.event) = deletions trace := by
  have same (trace : List Event) : deletions (guardedCalls trace) = deletions trace :=
    viewed_viewed trace fun event => by cases event <;> rfl
  rw [← same, keeps.guardedCalls_eq, same]

/-- The deletions of a pass are those up to one of its moments and those after it. -/
theorem length_deletions {before after : List Moment} {m : Moment} {trace : List Event}
    (keeps : Keeps fired (before ++ m :: after) trace last) :
    (deletions trace).length = (deletions ((before ++ [m]).map Moment.event)).length +
      (deletions (after.map Moment.event)).length := by
  have cut : before ++ m :: after = (before ++ [m]) ++ after := by simp
  rw [← deletions_moments keeps, cut, List.map_append, deletions, viewed_append, List.length_append]

/-- After a moment in which the token fires there is no guarded call. -/
theorem silent_after {before after : List Moment} {m : Moment} {trace : List Event}
    (keeps : Keeps fired (before ++ m :: after) trace last) (fires : m.fired = true) :
    ∀ x ∈ after, x.event.guarded? = none := by
  intro x mem
  obtain ⟨between, rest, rfl⟩ := List.append_of_mem mem
  cases guarded : x.event.guarded? with
  | none => rfl
  | some _ =>
    have split : before ++ m :: (between ++ x :: rest) = (before ++ m :: between) ++ x :: rest := by
      simp
    rw [split] at keeps
    have quiet := (keeps.quiet (Option.isSome_of_eq_some guarded)).2 m (by simp)
    cases quiet.symm.trans fires

/-- Deletions are guarded calls. -/
theorem deletions_of_silent {moments : List Moment}
    (silent : ∀ x ∈ moments, x.event.guarded? = none) :
    deletions (moments.map Moment.event) = [] := by
  rw [deletions, viewed, List.filterMap_eq_nil_iff]
  intro event mem
  obtain ⟨x, inside, rfl⟩ := List.mem_map.mp mem
  have free := silent x inside
  cases event : x.event <;> simp_all

/-- A pass that is interrupted is cancelled. -/
theorem cancelled_of_interrupted {pass : Progress σ (List Object)}
    (ran : (p.prune store).run scene = pass) (keeps : Keeps fired moments pass.trace last)
    (interrupted : p.Interrupted pass.trace moments) :
    pass.outcome = .error (.cancelled (goneKeys pass.trace)) := by
  subst ran
  obtain ⟨real, candidates, selection, before, m, after, selected, rfl, fires, succeeds, fewer⟩ :=
    interrupted
  obtain ⟨k, le, account⟩ := exists_account p store scene real selected
  have silent := silent_after keeps fires
  cases ending : ((p.prune store).run scene).outcome with
  | ok returned =>
    obtain ⟨whole, -⟩ := account.ok returned ending
    have asked := congrArg List.length account.asked
    rw [List.length_map, List.length_map, whole, List.take_length] at asked
    have total := length_deletions keeps
    rw [deletions_of_silent silent, List.length_nil] at total
    omega
  | error e =>
    obtain ⟨carried, -⟩ := account.stopped e ending
    by_cases cancelled : ∃ deleted, e = .cancelled deleted
    · obtain ⟨deleted, rfl⟩ := cancelled
      rw [← carried]
      rfl
    · -- The failing call at the end has the last moment, which is not `m` and so comes after it.
      have uncancelled := not_exists.mp cancelled
      obtain ⟨first, event, notes, split, guarded, failing, records⟩ :=
        (prune_course store scene).endsFailing selected ending uncancelled
      rw [split] at keeps
      obtain ⟨init, x, same, rfl⟩ := keeps.exists_last guarded records
      have inside : x ∈ m :: after := by
        have cut := congrArg (·.getLast?) same
        have mem : (m :: after).getLast? = some x := by simpa using cut
        exact List.mem_of_getLast? mem
      rcases List.mem_cons.mp inside with rfl | later
      · rw [succeeds] at failing
        cases failing
      · rw [silent x later] at guarded
        cases guarded

/-- A pass that is cancelled is interrupted, unless its token had fired before. -/
theorem interrupted_of_cancelled {pass : Progress σ (List Object)}
    (ran : (p.prune store).run ⟨s, .ofFired fired⟩ = pass)
    (completed : Completed pass.trace) (keeps : Keeps fired moments pass.trace last)
    (token : pass.scene.token = .ofFired last) (cancelled : pass.outcome = .error (.cancelled deleted)) :
    fired = true ∧ p.check = .ok () ∨ p.Interrupted pass.trace moments := by
  subst ran
  have course := prune_course (p := p) store ⟨s, .ofFired fired⟩
  have ended := course.hasFired_of_cancelled cancelled
  rw [token, Token.hasFired_ofFired] at ended
  subst ended
  refine (course.of_cancelled cancelled completed).imp ?_ ?_
  · rintro ⟨before, valid⟩
    exact ⟨(Token.hasFired_ofFired fired).symm.trans before, valid⟩
  · rintro ⟨quiet, real, candidates, selection, selected, unfailing, fewer⟩
    rw [Token.hasFired_ofFired] at quiet
    have some := keeps.last_eq
    rw [quiet, Bool.false_or] at some
    obtain ⟨m, mem, fires⟩ := List.any_eq_true.mp some.symm
    obtain ⟨before, after, rfl⟩ := List.append_of_mem mem
    refine ⟨real, candidates, selection, before, m, after, selected, rfl, fires, ?_, ?_⟩
    · cases sees : m.event.failure? with
      | none => rfl
      | some event =>
        have failing : event ∈ failures _ := mem_viewed.mpr ⟨m.event, (keeps.mem_trace mem).1, sees⟩
        rw [unfailing] at failing
        cases failing
    · have total := length_deletions keeps
      omega

variable (p store s fired) in
/-- The moments of a pass are as its trace and its token say. -/
theorem exists_keeps :
    ∃ last, Keeps fired (p.moments store s fired) ((p.prune store).run ⟨s, .ofFired fired⟩).trace
        last ∧ ((p.prune store).run ⟨s, .ofFired fired⟩).scene.token = .ofFired last := by
  obtain ⟨-, trace, -, token⟩ := p.prune_alike store watch_loud ⟨s, []⟩ fired
  obtain ⟨moments, last, added, after, keeps⟩ :=
    p.prune_kept store ⟨⟨s, []⟩, .ofFired fired⟩ fired rfl
  have all : p.moments store s fired = moments := added
  rw [trace, ← all] at keeps
  exact ⟨last, keeps, token.symm.trans after⟩

end Heeding

/-- Every pass whose calls come to their end heeds its token, and is no other pass for being
watched. -/
theorem heeds_token (p : Pruner σ) (store : Store σ) (s : σ) (fired : Bool)
    (completed : Completed ((p.prune store).run ⟨s, .ofFired fired⟩).trace) :
    (p.watched store s fired).outcome = ((p.prune store).run ⟨s, .ofFired fired⟩).outcome ∧
      (p.watched store s fired).trace = ((p.prune store).run ⟨s, .ofFired fired⟩).trace ∧
      (p.watched store s fired).scene.state.plain =
        ((p.prune store).run ⟨s, .ofFired fired⟩).scene.state ∧
      p.HeedsToken fired (p.moments store s fired) ((p.prune store).run ⟨s, .ofFired fired⟩)
        (p.unfired store s) := by
  obtain ⟨outcome, trace, state, -⟩ := p.prune_alike store watch_loud ⟨s, []⟩ fired
  refine ⟨outcome, trace, state, ?_⟩
  obtain ⟨last, keeps, token⟩ := exists_keeps p store s fired
  have follows : ((p.prune store).run ⟨s, .ofFired fired⟩).Follows (mute σ) (p.unfired store s) :=
    p.prune_follows store (mute σ) s (.ofFired fired) .quiet
      ⟨fired, false, rfl, rfl, nofun, fun loud => (not_mute_loud s loud).elim⟩
  have course := prune_course (p := p) store ⟨s, .ofFired fired⟩
  generalize p.moments store s fired = moments at keeps ⊢
  generalize ran : (p.prune store).run ⟨s, .ofFired fired⟩ = pass at *
  obtain ⟨invalid, before⟩ := course.stops_at_once
  constructor
  case told => exact keeps.guardedCalls_eq
  case quiet =>
    rintro earlier m later rfl
    exact keeps.quiet
  case config =>
    intro e wrong
    obtain ⟨outcome, trace⟩ := invalid e wrong
    rw [trace] at keeps
    exact ⟨outcome, keeps.eq_nil_of_records (List.forall_mem_nil _)⟩
  case before =>
    intro early valid
    obtain ⟨outcome, records⟩ := before ((Token.hasFired_ofFired fired).trans early) valid
    exact ⟨outcome, keeps.eq_nil_of_records records, records⟩
  case interrupted => exact cancelled_of_interrupted ran keeps
  case otherwise =>
    intro timely uninterrupted
    cases follows with
    | alike outcome trace state _ => exact ⟨outcome, trace, state⟩
    | cancelled _ cancelled =>
      rcases interrupted_of_cancelled ran completed keeps token cancelled with
        ⟨early, valid⟩ | interrupted
      · exact (timely early valid).elim
      · exact (uninterrupted interrupted).elim

end Pruner

/-! ## A rehearsed pass -/

namespace Rehearsed

/-- The stage on which the token fires while the first of two old pods is deleted. -/
def firingStage : Stage :=
  { stage with deleteFaults := [("a", .firing)] }

end Rehearsed

namespace Pruner

open Rehearsed in
theorem heeds_token_rehearsed :
    Completed ((Rehearsed.pruner.prune Stage.store).run ⟨firingStage, .ofFired false⟩).trace ∧
      Rehearsed.pruner.Interrupted
        ((Rehearsed.pruner.prune Stage.store).run ⟨firingStage, .ofFired false⟩).trace
        (Rehearsed.pruner.moments Stage.store firingStage false) ∧
      goneKeys ((Rehearsed.pruner.prune Stage.store).run ⟨firingStage, .ofFired false⟩).trace =
        [⟨none, "a"⟩] ∧
      Rehearsed.pruner.HeedsToken false (Rehearsed.pruner.moments Stage.store firingStage false)
        ((Rehearsed.pruner.prune Stage.store).run ⟨firingStage, .ofFired false⟩)
        (Rehearsed.pruner.unfired Stage.store firingStage) := by
  have completed :
      Completed ((Rehearsed.pruner.prune Stage.store).run ⟨firingStage, .ofFired false⟩).trace := by
    have all : (((Rehearsed.pruner.prune Stage.store).run ⟨firingStage, .ofFired false⟩).trace.all
      fun event => !event.isAbandoned) = true := rfl
    intro event mem
    simpa using List.all_eq_true.mp all event mem
  -- The moments are those of the listing, of the hook, and of the deletion that fires the token.
  have interrupted : Rehearsed.pruner.Interrupted
      ((Rehearsed.pruner.prune Stage.store).run ⟨firingStage, .ofFired false⟩).trace
      (Rehearsed.pruner.moments Stage.store firingStage false) :=
    ⟨rfl, [pod "a" (-2), pod "b" (-1), pod "c" 1], [pod "a" (-2), pod "b" (-1)],
      (Rehearsed.pruner.moments Stage.store firingStage false).take 2,
      ⟨.deleted .pod (pod "a" (-2)) (some (.ok ())), true⟩, [], List.mem_of_getElem? (i := 5) rfl,
      rfl, rfl, rfl, Nat.lt_add_one 1⟩
  exact ⟨completed, interrupted, rfl, (heeds_token _ _ _ _ completed).2.2.2⟩

end Pruner

end Retention
