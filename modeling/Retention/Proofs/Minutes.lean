import Retention.Proofs.Accounting

/-!
# The minutes of a pass

What a pass reports to the log, read as a whole.  `Minutes` lists the forms that its notices can
have: none where the settings are invalid, and otherwise a start, a notice for each object that was
skipped, and then what became of the rest.  `Announces` says which notice goes with which error;
there is none for an object that reports another type, so a pass that stops at one just ends.

Each part of a pass leaves its share (`Filtering.notices_of_ok`, `Removal.notices_of_error`, …), and
`prune_minutes` puts them together.
-/

namespace Retention

variable {σ : Type}

/-! ## Notices -/

@[simp]
def Event.notice? : Event → Option Notice
  | reported notice => some notice
  | _ => none

/-- What a pass reported itself. -/
abbrev notices (trace : List Event) : List Notice := viewed Event.notice? trace

@[simp]
theorem notices_noted (log : List LogRecord) : notices (log.map .noted) = [] :=
  viewed_noted (fun _ => rfl) log

theorem goneKeys_append (earlier later : List Event) :
    goneKeys (earlier ++ later) = goneKeys earlier ++ goneKeys later := by
  rw [goneKeys, deletions, viewed_append, List.filterMap_append]

theorem goneKeys_of_deletions {trace : List Event} (none : deletions trace = []) :
    goneKeys trace = [] := by
  rw [goneKeys, none, List.filterMap_nil]

/-- Whether a notice says that an object is no candidate. -/
def Notice.isSkip : Notice → Bool
  | skippedPreserved _ | skippedUnprunable _ _ => true
  | _ => false

/-- The notice that goes with an error of a pass over a type. -/
inductive Announces (type : TypeIdentifier) : PruneError → Notice → Prop
  | listing {deleted : List ResourceKey} :
    Announces type (.cancelled deleted) (.cancelledWhileListing type)
  | list {e : StoreError} : Announces type (.list type e) (.listFailed type e)
  | predicate {o : ResourceKey} {e : PredicateError} :
    Announces type (.predicate o e) (.checkFailed o e)
  | strategy {e : StrategyError} : Announces type (.strategy e) (.strategyFailed type e)
  | before {deleted : List ResourceKey} :
    Announces type (.cancelled deleted) (.cancelledBeforeDeletion deleted.length)
  | preDelete {o : ResourceKey} {deleted : List ResourceKey} {text : String} :
    Announces type (.preDelete o deleted text) (.hookFailed o text)
  | during {o : ResourceKey} {deleted : List ResourceKey} :
    Announces type (.cancelled deleted) (.cancelledDuringDeletion o deleted.length)
  | delete {o : ResourceKey} {deleted : List ResourceKey} {e : StoreError} :
    Announces type (.delete o deleted e) (.deleteFailed o e)

namespace Pruner

variable {p : Pruner σ} {store : Store σ} {scene after : Scene σ} {e : PruneError}
  {trace : List Event}

/-! ## The choice -/

theorem Listing.notices_of_ok {listed : List Object}
    (listing : p.Listing store scene ⟨.ok listed, after, trace⟩) : notices trace = [] := by
  cases listing with
  | answered _ _ _ => simp

theorem Listing.notices_of_error (listing : p.Listing store scene ⟨.error e, after, trace⟩) :
    ∃ alarm, Announces p.type e alarm ∧ notices trace = [alarm] := by
  cases listing with
  | cancelledBefore _ => exact ⟨_, .listing, rfl⟩
  | givenUp _ _ _ => exact ⟨_, .listing, by simp⟩
  | failed _ _ _ => exact ⟨_, .list, by simp⟩

/-- An object is skipped with a notice, or kept without one. -/
theorem Consideration.notices_of_ok {o : Object} {keep : Bool}
    (consideration : p.Consideration o scene ⟨.ok keep, after, trace⟩) :
    (∀ n ∈ notices trace, n.isSkip = true) ∧ (notices trace).length = if keep then 0 else 1 := by
  cases consideration with
  | preserved _ => simp [Notice.isSkip]
  | prunable _ _ _ => simp
  | vetoed _ _ _ => simp [Notice.isSkip]

theorem Consideration.notices_of_error {o : Object}
    (consideration : p.Consideration o scene ⟨.error e, after, trace⟩) :
    ∃ alarm, Announces p.type e alarm ∧ notices trace = [alarm] := by
  cases consideration with
  | failed _ _ _ _ => exact ⟨_, .predicate, by simp⟩

/-- Every listed object is a candidate or is skipped with a notice. -/
theorem Filtering.notices_of_ok {listed candidates : List Object} {r : Progress σ (List Object)}
    (filtering : p.Filtering listed scene r) (ok : r.outcome = .ok candidates) :
    (∀ n ∈ notices r.trace, n.isSkip = true) ∧
      listed.length = candidates.length + (notices r.trace).length := by
  induction filtering generalizing candidates with
  | finished =>
    cases ok
    exact ⟨List.forall_mem_nil _, rfl⟩
  | mistyped _ => cases ok
  | stopped _ _ => cases ok
  | @next _ _ _ _ _ keep trace r _ consideration _ ih =>
    obtain ⟨skips, count⟩ := consideration.notices_of_ok
    cases ending : r.outcome with
    | error e =>
      rw [ending] at ok
      cases ok
    | ok others =>
      rw [ending] at ok
      cases ok
      obtain ⟨otherSkips, otherCount⟩ := ih ending
      refine ⟨?_, ?_⟩
      · simp only [viewed_append, List.forall_mem_append]
        exact ⟨skips, otherSkips⟩
      · simp only [notices, viewed_append, List.length_cons, List.length_append]
          at otherCount count ⊢
        rw [otherCount, count]
        cases keep <;> simp <;> omega

/-- Filtering that stops has skipped some objects; where the last one cannot be judged, a notice
says so, and where it reports another type, none does. -/
theorem Filtering.notices_of_error {listed : List Object} {r : Progress σ (List Object)}
    (filtering : p.Filtering listed scene r) (stops : r.outcome = .error e) :
    ∃ skips last, notices r.trace = skips ++ last ∧ (∀ n ∈ skips, n.isSkip = true) ∧
      ((∃ resource reported, e = .convert resource p.type reported) ∧ last = [] ∨
        ∃ alarm, Announces p.type e alarm ∧ last = [alarm]) := by
  induction filtering with
  | finished => cases stops
  | mistyped _ =>
    cases stops
    exact ⟨[], [], rfl, List.forall_mem_nil _, .inl ⟨⟨_, _, rfl⟩, rfl⟩⟩
  | stopped _ consideration =>
    cases stops
    obtain ⟨alarm, announces, same⟩ := consideration.notices_of_error
    exact ⟨[], [alarm], same, List.forall_mem_nil _, .inr ⟨alarm, announces, rfl⟩⟩
  | @next _ _ _ _ _ keep trace r _ consideration _ ih =>
    cases ending : r.outcome with
    | ok others =>
      rw [ending] at stops
      cases stops
    | error e =>
      rw [ending] at stops
      cases stops
      obtain ⟨skips, last, same, skipped, why⟩ := ih ending
      refine ⟨notices trace ++ skips, last, ?_, ?_, why⟩
      · simp only [viewed_append, same, List.append_assoc]
      · rw [List.forall_mem_append]
        exact ⟨consideration.notices_of_ok.1, skipped⟩

theorem Selecting.notices_of_ok {count : Nat} {candidates selection : List Object}
    (selecting : p.Selecting count candidates scene ⟨.ok selection, after, trace⟩) :
    notices trace =
      [.strategySelected p.type count candidates.length selection.length] := by
  cases selecting with
  | answered _ _ => simp

theorem Selecting.notices_of_error {count : Nat} {candidates : List Object}
    (selecting : p.Selecting count candidates scene ⟨.error e, after, trace⟩) :
    ∃ alarm, Announces p.type e alarm ∧ notices trace = [alarm] := by
  cases selecting with
  | failed _ _ => exact ⟨_, .strategy, by simp⟩

/-! ## The removal -/

theorem HookRun.notices_eq {o : Object} {answer : Except String Unit}
    (run : p.HookRun o scene answer after trace) : notices trace = [] := by
  cases run with
  | absent _ => rfl
  | asked _ _ => simp

section Removing

variable {o : Object} {selection : List Object} {deleted : List ResourceKey}

theorem Attempt.notices_of_ok (attempt : p.Attempt store o deleted scene ⟨.ok (), after, trace⟩) :
    notices trace = [.deleted o.key] ∧ goneKeys trace = [o.key] := by
  cases attempt with
  | gone _ hook _ _ _ =>
    have none := goneKeys_of_deletions hook.deletions_eq
    refine ⟨by simp [hook.notices_eq], ?_⟩
    rw [List.append_assoc, goneKeys_append, none]
    simp [goneKeys]

theorem Attempt.notices_of_error
    (attempt : p.Attempt store o deleted scene ⟨.error e, after, trace⟩) :
    goneKeys trace = [] ∧ ∃ alarm, Announces p.type e alarm ∧ notices trace = [alarm] := by
  cases attempt with
  | cancelledBefore _ => exact ⟨rfl, _, .before, rfl⟩
  | @refused text _ _ _ hook =>
    exact ⟨by simp [goneKeys, hook.deletions_eq], .hookFailed o.key text, .preDelete,
      by simp [hook.notices_eq]⟩
  | cancelledAfterHook _ hook _ | givenUp _ hook _ _ _ =>
    exact ⟨by simp [goneKeys, hook.deletions_eq],
      .cancelledDuringDeletion o.key deleted.length, .during, by simp [hook.notices_eq]⟩
  | @failed e _ _ _ _ hook _ _ _ =>
    exact ⟨by simp [goneKeys, hook.deletions_eq], .deleteFailed o.key e, .delete,
      by simp [hook.notices_eq]⟩

/-- A removal that comes to its end reports each object that is gone, and nothing else. -/
theorem Removal.notices_of_ok {r : Progress σ Unit}
    (removal : p.Removal store selection deleted scene r) (ok : r.outcome = .ok ()) :
    notices r.trace = (goneKeys r.trace).map .deleted := by
  induction removal with
  | finished => rfl
  | stopped _ => cases ok
  | next attempt _ ih =>
    obtain ⟨reported, gone⟩ := attempt.notices_of_ok
    simp only [Progress.after, viewed_append, goneKeys_append, List.map_append, reported, gone,
      ih ok, List.map_singleton]

/-- One that stops reports each object that is gone, and then why it stops. -/
theorem Removal.notices_of_error {r : Progress σ Unit}
    (removal : p.Removal store selection deleted scene r) (stops : r.outcome = .error e) :
    ∃ alarm, Announces p.type e alarm ∧
      notices r.trace = (goneKeys r.trace).map .deleted ++ [alarm] := by
  induction removal with
  | finished => cases stops
  | stopped attempt =>
    cases stops
    obtain ⟨none, alarm, announces, same⟩ := attempt.notices_of_error
    exact ⟨alarm, announces, by simp only [same, none, List.map_nil, List.nil_append]⟩
  | next attempt _ ih =>
    obtain ⟨alarm, announces, later⟩ := ih stops
    obtain ⟨reported, gone⟩ := attempt.notices_of_ok
    refine ⟨alarm, announces, ?_⟩
    simp only [Progress.after, viewed_append, goneKeys_append, List.map_append, reported, gone,
      later, List.map_singleton, List.append_assoc]

/-- A removal that comes to its end leaves no object of the selection. -/
theorem Removal.goneKeys_of_ok {r : Progress σ Unit}
    (removal : p.Removal store selection deleted scene r) (ok : r.outcome = .ok ()) :
    goneKeys r.trace = selection.map Object.key := by
  have tally := removal.tally
  rw [ok] at tally
  rw [goneKeys, tally.of_ok, goneKeys_goneDeletion]

end Removing

/-! ## The pass -/

/-- The notice with which a pass starts. -/
def startNotice (p : Pruner σ) : Notice := .started p.request p.strategy.mode p.dryRun

/-- The notice of a selection, after objects were skipped. -/
def selectionNotice (p : Pruner σ) (skips : List Notice) (candidates : Nat)
    (selection : List Object) : Notice :=
  .strategySelected p.type (candidates + skips.length) candidates selection.length

/-- The forms that the notices of a pass can have, with its outcome and the keys of the objects that
are gone. -/
inductive Minutes (p : Pruner σ) :
    Except PruneError (List Object) → List ResourceKey → List Notice → Prop
  /-- The settings are invalid, and the pass does not start. -/
  | invalid {e : ConfigError} : Minutes p (.error (.config e)) [] []
  /-- An object reports another type. -/
  | mistyped {skips : List Notice} {resource : ResourceKey} {reported : TypeMeta} :
    (∀ n ∈ skips, n.isSkip = true) →
    Minutes p (.error (.convert resource p.type reported)) [] (p.startNotice :: skips)
  /-- Something else stops the pass before it has a selection. -/
  | unchosen {skips : List Notice} {e : PruneError} {alarm : Notice} :
    (∀ n ∈ skips, n.isSkip = true) → Announces p.type e alarm →
    Minutes p (.error e) [] (p.startNotice :: skips ++ [alarm])
  /-- The pass says what it would delete. -/
  | dry {skips : List Notice} {candidates : Nat} {selection : List Object} :
    p.dryRun = true → (∀ n ∈ skips, n.isSkip = true) →
    Minutes p (.ok selection) []
      (p.startNotice :: skips ++ p.selectionNotice skips candidates selection ::
        selection.map (.wouldDelete ·.key) ++ [.dryRunComplete p.type selection.length])
  /-- The pass stops on the way through its selection. -/
  | stopped {skips : List Notice} {candidates : Nat} {selection : List Object}
    {gone : List ResourceKey} {e : PruneError} {alarm : Notice} :
    p.dryRun = false → (∀ n ∈ skips, n.isSkip = true) → Announces p.type e alarm →
    Minutes p (.error e) gone
      (p.startNotice :: skips ++ p.selectionNotice skips candidates selection ::
        gone.map .deleted ++ [alarm])
  /-- The pass deletes its selection. -/
  | complete {skips : List Notice} {candidates : Nat} {selection : List Object}
    {gone : List ResourceKey} :
    p.dryRun = false → (∀ n ∈ skips, n.isSkip = true) → gone = selection.map Object.key →
    Minutes p (.ok selection) gone
      (p.startNotice :: skips ++ p.selectionNotice skips candidates selection ::
        gone.map .deleted ++ [.complete p.type selection.length])

/-- What a pass that has a selection has reported up to it. -/
theorem Choice.notices_of_ok {selection : List Object}
    (choice : p.Choice store scene ⟨.ok selection, after, trace⟩) :
    ∃ skips candidates, (∀ n ∈ skips, n.isSkip = true) ∧
      notices trace =
        p.startNotice :: skips ++ [p.selectionNotice skips candidates selection] := by
  obtain ⟨listed, candidates, middle, last, first, second, third, -, listing, filtering, selecting,
    rfl⟩ := choice.of_ok
  obtain ⟨skips, count⟩ := filtering.notices_of_ok rfl
  refine ⟨notices second, candidates.length, skips, ?_⟩
  simp [startedEvent, startNotice, selectionNotice, listing.notices_of_ok, selecting.notices_of_ok,
    ← count]

/-- A choice that stops the pass leaves the minutes of a pass without a selection. -/
theorem Choice.minutes_of_error (choice : p.Choice store scene ⟨.error e, after, trace⟩) :
    p.Minutes (.error e) [] (notices trace) := by
  generalize ending : (⟨.error e, after, trace⟩ : Progress σ (List Object)) = r at choice
  cases choice with
  | invalid _ =>
    cases ending
    exact .invalid
  | unlisted _ listing =>
    cases ending
    obtain ⟨alarm, announces, same⟩ := listing.notices_of_error
    simp only [startedEvent, viewed_cons, Event.notice?, Option.toList_some, same]
    exact .unchosen (List.forall_mem_nil _) announces
  | unfiltered _ listing filtering =>
    cases ending
    obtain ⟨skips, last, same, skipped, why⟩ := filtering.notices_of_error rfl
    simp only [startedEvent, List.cons_append, viewed_cons, viewed_append, Event.notice?,
      Option.toList_some, listing.notices_of_ok, same, List.nil_append]
    rcases why with ⟨⟨resource, reported, rfl⟩, rfl⟩ | ⟨alarm, announces, rfl⟩
    · rw [List.append_nil]
      exact .mistyped skipped
    · exact .unchosen skipped announces
  | @selected _ _ _ _ _ second r _ listing filtering selecting =>
    obtain ⟨outcome, last, third⟩ := r
    cases ending
    obtain ⟨skipped, -⟩ := filtering.notices_of_ok rfl
    obtain ⟨alarm, announces, same⟩ := selecting.notices_of_error
    simp only [startedEvent, List.cons_append, viewed_cons, viewed_append, Event.notice?,
      Option.toList_some, listing.notices_of_ok, same, List.nil_append]
    exact .unchosen skipped announces

theorem notices_dryReports (p : Pruner σ) (selection : List Object) :
    notices (p.dryReports selection) =
      selection.map (.wouldDelete ·.key) ++ [.dryRunComplete p.type selection.length] := by
  simp [dryReports, viewed, List.filterMap_map, Function.comp_def]

/-- The notices of a pass are minutes of it. -/
theorem Course.minutes {r : Progress σ (List Object)} (course : p.Course store scene r) :
    p.Minutes r.outcome (goneKeys r.trace) (notices r.trace) := by
  cases course with
  | unchosen chosen =>
    have choice := choice_of_run chosen
    rw [goneKeys, choice.deletions_eq]
    exact choice.minutes_of_error
  | @dry selection _ first dry chosen =>
    have choice := choice_of_run chosen
    obtain ⟨skips, candidates, skipped, same⟩ := choice.notices_of_ok
    have gone : goneKeys (first ++ p.dryReports selection) = [] := by
      rw [goneKeys_append, goneKeys_of_deletions choice.deletions_eq,
        goneKeys_of_deletions (viewed_dryReports p (fun _ => rfl) selection), List.append_nil]
    simp only [gone, viewed_append, same, notices_dryReports, List.append_assoc]
    have minutes := @Minutes.dry _ p skips candidates selection dry skipped
    simpa using minutes
  | @stopped selection _ _ _ first second real chosen removal =>
    have choice := choice_of_run chosen
    obtain ⟨skips, candidates, skipped, same⟩ := choice.notices_of_ok
    obtain ⟨alarm, announces, later⟩ := removal.notices_of_error rfl
    have gone : goneKeys (first ++ second) = goneKeys second := by
      rw [goneKeys_append, goneKeys_of_deletions choice.deletions_eq, List.nil_append]
    simp only [gone, viewed_append, same, later]
    have minutes := @Minutes.stopped _ p skips candidates selection (goneKeys second) _ alarm real
      skipped announces
    simpa using minutes
  | @complete selection _ _ first second real chosen removal =>
    have choice := choice_of_run chosen
    obtain ⟨skips, candidates, skipped, same⟩ := choice.notices_of_ok
    have later := removal.notices_of_ok rfl
    have gone : goneKeys (first ++ second ++ [.reported (.complete p.type selection.length)]) =
        goneKeys second := by
      rw [goneKeys_append, goneKeys_append, goneKeys_of_deletions choice.deletions_eq]
      exact List.append_nil _
    simp only [gone, viewed_append, same, later]
    have minutes := @Minutes.complete _ p skips candidates selection _ real skipped
      (removal.goneKeys_of_ok rfl)
    simpa using minutes

theorem prune_minutes (p : Pruner σ) (store : Store σ) (scene : Scene σ) :
    p.Minutes ((p.prune store).run scene).outcome (goneKeys ((p.prune store).run scene).trace)
      (notices ((p.prune store).run scene).trace) :=
  (prune_course store scene).minutes

end Pruner

end Retention
