import Retention.Proofs.Continuation

/-!
# What a dry run tells of the real one

Up to its selection a pass reads the setting for dry runs only to report it, so a dry pass and a real
one ask the same and come to the same selection or error, as long as the code they ask answers the
same.  `Alike` says so of two parts of a pass, from states that this code cannot tell apart; it is
kept by putting parts together.  Where the two passes part, the dry one has ended well, and the real
one can only stop at a deletion or its hook, or because its token has fired.
-/

namespace Retention

variable {σ α β : Type}

/-! ## Parts that cannot be told apart -/

/-- From states that are the same to it, a call gives one answer and leaves such states. -/
def Call.Alike (same : σ → σ → Prop) (call : Call σ α) : Prop :=
  ∀ s t, same s t →
    (call.run s).answer = (call.run t).answer ∧ same (call.run s).state (call.run t).state

/-- Two parts of a pass asked the same and ended with the same, and left states that are the same to
the code they asked. -/
structure Progress.Alike (same : σ → σ → Prop) (first second : Progress σ α) : Prop where
  outcome : first.outcome = second.outcome
  asked : inquiries first.trace = inquiries second.trace
  state : same first.scene.state second.scene.state

/-- Parts of a pass that do so from any such states. -/
def Pass.Alike (same : σ → σ → Prop) (first second : Pass σ α) : Prop :=
  ∀ x y : Scene σ, same x.state y.state → (first.run x).Alike same (second.run y)

section Parts

variable {same : σ → σ → Prop}

/-- Parts that went alike are followed by parts that go alike. -/
theorem Progress.Alike.bind {first second : Pass σ α} {next after : α → Pass σ β} {x y : Scene σ}
    (alike : (first.run x).Alike same (second.run y)) (later : ∀ a, (next a).Alike same (after a)) :
    ((first >>= next).run x).Alike same ((second >>= after).run y) := by
  obtain ⟨outcome, asked, state⟩ := alike
  generalize left : first.run x = r at outcome asked state
  generalize right : second.run y = q at outcome asked state
  obtain ⟨ending, middle, trace⟩ := r
  obtain ⟨_, middle', trace'⟩ := q
  simp only at outcome asked state
  subst outcome
  cases ending with
  | error e =>
    rw [Pass.run_bind_of_error left, Pass.run_bind_of_error right]
    exact ⟨rfl, asked, state⟩
  | ok a =>
    rw [Pass.run_bind_of_ok left, Pass.run_bind_of_ok right]
    obtain ⟨outcome, askedLater, state⟩ := later a middle middle' state
    refine ⟨outcome, ?_, state⟩
    simp only [Progress.after, viewed_append, asked, askedLater]

/-- Calls that the token can cut short go alike where it has fired before both or before neither. -/
theorem Progress.Alike.await {event : Option α → Event} {call : Call σ (Option α)} {x y : Scene σ}
    (alike : call.Alike same) (related : same x.state y.state)
    (token : x.token.hasFired = y.token.hasFired) :
    ((Pass.await event call).run x).Alike same ((Pass.await event call).run y) := by
  cases fired : y.token.hasFired with
  | true =>
    rw [Pass.run_await_of_hasFired (token.trans fired), Pass.run_await_of_hasFired fired]
    exact ⟨rfl, rfl, related⟩
  | false =>
    rw [Pass.run_await_of_quiet (token.trans fired) rfl, Pass.run_await_of_quiet fired rfl]
    obtain ⟨answer, states⟩ := alike _ _ related
    refine ⟨congrArg Except.ok answer, ?_, states⟩
    simp [answer]

namespace Pass.Alike

theorem bind {first second : Pass σ α} {next after : α → Pass σ β}
    (alike : first.Alike same second) (later : ∀ a, (next a).Alike same (after a)) :
    (first >>= next).Alike same (second >>= after) :=
  fun x y related => (alike x y related).bind later

theorem done (a : α) : Alike same (Pass.done a) (Pass.done a) :=
  fun _ _ related => ⟨rfl, rfl, related⟩

theorem stop (e : PruneError) : Alike same (Pass.stop e : Pass σ α) (Pass.stop e) :=
  fun _ _ related => ⟨rfl, rfl, related⟩

theorem report (notice : Notice) :
    Alike same (Pass.report notice : Pass σ Unit) (Pass.report notice) :=
  fun _ _ related => ⟨rfl, rfl, related⟩

theorem reportStop (notice : Notice) (e : PruneError) :
    Alike same (Pass.reportStop notice e : Pass σ α) (Pass.reportStop notice e) :=
  fun _ _ related => ⟨rfl, rfl, related⟩

theorem read {f : σ → α} (agree : ∀ s t, same s t → f s = f t) :
    Alike same (Pass.read f) (Pass.read f) :=
  fun _ _ related => ⟨congrArg Except.ok (agree _ _ related), rfl, related⟩

theorem call {event : α → Event} {call : Call σ α} (alike : call.Alike same) :
    Alike same (Pass.call event call) (Pass.call event call) := by
  intro x y related
  obtain ⟨answer, states⟩ := alike _ _ related
  refine ⟨congrArg Except.ok answer, ?_, states⟩
  simp [Pass.call, Pass.run, answer]

end Pass.Alike

end Parts

theorem Pass.outcome_bind_of_error {pass : Pass σ α} {next : α → Pass σ β} {scene : Scene σ}
    {e : PruneError} (stopped : (pass.run scene).outcome = .error e) :
    ((pass >>= next).run scene).outcome = .error e := by
  generalize first : pass.run scene = r at stopped
  obtain ⟨_, middle, trace⟩ := r
  simp only at stopped
  subst stopped
  rw [run_bind_of_error first]

namespace Pruner

variable {p : Pruner σ} {same : σ → σ → Prop}

/-- The code that a pass asks before it has a selection cannot tell related states apart. -/
structure Repeats (p : Pruner σ) (same : σ → σ → Prop) : Prop where
  judge : ∀ o, (p.registry.judge o).Alike same
  select : ∀ candidates now, (p.strategy.select candidates now).Alike same
  clock : ∀ s t, same s t → p.clock s = p.clock t

/-- No code can tell a state from itself. -/
theorem repeats_eq (p : Pruner σ) : p.Repeats (· = ·) := by
  constructor
  case judge =>
    rintro o s _ rfl
    exact ⟨rfl, rfl⟩
  case select =>
    rintro candidates now s _ rfl
    exact ⟨rfl, rfl⟩
  case clock =>
    rintro s _ rfl
    rfl

/-! ## The choice -/

section Judging

variable (judge : ∀ o, (p.registry.judge o).Alike same)

include judge

theorem considered_alike (o : Object) : Pass.Alike same (p.considered o) (p.considered o) := by
  unfold considered
  split
  · exact .bind (.report _) fun _ => .done _
  · refine .bind (.call (judge o)) fun verdict => ?_
    split
    · exact .done _
    · exact .bind (.report _) fun _ => .done _
    · exact .reportStop _ _

theorem candidates_alike (listed : List Object) :
    Pass.Alike same (p.candidates listed) (p.candidates listed) := by
  induction listed with
  | nil => exact .done _
  | cons first rest ih =>
    unfold candidates
    split
    · exact .stop _
    · refine .bind (considered_alike judge _) fun keep => ?_
      exact .bind ih fun others => .done _

end Judging

theorem selected_alike (repeats : p.Repeats same) (count : Nat) (candidates : List Object) :
    Pass.Alike same (p.selected count candidates) (p.selected count candidates) := by
  unfold selected
  refine .bind (.read repeats.clock) fun now => ?_
  refine .bind (.call (repeats.select candidates now)) fun answer => ?_
  split
  · exact .reportStop _ _
  · exact .bind (.report _) fun _ => .done _

/-- A listing that is not cancelled has an answer of the store. -/
theorem Listing.exists_answer {store : Store σ} {scene : Scene σ} {r : Progress σ (List Object)}
    (listing : p.Listing store scene r)
    (uncancelled : ∀ deleted, r.outcome ≠ .error (.cancelled deleted)) :
    ∃ answer, ((store.list p.request).run scene.state).answer = some answer ∧
      r.outcome = answer.mapError (.list p.type) ∧
      inquiries r.trace = [.listed p.request (some answer)] ∧
      r.scene.state = ((store.list p.request).run scene.state).state := by
  cases listing with
  | cancelledBefore _ => exact (uncancelled _ rfl).elim
  | givenUp _ _ _ => exact (uncancelled _ rfl).elim
  | failed _ called answer =>
    subst called
    exact ⟨_, answer, rfl, by simp, rfl⟩
  | answered _ called answer =>
    subst called
    exact ⟨_, answer, rfl, by simp, rfl⟩

/-- The pruner that only selects, or that removes what it selects. -/
def setDryRun (p : Pruner σ) (dry : Bool) : Pruner σ := { p with dryRun := dry }

/-- Filtering depends on the type, the registry, and whether objects can ask to be kept. -/
theorem candidates_congr {q : Pruner σ} (type : p.type = q.type) (registry : p.registry = q.registry)
    (respect : p.respectPreserve = q.respectPreserve) : p.candidates = q.candidates := by
  cases p
  cases q
  cases type
  cases registry
  cases respect
  funext listed
  induction listed with
  | nil => rfl
  | cons first rest ih =>
    unfold candidates
    rw [ih]
    rfl

/-- After the check of the settings and the report, a pass chooses as if there were no dry runs. -/
theorem run_chosen (dry : Bool) (store : Store σ) (scene : Scene σ) :
    ((p.setDryRun dry).chosen store).run scene =
      match p.check with
      | .error e => ⟨.error (.config e), scene, []⟩
      | .ok () =>
        ((p.listed store >>= fun listed =>
          p.candidates listed >>= p.selected listed.length).run scene).after
            [(p.setDryRun dry).startedEvent] := by
  have check : (p.setDryRun dry).check = p.check := rfl
  unfold chosen checked
  rw [check]
  cases p.check with
  | error e => rfl
  | ok _ =>
    simp only [candidates_congr (p := p.setDryRun dry) (q := p) rfl rfl rfl]
    rfl

section Choosing

variable {dryStore realStore : Store σ} {x y : Scene σ}

/-- Where the two stores list the same, the dry pass and the real one choose alike, unless they are
cancelled. -/
theorem chosen_alike (repeats : p.Repeats same)
    (answers : ((dryStore.list p.request).run x.state).answer =
      ((realStore.list p.request).run y.state).answer)
    (states : same ((dryStore.list p.request).run x.state).state
      ((realStore.list p.request).run y.state).state)
    (dryEnds : ∀ deleted,
      (((p.setDryRun true).chosen dryStore).run x).outcome ≠ .error (.cancelled deleted))
    (realEnds : ∀ deleted,
      (((p.setDryRun false).chosen realStore).run y).outcome ≠ .error (.cancelled deleted)) :
    (((p.setDryRun true).chosen dryStore).run x).outcome =
        (((p.setDryRun false).chosen realStore).run y).outcome ∧
      inquiries (((p.setDryRun true).chosen dryStore).run x).trace =
        inquiries (((p.setDryRun false).chosen realStore).run y).trace := by
  rw [run_chosen] at dryEnds realEnds ⊢
  rw [run_chosen]
  cases valid : p.check with
  | error e => exact ⟨rfl, rfl⟩
  | ok _ =>
    simp only [valid] at dryEnds realEnds ⊢
    have dryListing := listed_listing (p := p) dryStore x
    have realListing := listed_listing (p := p) realStore y
    obtain ⟨answer, dryAnswer, dryOutcome, dryAsked, dryState⟩ :=
      dryListing.exists_answer fun deleted cancelled =>
        dryEnds deleted (Pass.outcome_bind_of_error cancelled)
    obtain ⟨other, realAnswer, realOutcome, realAsked, realState⟩ :=
      realListing.exists_answer fun deleted cancelled =>
        realEnds deleted (Pass.outcome_bind_of_error cancelled)
    -- The listings answer the same by assumption; what follows them asks nothing but repeated code.
    have agree : answer = other := by
      rw [dryAnswer, realAnswer] at answers
      exact Option.some.inj answers
    subst agree
    have listing : ((p.listed dryStore).run x).Alike same ((p.listed realStore).run y) := by
      refine ⟨dryOutcome.trans realOutcome.symm, dryAsked.trans realAsked.symm, ?_⟩
      rw [dryState, realState]
      exact states
    have alike := listing.bind fun listed =>
      (candidates_alike repeats.judge listed).bind (selected_alike repeats listed.length)
    refine ⟨alike.outcome, ?_⟩
    simp only [Progress.after, viewed_append, startedEvent, viewed_cons, viewed_nil,
      Event.inquiry?, Option.toList_none, List.append_nil, List.nil_append]
    exact alike.asked

end Choosing

/-! ## The two passes -/

theorem Course.chosen_ne_cancelled {store : Store σ} {scene : Scene σ}
    (course : p.Course store scene ((p.prune store).run scene))
    (quiet : ((p.prune store).run scene).scene.token.hasFired = false) (deleted : List ResourceKey) :
    ((p.chosen store).run scene).outcome ≠ .error (.cancelled deleted) := by
  intro cancelled
  have fired := course.hasFired_of_cancelled (Pass.outcome_bind_of_error cancelled)
  rw [quiet] at fired
  cases fired

/-- What a dry pass tells of a real one. -/
structure Foretells (dry real : Progress σ (List Object)) : Prop where
  /-- Where the dry pass ends well, the real one removes its selection, or a beginning of it until
  the hook or the store stops it. -/
  ok : ∀ selection, dry.outcome = .ok selection →
    (real.outcome = .ok selection ∨
      (∃ resource deleted text, real.outcome = .error (.preDelete resource deleted text)) ∨
      ∃ resource deleted source, real.outcome = .error (.delete resource deleted source)) ∧
    (deletions real.trace).map Deletion.object <+: selection
  /-- Where the dry pass stops, the real one stops with the same error and removes nothing. -/
  error : ∀ e, dry.outcome = .error e → real.outcome = .error e ∧ removals real.trace = []
  /-- What stops the real pass before its first removal stops the dry one. -/
  errors : ∀ e, real.outcome = .error e →
    (∀ resource deleted text, e ≠ .preDelete resource deleted text) →
    (∀ resource deleted source, e ≠ .delete resource deleted source) → dry.outcome = .error e
  asked : inquiries dry.trace = inquiries real.trace
  harmless : removals dry.trace = []

/-- A pass that stops before it has a selection foretells another one that does. -/
theorem Foretells.of_error {dry real : Progress σ (List Object)} {e : PruneError}
    (dryEnds : dry.outcome = .error e) (realEnds : real.outcome = .error e)
    (asked : inquiries dry.trace = inquiries real.trace) (dryHarmless : removals dry.trace = [])
    (realHarmless : removals real.trace = []) : Foretells dry real := by
  constructor
  case ok =>
    intro selection ok
    cases dryEnds.symm.trans ok
  case error =>
    intro f stops
    cases dryEnds.symm.trans stops
    exact ⟨realEnds, realHarmless⟩
  case errors =>
    intro f stops _ _
    cases realEnds.symm.trans stops
    exact dryEnds
  case asked => exact asked
  case harmless => exact dryHarmless

/-- A dry pass with a selection foretells a real one with the same selection. -/
theorem Foretells.of_selection {dry real : Progress σ (List Object)} {selection : List Object}
    (dryEnds : dry.outcome = .ok selection)
    (realEnds : real.outcome = .ok selection ∨
      (∃ resource deleted text, real.outcome = .error (.preDelete resource deleted text)) ∨
      ∃ resource deleted source, real.outcome = .error (.delete resource deleted source))
    (deleted : (deletions real.trace).map Deletion.object <+: selection)
    (asked : inquiries dry.trace = inquiries real.trace) (harmless : removals dry.trace = []) :
    Foretells dry real := by
  constructor
  case ok =>
    intro other ok
    cases dryEnds.symm.trans ok
    exact ⟨realEnds, deleted⟩
  case error =>
    intro e stops
    cases dryEnds.symm.trans stops
  case errors =>
    intro e stops unrefused unfailed
    rcases realEnds with ok | ⟨resource, deleted, text, refused⟩ | ⟨resource, deleted, source, failed⟩
    · cases ok.symm.trans stops
    · cases refused.symm.trans stops
      exact (unrefused _ _ _ rfl).elim
    · cases failed.symm.trans stops
      exact (unfailed _ _ _ rfl).elim
  case asked => exact asked
  case harmless => exact harmless

/-- A dry pass foretells the real one over any store that lists the same, unless a token fires.  The
states that the two stores list in may differ in whatever the code asked afterwards does not see. -/
theorem dryRun_foretells (p : Pruner σ) {same : σ → σ → Prop} (repeats : p.Repeats same)
    {dryStore realStore : Store σ} {x y : Scene σ}
    (answers : ((dryStore.list p.request).run x.state).answer =
      ((realStore.list p.request).run y.state).answer)
    (states : same ((dryStore.list p.request).run x.state).state
      ((realStore.list p.request).run y.state).state)
    (dryQuiet : (((p.setDryRun true).prune dryStore).run x).scene.token.hasFired = false)
    (realQuiet : (((p.setDryRun false).prune realStore).run y).scene.token.hasFired = false) :
    Foretells (((p.setDryRun true).prune dryStore).run x)
      (((p.setDryRun false).prune realStore).run y) := by
  have dryCourse := prune_course (p := p.setDryRun true) dryStore x
  have realCourse := prune_course (p := p.setDryRun false) realStore y
  obtain ⟨outcome, asked⟩ := chosen_alike repeats answers states
    (dryCourse.chosen_ne_cancelled dryQuiet) (realCourse.chosen_ne_cancelled realQuiet)
  generalize ((p.setDryRun true).prune dryStore).run x = dry at dryQuiet dryCourse ⊢
  generalize ((p.setDryRun false).prune realStore).run y = real at realQuiet realCourse ⊢
  -- The two passes choose alike, so both stop before they have a selection or both go on with it.
  rcases dryCourse.continuation with
    ⟨e, _, _, dryChosen, rfl⟩ | ⟨selection, _, _, dryLater, dryChosen, dryContinued⟩ <;>
  rcases realCourse.continuation with
    ⟨f, _, _, realChosen, rfl⟩ | ⟨selection', _, _, realLater, realChosen, realContinued⟩ <;>
  rw [dryChosen, realChosen] at outcome asked <;> cases outcome
  case inl.inl =>
    have dryChoice := choice_of_run dryChosen
    have realChoice := choice_of_run realChosen
    exact .of_error rfl rfl asked dryChoice.removals_eq realChoice.removals_eq
  case inr.inr =>
    have dryChoice := choice_of_run dryChosen
    have realChoice := choice_of_run realChosen
    obtain ⟨dryEnds, harmless⟩ := dryContinued.dry rfl
    have realEnds : real.outcome = .ok selection ∨
        (∃ resource deleted text, real.outcome = .error (.preDelete resource deleted text)) ∨
        ∃ resource deleted source, real.outcome = .error (.delete resource deleted source) := by
      cases ending : real.outcome with
      | ok returned => exact .inl (congrArg Except.ok (realContinued.returned returned ending))
      | error e =>
        rcases realContinued.stopped e ending with
          ⟨resource, source, failed⟩ | ⟨resource, text, refused⟩ | cancelled
        · exact .inr (.inr ⟨resource, _, source, congrArg Except.error failed⟩)
        · exact .inr (.inl ⟨resource, _, text, congrArg Except.error refused⟩)
        · rw [cancelled] at ending
          cases realQuiet.symm.trans (realCourse.hasFired_of_cancelled ending)
    apply Foretells.of_selection dryEnds realEnds
    · simp only [realContinued.trace, viewed_append, realChoice.deletions_eq, List.nil_append]
      exact realContinued.deleted
    · rw [dryContinued.inquiries_eq, realContinued.inquiries_eq]
      exact asked
    · simp only [dryContinued.trace, viewed_append, dryChoice.removals_eq, harmless,
        List.nil_append]

open Rehearsed in
theorem dryRun_foretells_rehearsed :
    Rehearsed.pruner.Repeats (· = ·) ∧
      (((Rehearsed.pruner.setDryRun true).prune Stage.store).run ⟨stage, .quiet⟩).outcome =
        .ok [pod "a" (-2), pod "b" (-1)] ∧
      (((Rehearsed.pruner.setDryRun false).prune Stage.store).run ⟨stage, .quiet⟩).outcome =
        .error (.delete ⟨none, "b"⟩ [⟨none, "a"⟩] (.other "held")) ∧
      Foretells (((Rehearsed.pruner.setDryRun true).prune Stage.store).run ⟨stage, .quiet⟩)
        (((Rehearsed.pruner.setDryRun false).prune Stage.store).run ⟨stage, .quiet⟩) :=
  ⟨repeats_eq _, rfl, rfl, dryRun_foretells _ (repeats_eq _) rfl rfl rfl rfl⟩

end Pruner

end Retention
