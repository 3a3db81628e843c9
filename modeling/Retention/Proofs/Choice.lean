import Retention.Proofs.Trace

/-!
# How a selection is chosen

The part of a pass before the first removal, as relations: `Listing` for the store's answer,
`Consideration` for one listed object, `Filtering` for all of them, `Selecting` for the strategy,
and `Choice` for the whole.  Each lists the ways in which its part can go, with the scene it leaves
and its trace, and the function that runs the part takes one of them (`chosen_choice`).
-/

namespace Retention

variable {σ : Type}

namespace Pruner

variable (p : Pruner σ)

/-! ## Listing -/

/-- The ways in which the store can be asked for objects. -/
inductive Listing (store : Store σ) (scene : Scene σ) : Progress σ (List Object) → Prop
  /-- The token has fired before. -/
  | cancelledBefore :
    scene.token.hasFired = true →
    Listing store scene
      ⟨.error (.cancelled []), scene, [.reported (.cancelledWhileListing p.type)]⟩
  /-- The token fires while the store lists. -/
  | givenUp {reply : Reply σ (Awaited (List Object))} :
    scene.token.hasFired = false →
    (store.list p.request).run scene.state = reply → reply.answer = none →
    Listing store scene
      ⟨.error (.cancelled []), scene.awaited reply,
        .listed p.request none :: reply.log.map .noted ++
          [.reported (.cancelledWhileListing p.type)]⟩
  /-- The store fails. -/
  | failed {e : StoreError} {reply : Reply σ (Awaited (List Object))} :
    scene.token.hasFired = false →
    (store.list p.request).run scene.state = reply → reply.answer = some (.error e) →
    Listing store scene
      ⟨.error (.list p.type e), scene.awaited reply,
        .listed p.request (some (.error e)) :: reply.log.map .noted ++
          [.reported (.listFailed p.type e)]⟩
  /-- The store lists objects. -/
  | answered {listed : List Object} {reply : Reply σ (Awaited (List Object))} :
    scene.token.hasFired = false →
    (store.list p.request).run scene.state = reply → reply.answer = some (.ok listed) →
    Listing store scene
      ⟨.ok listed, scene.awaited reply,
        .listed p.request (some (.ok listed)) :: reply.log.map .noted⟩

variable {p}

/-- Listing goes one of the ways of `Listing`. -/
theorem listed_listing (store : Store σ) (scene : Scene σ) :
    p.Listing store scene ((p.listed store).run scene) := by
  unfold listed
  cases before : scene.token.hasFired with
  | true =>
    rw [Pass.run_bind_of_ok (Pass.run_await_of_hasFired before)]
    exact .cancelledBefore before
  | false =>
    rw [Pass.run_bind_of_ok (Pass.run_await_of_quiet before rfl)]
    split
    next answer =>
      rw [answer]
      exact .givenUp before rfl answer
    next e answer =>
      rw [answer]
      exact .failed before rfl answer
    next objects answer =>
      rw [answer]
      simpa [Progress.after, Pass.run, Pass.done] using Listing.answered before rfl answer

/-! ## Filtering -/

variable (p) in
/-- The ways in which one object can be considered. -/
inductive Consideration (o : Object) (scene : Scene σ) : Progress σ Bool → Prop
  /-- It asks to be kept. -/
  | preserved :
    p.preserves o = true →
    Consideration o scene ⟨.ok false, scene, [.reported (.skippedPreserved o.key)]⟩
  /-- It is a candidate. -/
  | prunable {reply : Reply σ Verdict} :
    p.preserves o = false →
    (p.registry.judge o).run scene.state = reply → reply.answer = .ok () →
    Consideration o scene
      ⟨.ok true, scene.called reply, .judged o (.ok ()) :: reply.log.map .noted⟩
  /-- Its predicate vetoes it. -/
  | vetoed {resource : ResourceKey} {reason : String} {reply : Reply σ Verdict} :
    p.preserves o = false →
    (p.registry.judge o).run scene.state = reply →
    reply.answer = .error (.unprunable resource reason) →
    Consideration o scene
      ⟨.ok false, scene.called reply,
        .judged o (.error (.unprunable resource reason)) :: reply.log.map .noted ++
          [.reported (.skippedUnprunable resource reason)]⟩
  /-- The question cannot be answered. -/
  | failed {e : PredicateError} {reply : Reply σ Verdict} :
    p.preserves o = false →
    (p.registry.judge o).run scene.state = reply →
    reply.answer = .error e → e.isUnprunable = false →
    Consideration o scene
      ⟨.error (.predicate o.key e), scene.called reply,
        .judged o (.error e) :: reply.log.map .noted ++ [.reported (.checkFailed o.key e)]⟩

theorem considered_consideration (o : Object) (scene : Scene σ) :
    p.Consideration o scene ((p.considered o).run scene) := by
  unfold considered
  cases keeps : p.preserves o with
  | true => exact .preserved keeps
  | false =>
    simp only [Bool.false_eq_true, if_false]
    unfold judged
    rw [Pass.run_bind_of_ok (Pass.run_call rfl)]
    split
    next answer =>
      rw [answer]
      simpa [Progress.after, Pass.run, Pass.done] using Consideration.prunable keeps rfl answer
    next resource reason answer =>
      rw [answer]
      exact .vetoed keeps rfl answer
    next e hard answer =>
      rw [answer]
      refine .failed keeps rfl answer ?_
      cases e with
      | unprunable resource reason => exact (hard resource reason rfl).elim
      | _ => rfl

variable (p) in
/-- The ways in which listed objects can be filtered: one after the other until a fault stops the
pass. -/
inductive Filtering : List Object → Scene σ → Progress σ (List Object) → Prop
  | finished {scene : Scene σ} : Filtering [] scene ⟨.ok [], scene, []⟩
  | mistyped {listed : Object} {rest : List Object} {scene : Scene σ} {reported : TypeMeta} :
    listed.coerce p.type = .error reported →
    Filtering (listed :: rest) scene ⟨.error (.convert listed.key p.type reported), scene, []⟩
  | stopped {listed o : Object} {rest : List Object} {scene after : Scene σ} {e : PruneError}
    {trace : List Event} :
    listed.coerce p.type = .ok o → p.Consideration o scene ⟨.error e, after, trace⟩ →
    Filtering (listed :: rest) scene ⟨.error e, after, trace⟩
  | next {listed o : Object} {rest : List Object} {scene after : Scene σ} {keep : Bool}
    {trace : List Event} {r : Progress σ (List Object)} :
    listed.coerce p.type = .ok o → p.Consideration o scene ⟨.ok keep, after, trace⟩ →
    Filtering rest after r →
    Filtering (listed :: rest) scene
      ⟨r.outcome.map fun others => if keep then o :: others else others, r.scene,
        trace ++ r.trace⟩

theorem candidates_filtering (listed : List Object) (scene : Scene σ) :
    p.Filtering listed scene ((p.candidates listed).run scene) := by
  induction listed generalizing scene with
  | nil => exact .finished
  | cons listed rest ih =>
    unfold candidates
    cases typed : listed.coerce p.type with
    | error reported => exact .mistyped typed
    | ok o =>
      have consideration := considered_consideration (p := p) o scene
      simp only
      generalize first : (p.considered o).run scene = r at consideration
      obtain ⟨outcome, after, trace⟩ := r
      cases outcome with
      | error e =>
        rw [Pass.run_bind_of_error first]
        exact .stopped typed consideration
      | ok keep =>
        rw [Pass.run_bind_of_ok first]
        have others := Filtering.next typed consideration (ih after)
        generalize second : (p.candidates rest).run after = r at others
        obtain ⟨outcome, last, trace⟩ := r
        cases outcome with
        | error e =>
          rw [Pass.run_bind_of_error second]
          exact others
        | ok candidates =>
          rw [Pass.run_bind_of_ok second]
          simpa [Progress.after, Pass.run, Pass.done, Except.map] using others

/-! ## Selecting -/

variable (p) in
/-- The ways in which the strategy can select among candidates. -/
inductive Selecting (listed : Nat) (candidates : List Object) (scene : Scene σ) :
    Progress σ (List Object) → Prop
  | failed {e : StrategyError} {reply : Reply σ (Except StrategyError (List Object))} :
    (p.strategy.select candidates (p.clock scene.state)).run scene.state = reply →
    reply.answer = .error e →
    Selecting listed candidates scene
      ⟨.error (.strategy e), scene.called reply,
        .selected candidates (.error e) :: reply.log.map .noted ++
          [.reported (.strategyFailed p.type e)]⟩
  | answered {selection : List Object} {reply : Reply σ (Except StrategyError (List Object))} :
    (p.strategy.select candidates (p.clock scene.state)).run scene.state = reply →
    reply.answer = .ok selection →
    Selecting listed candidates scene
      ⟨.ok selection, scene.called reply,
        .selected candidates (.ok selection) :: reply.log.map .noted ++
          [.reported (.strategySelected p.type listed candidates.length selection.length)]⟩

theorem selected_selecting (listed : Nat) (candidates : List Object) (scene : Scene σ) :
    p.Selecting listed candidates scene ((p.selected listed candidates).run scene) := by
  have clock : (Pass.read p.clock).run scene = ⟨.ok (p.clock scene.state), scene, []⟩ := rfl
  unfold selected
  rw [Pass.run_bind_of_ok clock, Pass.run_bind_of_ok (Pass.run_call rfl)]
  split
  next e answer =>
    rw [answer]
    exact .failed rfl answer
  next selection answer =>
    rw [answer]
    exact .answered rfl answer

/-! ## The whole choice -/

/-- The report with which a pass starts. -/
def startedEvent (p : Pruner σ) : Event :=
  .reported (.started p.request p.strategy.mode p.dryRun)

variable (p) in
/-- The ways in which a pass can come to a selection, or stop before it has one. -/
inductive Choice (store : Store σ) (scene : Scene σ) : Progress σ (List Object) → Prop
  | invalid {e : ConfigError} :
    p.check = .error e → Choice store scene ⟨.error (.config e), scene, []⟩
  | unlisted {after : Scene σ} {e : PruneError} {trace : List Event} :
    p.check = .ok () → p.Listing store scene ⟨.error e, after, trace⟩ →
    Choice store scene ⟨.error e, after, p.startedEvent :: trace⟩
  | unfiltered {listed : List Object} {middle after : Scene σ} {e : PruneError}
    {first second : List Event} :
    p.check = .ok () → p.Listing store scene ⟨.ok listed, middle, first⟩ →
    p.Filtering listed middle ⟨.error e, after, second⟩ →
    Choice store scene ⟨.error e, after, p.startedEvent :: first ++ second⟩
  | selected {listed candidates : List Object} {middle after : Scene σ}
    {first second : List Event} {r : Progress σ (List Object)} :
    p.check = .ok () → p.Listing store scene ⟨.ok listed, middle, first⟩ →
    p.Filtering listed middle ⟨.ok candidates, after, second⟩ →
    p.Selecting listed.length candidates after r →
    Choice store scene (r.after (p.startedEvent :: first ++ second))

/-- A pass comes to its selection in one of the ways of `Choice`. -/
theorem chosen_choice (store : Store σ) (scene : Scene σ) :
    p.Choice store scene ((p.chosen store).run scene) := by
  unfold chosen checked
  cases valid : p.check with
  | error e => exact .invalid valid
  | ok _ =>
    have started : (Pass.report (.started p.request p.strategy.mode p.dryRun)).run scene =
      ⟨.ok (), scene, [p.startedEvent]⟩ := rfl
    have checked : (Pass.done () : Pass σ Unit).run scene = ⟨.ok (), scene, []⟩ := rfl
    rw [Pass.run_bind_of_ok checked, Pass.run_bind_of_ok started]
    have listing := listed_listing (p := p) store scene
    generalize first : (p.listed store).run scene = r at listing
    obtain ⟨outcome, middle, trace⟩ := r
    cases outcome with
    | error e =>
      rw [Pass.run_bind_of_error first]
      exact .unlisted valid listing
    | ok listed =>
      rw [Pass.run_bind_of_ok first]
      have filtering := candidates_filtering (p := p) listed middle
      generalize second : (p.candidates listed).run middle = r at filtering
      obtain ⟨outcome, after, trace⟩ := r
      cases outcome with
      | error e =>
        rw [Pass.run_bind_of_error second]
        simpa [Progress.after] using Choice.unfiltered valid listing filtering
      | ok candidates =>
        rw [Pass.run_bind_of_ok second]
        have selecting := selected_selecting (p := p) listed.length candidates after
        simpa [Progress.after] using Choice.selected valid listing filtering selecting

/-- A pass that has a selection has listed objects, filtered them and asked the strategy. -/
theorem Choice.of_ok {store : Store σ} {scene after : Scene σ} {selection : List Object}
    {trace : List Event} (choice : p.Choice store scene ⟨.ok selection, after, trace⟩) :
    ∃ listed candidates middle last first second third, p.check = .ok () ∧
      p.Listing store scene ⟨.ok listed, middle, first⟩ ∧
      p.Filtering listed middle ⟨.ok candidates, last, second⟩ ∧
      p.Selecting listed.length candidates last ⟨.ok selection, after, third⟩ ∧
      trace = p.startedEvent :: first ++ second ++ third := by
  generalize ending : (⟨.ok selection, after, trace⟩ : Progress σ (List Object)) = r at choice
  cases choice with
  | invalid _ => cases ending
  | unlisted _ _ => cases ending
  | unfiltered _ _ _ => cases ending
  | @selected _ _ _ _ _ _ r valid listing filtering selecting =>
    obtain ⟨outcome, last, third⟩ := r
    cases ending
    exact ⟨_, _, _, _, _, _, _, valid, listing, filtering, selecting, rfl⟩

/-! ## What stops a choice -/

section Stopping

variable {store : Store σ} {scene after : Scene σ} {e : PruneError} {trace : List Event}

theorem Listing.error_cases (listing : p.Listing store scene ⟨.error e, after, trace⟩) :
    e = .cancelled [] ∨ ∃ source, e = .list p.type source := by
  cases listing with
  | cancelledBefore _ => exact .inl rfl
  | givenUp _ _ _ => exact .inl rfl
  | failed _ _ _ => exact .inr ⟨_, rfl⟩

theorem Consideration.error_eq {o : Object}
    (consideration : p.Consideration o scene ⟨.error e, after, trace⟩) :
    ∃ source, e = .predicate o.key source := by
  cases consideration with
  | failed _ _ _ _ => exact ⟨_, rfl⟩

/-- Filtering stops at an object that reports another type, or that cannot be judged. -/
theorem Filtering.error_cases {listed : List Object} {r : Progress σ (List Object)}
    (filtering : p.Filtering listed scene r) (stops : r.outcome = .error e) :
    (∃ resource reported, e = .convert resource p.type reported) ∨
      ∃ resource source, e = .predicate resource source := by
  induction filtering with
  | finished => cases stops
  | mistyped _ =>
    cases stops
    exact .inl ⟨_, _, rfl⟩
  | stopped _ consideration =>
    cases stops
    exact .inr ⟨_, consideration.error_eq⟩
  | @next _ _ _ _ _ _ _ r _ _ _ ih =>
    cases ending : r.outcome with
    | error e =>
      rw [ending] at stops
      cases stops
      exact ih ending
    | ok _ =>
      rw [ending] at stops
      cases stops

end Stopping

/-! ## What cannot be seen of a choice -/

section Unseen

variable {α : Type} {see : Event → Option α} {store : Store σ} {scene : Scene σ}
  (unreported : ∀ notice, see (.reported notice) = none)
  (unnoted : ∀ record, see (.noted record) = none)

include unreported unnoted

theorem Listing.unseen {r : Progress σ (List Object)} (listing : p.Listing store scene r)
    (unlisted : ∀ request answer, see (.listed request answer) = none) :
    viewed see r.trace = [] := by
  cases listing <;> simp [viewed_noted unnoted, unreported, unlisted]

theorem Consideration.unseen {o : Object} {r : Progress σ Bool}
    (consideration : p.Consideration o scene r)
    (unjudged : ∀ o verdict, see (.judged o verdict) = none) : viewed see r.trace = [] := by
  cases consideration <;> simp [viewed_noted unnoted, unreported, unjudged]

theorem Filtering.unseen {listed : List Object} {r : Progress σ (List Object)}
    (filtering : p.Filtering listed scene r)
    (unjudged : ∀ o verdict, see (.judged o verdict) = none) : viewed see r.trace = [] := by
  induction filtering with
  | finished => rfl
  | mistyped _ => rfl
  | stopped _ consideration => exact consideration.unseen unreported unnoted unjudged
  | next _ consideration _ ih =>
    rw [viewed_append, ih, List.append_nil]
    exact consideration.unseen unreported unnoted unjudged

theorem Selecting.unseen {count : Nat} {candidates : List Object}
    {r : Progress σ (List Object)} (selecting : p.Selecting count candidates scene r)
    (unselected : ∀ candidates answer, see (.selected candidates answer) = none) :
    viewed see r.trace = [] := by
  cases selecting <;> simp [viewed_noted unnoted, unreported, unselected]

/-- A choice makes no other calls than its inquiries. -/
theorem Choice.unseen {r : Progress σ (List Object)} (choice : p.Choice store scene r)
    (unlisted : ∀ request answer, see (.listed request answer) = none)
    (unjudged : ∀ o verdict, see (.judged o verdict) = none)
    (unselected : ∀ candidates answer, see (.selected candidates answer) = none) :
    viewed see r.trace = [] := by
  cases choice with
  | invalid _ => rfl
  | unlisted _ listing =>
    have first := listing.unseen unreported unnoted unlisted
    simpa [startedEvent, unreported] using first
  | unfiltered _ listing filtering =>
    have first := listing.unseen unreported unnoted unlisted
    have second := filtering.unseen unreported unnoted unjudged
    simp only at first second
    simp [startedEvent, unreported, first, second]
  | selected _ listing filtering selecting =>
    have first := listing.unseen unreported unnoted unlisted
    have second := filtering.unseen unreported unnoted unjudged
    have third := selecting.unseen unreported unnoted unselected
    simp only at first second
    simp [startedEvent, Progress.after, unreported, first, second, third]

end Unseen

section Views

variable {store : Store σ} {scene : Scene σ} {r : Progress σ (List Object)}

/-- Up to the selection nothing is removed. -/
theorem Choice.removals_eq (choice : p.Choice store scene r) : removals r.trace = [] :=
  choice.unseen (fun _ => rfl) (fun _ => rfl) (fun _ _ => rfl) (fun _ _ => rfl) fun _ _ => rfl

theorem Choice.handedObjects_eq (choice : p.Choice store scene r) : handedObjects r.trace = [] :=
  choice.unseen (fun _ => rfl) (fun _ => rfl) (fun _ _ => rfl) (fun _ _ => rfl) fun _ _ => rfl

theorem Choice.deletions_eq (choice : p.Choice store scene r) : deletions r.trace = [] :=
  choice.unseen (fun _ => rfl) (fun _ => rfl) (fun _ _ => rfl) (fun _ _ => rfl) fun _ _ => rfl

theorem Listing.listings_of_ok {after : Scene σ} {listed : List Object} {trace : List Event}
    (listing : p.Listing store scene ⟨.ok listed, after, trace⟩) :
    listings trace = [(p.request, some (.ok listed))] := by
  cases listing with
  | answered _ _ _ => simp

/-- The store does not have objects judged. -/
theorem Listing.judgements_eq (listing : p.Listing store scene r) : judgements r.trace = [] :=
  listing.unseen (fun _ => rfl) (fun _ => rfl) fun _ _ => rfl

theorem Filtering.listings_eq {listed : List Object} (filtering : p.Filtering listed scene r) :
    listings r.trace = [] :=
  filtering.unseen (fun _ => rfl) (fun _ => rfl) fun _ _ => rfl

section Strategies

variable {count : Nat} {candidates : List Object}
  (selecting : p.Selecting count candidates scene r)

include selecting

theorem Selecting.listings_eq : listings r.trace = [] :=
  selecting.unseen (fun _ => rfl) (fun _ => rfl) fun _ _ => rfl

theorem Selecting.judgements_eq : judgements r.trace = [] :=
  selecting.unseen (fun _ => rfl) (fun _ => rfl) fun _ _ => rfl

end Strategies

theorem Selecting.selections_eq {count : Nat} {candidates : List Object}
    (selecting : p.Selecting count candidates scene r) :
    selections r.trace = r.outcome.toOption.toList := by
  cases selecting <;> simp [Except.toOption]

/-- What is selected is what the choice ends with. -/
theorem Choice.selections_eq (choice : p.Choice store scene r) :
    selections r.trace = r.outcome.toOption.toList := by
  cases choice with
  | invalid _ => rfl
  | unlisted _ listing =>
    have first : selections _ = [] := listing.unseen (fun _ => rfl) (fun _ => rfl) fun _ _ => rfl
    simpa [startedEvent, Except.toOption] using first
  | unfiltered _ listing filtering =>
    have first : selections _ = [] := listing.unseen (fun _ => rfl) (fun _ => rfl) fun _ _ => rfl
    have second : selections _ = [] :=
      filtering.unseen (fun _ => rfl) (fun _ => rfl) fun _ _ => rfl
    simp_all [startedEvent, Except.toOption]
  | selected _ listing filtering selecting =>
    have first : selections _ = [] := listing.unseen (fun _ => rfl) (fun _ => rfl) fun _ _ => rfl
    have second : selections _ = [] :=
      filtering.unseen (fun _ => rfl) (fun _ => rfl) fun _ _ => rfl
    simp_all [startedEvent, Progress.after, selecting.selections_eq]

end Views

end Pruner

end Retention
