import Retention.Proofs.Candidates
import Retention.Proofs.Continuation

/-!
# The order of a pass

A pass lists objects, has them judged, asks its strategy and removes what this selects, one after the
other.  `Awaits` says of a trace that an event of some kind comes only after what it needs, and
`Orderly` puts together what the four kinds of calls need.  So an error met before there is a
selection leaves everything as it was.
-/

namespace Retention

variable {σ α : Type}

/-! ## What an event waits for -/

/-- Wherever a trace has an event of which something is seen, what comes before is as `ready` says. -/
def Awaits (see : Event → Option α) (ready : List Event → Prop) (trace : List Event) : Prop :=
  ∀ before event after, trace = before ++ event :: after → (see event).isSome = true → ready before

section Waiting

variable {see : Event → Option α} {ready : List Event → Prop} {earlier later : List Event}

theorem Awaits.of_unseen (unseen : viewed see later = []) : Awaits see ready later := by
  rintro before event after rfl seen
  obtain ⟨a, sees⟩ := Option.isSome_iff_exists.mp seen
  simp [sees] at unseen

/-- An event at the head of a trace waits for nothing, and the later ones are none of its kind. -/
theorem Awaits.head {event : Event} (unseen : viewed see later = []) :
    Awaits see (· = []) (event :: later) := by
  intro before other after split seen
  cases before with
  | nil => rfl
  | cons first rest =>
    rw [List.cons_append, List.cons.injEq] at split
    have never : Awaits see (fun _ => False) later := .of_unseen unseen
    exact (never rest other after split.2 seen).elim

/-- Events of the later part of a trace can count on its earlier part. -/
theorem Awaits.append (first : Awaits see ready earlier)
    (second : Awaits see (fun before => ready (earlier ++ before)) later) :
    Awaits see ready (earlier ++ later) := by
  intro before event after split seen
  rcases List.append_eq_append_iff.mp split with ⟨between, rfl, rest⟩ | ⟨between, rfl, rest⟩
  · exact second between event after rest seen
  · cases between with
    | nil =>
      have whole := second [] event after rest.symm seen
      simpa using whole
    | cons head between =>
      rw [List.cons_append, List.cons.injEq] at rest
      obtain ⟨rfl, -⟩ := rest
      exact first before event between rfl seen

theorem Awaits.mono {ready' : List Event → Prop} (waits : Awaits see ready later)
    (weaker : ∀ before, ready before → ready' before) : Awaits see ready' later :=
  fun before event after split seen => weaker before (waits before event after split seen)

end Waiting

namespace Pruner

variable {p : Pruner σ} {store : Store σ} {scene after : Scene σ} {r : Progress σ (List Object)}

/-! ## Before the strategy is asked -/

/-- The store has listed objects. -/
def HasListed (p : Pruner σ) (before : List Event) : Prop :=
  ∃ listed, .listed p.request (some (.ok listed)) ∈ before

/-- The listed objects have been gone through: each coerces, and the registry was asked about each
that is not kept, in their order, with no answer that stops a pass. -/
def HasSifted (p : Pruner σ) (before : List Event) : Prop :=
  ∃ listed, listings before = [(p.request, some (.ok listed))] ∧
    (∀ l ∈ listed, ∃ o, l.coerce p.type = .ok o) ∧
    (judgements before).map Prod.fst = listed.filterMap p.eligible? ∧
    ∀ o e, (o, .error e) ∈ judgements before → e.isUnprunable = true

/-- The strategy has selected objects. -/
def HasSelected (before : List Event) : Prop :=
  ∃ candidates selection, .selected candidates (.ok selection) ∈ before

theorem Listing.listed_mem {listed : List Object} {trace : List Event}
    (listing : p.Listing store scene ⟨.ok listed, after, trace⟩) :
    .listed p.request (some (.ok listed)) ∈ trace := by
  cases listing with
  | answered _ _ _ => exact List.mem_cons_self

/-- The strategy is asked first of all. -/
theorem Selecting.awaits {count : Nat} {candidates : List Object}
    (selecting : p.Selecting count candidates scene r) :
    Awaits Event.strategyAnswer? (· = []) r.trace := by
  cases selecting with
  | failed _ _ => exact .head (by simp)
  | answered _ _ => exact .head (by simp)

/-- The store is asked for objects at most once. -/
theorem Choice.listings_length (choice : p.Choice store scene r) :
    (listings r.trace).length ≤ 1 := by
  cases choice with
  | invalid _ => exact Nat.zero_le 1
  | unlisted _ listing => cases listing <;> simp [startedEvent]
  | @unfiltered _ _ _ _ _ trace _ listing filtering =>
    have filtered : listings trace = [] := filtering.listings_eq
    simp [startedEvent, listing.listings_of_ok, filtered]
  | @selected _ _ _ _ _ trace _ _ listing filtering selecting =>
    have filtered : listings trace = [] := filtering.listings_eq
    simp [startedEvent, Progress.after, listing.listings_of_ok, filtered, selecting.listings_eq]

/-- What comes after a listing has the listed objects before it. -/
theorem Listing.awaits_after {listed : List Object} {first second : List Event}
    (listing : p.Listing store scene ⟨.ok listed, after, first⟩) :
    Awaits Event.judgement? p.HasListed (p.startedEvent :: first ++ second) := by
  have unjudged : judgements first = [] := listing.judgements_eq
  refine .append (.of_unseen (by simp [startedEvent, unjudged])) ?_
  intro before _ _ _ _
  exact ⟨listed, List.mem_append_left before (List.mem_cons_of_mem _ listing.listed_mem)⟩

/-- The registry is asked about objects once the store has listed them. -/
theorem Choice.judged_awaits (choice : p.Choice store scene r) :
    Awaits Event.judgement? p.HasListed r.trace := by
  cases choice with
  | invalid _ => exact .of_unseen rfl
  | @unlisted _ _ trace _ listing =>
    have unjudged : judgements trace = [] := listing.judgements_eq
    exact .of_unseen (by simp [startedEvent, unjudged])
  | unfiltered _ listing _ => exact listing.awaits_after
  | selected _ listing _ selecting =>
    exact .append listing.awaits_after (.of_unseen selecting.judgements_eq)

theorem Listing.strategyAnswers_eq (listing : p.Listing store scene r) :
    strategyAnswers r.trace = [] :=
  listing.unseen (fun _ => rfl) (fun _ => rfl) fun _ _ => rfl

theorem Filtering.strategyAnswers_eq {listed : List Object}
    (filtering : p.Filtering listed scene r) : strategyAnswers r.trace = [] :=
  filtering.unseen (fun _ => rfl) (fun _ => rfl) fun _ _ => rfl

/-- The strategy is asked once all listed objects have been gone through. -/
theorem Choice.asked_awaits (choice : p.Choice store scene r) :
    Awaits Event.strategyAnswer? p.HasSifted r.trace := by
  cases choice with
  | invalid _ => exact .of_unseen rfl
  | @unlisted _ _ trace _ listing =>
    have first : strategyAnswers trace = [] := listing.strategyAnswers_eq
    exact .of_unseen (by simp [startedEvent, first])
  | @unfiltered _ _ _ _ trace trace' _ listing filtering =>
    have first : strategyAnswers trace = [] := listing.strategyAnswers_eq
    have second : strategyAnswers trace' = [] := filtering.strategyAnswers_eq
    exact .of_unseen (by simp [startedEvent, first, second])
  | @selected listed _ _ _ trace trace' _ _ listing filtering selecting =>
    have first : strategyAnswers trace = [] := listing.strategyAnswers_eq
    have second : strategyAnswers trace' = [] := filtering.strategyAnswers_eq
    refine .append (.of_unseen (by simp [startedEvent, first, second])) ?_
    refine selecting.awaits.mono ?_
    rintro _ rfl
    -- Before the strategy is asked, the trace is that of the listing and of the filtering.
    have judged : judgements trace = [] := listing.judgements_eq
    have filtered : listings trace' = [] := filtering.listings_eq
    refine ⟨listed, ?_, ?_⟩
    · simp [startedEvent, listing.listings_of_ok, filtered]
    · simpa [startedEvent, judged] using filtering.sifted rfl

theorem Choice.inquiries_of_config (choice : p.Choice store scene r) {e : ConfigError}
    (stops : r.outcome = .error (.config e)) : inquiries r.trace = [] := by
  cases choice with
  | invalid _ => rfl
  | unlisted _ listing =>
    cases stops
    rcases listing.error_cases with cancelled | ⟨_, failed⟩
    · cases cancelled
    · cases failed
  | unfiltered _ _ filtering =>
    rcases filtering.error_cases stops with ⟨_, _, mistyped⟩ | ⟨_, _, undecided⟩
    · cases mistyped
    · cases undecided
  | selected _ _ _ selecting => cases selecting <;> cases stops

/-- A choice that ends well has asked the strategy. -/
theorem Choice.hasSelected {selection : List Object} {trace : List Event}
    (choice : p.Choice store scene ⟨.ok selection, after, trace⟩) : HasSelected trace := by
  have seen : selection ∈ selections trace := by
    rw [choice.selections_eq]
    exact List.mem_cons_self
  obtain ⟨event, mem, sees⟩ := mem_viewed.mp seen
  cases event with
  | selected candidates answer =>
    cases answer with
    | error _ => cases sees
    | ok _ => exact ⟨candidates, _, mem⟩
  | _ => cases sees

end Pruner

/-! ## The pass -/

/-- Whether an error comes of the settings, the store's list, the listed objects or the strategy, and
so before anything is removed. -/
def PruneError.isEarly : PruneError → Bool
  | config _ | list _ _ | convert _ _ _ | predicate _ _ | strategy _ => true
  | preDelete _ _ _ | delete _ _ _ | cancelled _ => false

theorem PruneError.deleted_of_isEarly {e : PruneError} (early : e.isEarly = true) :
    e.deleted = [] := by
  cases e with
  | preDelete _ _ _ | delete _ _ _ | cancelled _ => cases early
  | _ => rfl

namespace Pruner

variable {p : Pruner σ} {store : Store σ} {scene : Scene σ}

/-- A pass that has a selection stops with no early error. -/
theorem Continuation.not_early {selection : List Object} {pass : Progress σ (List Object)}
    {first later : List Event} (continued : p.Continuation selection pass first later)
    {e : PruneError} (stops : pass.outcome = .error e) : e.isEarly = false := by
  rcases continued.stopped e stops with
    ⟨resource, source, failed⟩ | ⟨resource, text, refused⟩ | cancelled
  · rw [failed]
    rfl
  · rw [refused]
    rfl
  · rw [cancelled]
    rfl

/-- The order in which a pass makes its calls. -/
structure Orderly (p : Pruner σ) (pass : Progress σ (List Object)) : Prop where
  /-- The store is asked for objects at most once. -/
  listed : (listings pass.trace).length ≤ 1
  /-- The registry is asked about objects once the store has listed them. -/
  judged : Awaits Event.judgement? p.HasListed pass.trace
  /-- The strategy is asked once all listed objects have been gone through. -/
  asked : Awaits Event.strategyAnswer? p.HasSifted pass.trace
  /-- The hook and the deletions come once the strategy has selected objects. -/
  removed : Awaits Event.removal? HasSelected pass.trace
  /-- So an early error leaves everything as it was. -/
  early : ∀ e, pass.outcome = .error e → e.isEarly = true →
    removals pass.trace = [] ∧ e.deleted = []
  /-- Where the settings are at fault, nothing at all is asked. -/
  config : ∀ e, pass.outcome = .error (.config e) → inquiries pass.trace = []

/-- Every pass goes about in this order, whatever the store, the registry, the strategy, the hook and
the token do. -/
theorem orderly (p : Pruner σ) (store : Store σ) (scene : Scene σ) :
    p.Orderly ((p.prune store).run scene) := by
  have course := prune_course (p := p) store scene
  generalize (p.prune store).run scene = pass at course ⊢
  rcases course.continuation with
    ⟨e, after, trace, chosen, rfl⟩ | ⟨selection, middle, first, later, chosen, continued⟩
  · have choice := choice_of_run chosen
    constructor
    case listed => exact choice.listings_length
    case judged => exact choice.judged_awaits
    case asked => exact choice.asked_awaits
    case removed => exact .of_unseen choice.removals_eq
    case early => exact fun _ _ early => ⟨choice.removals_eq, PruneError.deleted_of_isEarly early⟩
    case config => exact fun _ stops => choice.inquiries_of_config stops
  · have choice := choice_of_run chosen
    -- After the selection nothing more is asked, and before it nothing is removed.
    have judged : judgements later = [] := by
      rw [← judgements_inquiries, continued.silent]
      rfl
    have asked : strategyAnswers later = [] := by
      rw [← strategyAnswers_inquiries, continued.silent]
      rfl
    constructor
    case listed =>
      rw [← listings_inquiries, continued.inquiries_eq, listings_inquiries]
      exact choice.listings_length
    case judged =>
      rw [continued.trace]
      exact .append choice.judged_awaits (.of_unseen judged)
    case asked =>
      rw [continued.trace]
      exact .append choice.asked_awaits (.of_unseen asked)
    case removed =>
      rw [continued.trace]
      refine .append (.of_unseen choice.removals_eq) ?_
      intro before _ _ _ _
      obtain ⟨candidates, selection, mem⟩ := choice.hasSelected
      exact ⟨candidates, selection, List.mem_append_left before mem⟩
    case early =>
      intro e stops early
      cases early.symm.trans (continued.not_early stops)
    case config =>
      intro e stops
      cases continued.not_early stops

end Pruner

end Retention
