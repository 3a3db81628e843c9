import Retention.Proofs.Chronicle
import Retention.Proofs.Departures

/-!
# The succession of departures

A pass asks the store to delete the objects of its selection one after the other.  `Pruner.Departs`
says what comes after each departure: where its object is gone, the pass goes on with the next one,
and whatever else the store answers, the pass stops there.  Before an object departs, the token may
have fired or the hook may refuse it (`Pruner.Withheld`).

`Pruner.Counts` compares the departures with the end of the pass: they are in the order of the
selection, those that are gone are counted, the next object follows them, and the first other one
stops the pass.
-/

namespace Retention

open Cluster

variable {σ : Type}

/-- A departure as the trace of a pass has it. -/
def Cluster.Departure.toDeletion (t : TypeIdentifier) (d : Departure σ) : Deletion :=
  ⟨t, d.object, d.answer⟩

/-- The keys of the objects of departures. -/
def Cluster.Departure.keys (departures : List (Departure σ)) : List ResourceKey :=
  departures.map (·.object.key)

namespace Pruner

/-! ## What comes after a departure -/

/-- Why an object does not depart: the token has fired before the hook is asked, the hook refuses the
object, or the token has fired by the time the hook has passed it.  The objects with the keys in
`deleted` are gone. -/
inductive Withheld (p : Pruner σ) (o : Object) (deleted : List ResourceKey) (scene : Scene σ) :
    PruneError → Scene σ → Prop
  | fired :
    scene.token.hasFired = true → Withheld p o deleted scene (.cancelled deleted) scene.looked
  | refused {text : String} {after : Scene σ} {trace : List Event} :
    scene.token.hasFired = false → p.HookRun o scene.looked (.error text) after trace →
    Withheld p o deleted scene (.preDelete o.key deleted text) after
  | firedInHook {after : Scene σ} {trace : List Event} :
    scene.token.hasFired = false → p.HookRun o scene.looked (.ok ()) after trace →
    after.token.hasFired = true → Withheld p o deleted scene (.cancelled deleted) after

/-- An object departs once the hook has passed it and while the token is quiet, in the state that the
hook leaves. -/
inductive Departing (p : Pruner (State σ)) (service : Service σ) (scene : Scene (State σ))
    (d : Departure σ) : Scene (State σ) → Prop
  | mk {hooked : Scene (State σ)} {trace : List Event} :
    scene.token.hasFired = false → p.HookRun d.object scene.looked (.ok ()) hooked trace →
    hooked.token.hasFired = false → d.before = hooked.state → d.Settled service p.type →
    Departing p service scene d (hooked.awaited ((delete service p.type d.object).run d.before))

/-- The departures that a pass makes of a selection, after the objects with the keys in `deleted`,
with what they come to and the scene they leave. -/
inductive Departs (p : Pruner (State σ)) (service : Service σ) :
    List Object → List ResourceKey → Scene (State σ) → List (Departure σ) →
      Except PruneError Unit → Scene (State σ) → Prop
  | finished {deleted : List ResourceKey} {scene : Scene (State σ)} :
    Departs p service [] deleted scene [] (.ok ()) scene
  | withheld {o : Object} {rest : List Object} {deleted : List ResourceKey}
    {scene after : Scene (State σ)} {e : PruneError} :
    p.Withheld o deleted scene e after →
    Departs p service (o :: rest) deleted scene [] (.error e) after
  | failed {d : Departure σ} {rest : List Object} {deleted : List ResourceKey}
    {scene after : Scene (State σ)} {e : StoreError} :
    p.Departing service scene d after → d.answer = some (.error e) →
    Departs p service (d.object :: rest) deleted scene [d]
      (.error (.delete d.object.key deleted e)) after
  | givenUp {d : Departure σ} {rest : List Object} {deleted : List ResourceKey}
    {scene after : Scene (State σ)} :
    p.Departing service scene d after → d.answer = none →
    Departs p service (d.object :: rest) deleted scene [d] (.error (.cancelled deleted)) after
  /-- Where the object is gone, the pass goes on. -/
  | gone {d : Departure σ} {rest : List Object} {deleted : List ResourceKey}
    {scene middle after : Scene (State σ)} {later : List (Departure σ)}
    {outcome : Except PruneError Unit} :
    p.Departing service scene d middle → d.Gone service.decoding p.type →
    Departs p service rest (deleted ++ [d.object.key]) middle later outcome after →
    Departs p service (d.object :: rest) deleted scene (d :: later) outcome after

section Removals

variable {p : Pruner (State σ)} {service : Service σ} {limit : Nat} {scene after : Scene (State σ)}
  {o : Object} {deleted : List ResourceKey}

theorem Departing.settled {d : Departure σ} (departing : p.Departing service scene d after) :
    d.Settled service p.type := by
  cases departing with
  | mk _ _ _ _ settled => exact settled

theorem Departing.not_gone {d : Departure σ} (departing : p.Departing service scene d after)
    (other : d.answer ≠ some (.ok ())) : ¬d.Gone service.decoding p.type :=
  fun gone => other (departing.settled.ok_iff.mpr gone)

/-- The store is waited for in vain only where the token fires meanwhile. -/
theorem Departing.hasFired {d : Departure σ} (departing : p.Departing service scene d after)
    (unanswered : d.answer = none) : after.token.hasFired = true := by
  cases departing with
  | mk _ _ _ _ settled => exact hasFired_awaited (settled.answered.trans unanswered)

/-- In an attempt an object is withheld, or departs and is gone, or departs and stops the pass. -/
theorem Attempt.departing {r : Progress (State σ) Unit}
    (attempt : p.Attempt (store service limit) o deleted scene r) :
    (deletions r.trace = [] ∧ ∃ e, r.outcome = .error e ∧ p.Withheld o deleted scene e r.scene) ∨
      ∃ d : Departure σ, d.object = o ∧ p.Departing service scene d r.scene ∧
        deletions r.trace = [d.toDeletion p.type] ∧
        r.outcome = match d.answer with
          | none => .error (.cancelled deleted)
          | some (.error e) => .error (.delete o.key deleted e)
          | some (.ok ()) => .ok () := by
  cases attempt with
  | cancelledBefore fired => exact .inl ⟨rfl, _, rfl, .fired fired⟩
  | refused quiet hook => exact .inl ⟨by simp [hook.deletions_eq], _, rfl, .refused quiet hook⟩
  | cancelledAfterHook quiet hook fired =>
    exact .inl ⟨by simp [hook.deletions_eq], _, rfl, .firedInHook quiet hook fired⟩
  | @givenUp hooked trace _ quiet hook still called answer
  | @failed _ hooked trace _ quiet hook still called answer
  | @gone hooked trace _ quiet hook still called answer =>
    -- The store is asked in the state that the hook leaves, and there its answer is settled.
    obtain ⟨d, rfl, before, settled⟩ := exists_settled service p.type o hooked.state
    have own : d.answer = _ := settled.answered.symm
    rw [before] at own
    subst called
    have same := own.trans answer
    refine .inr ⟨d, rfl, ?_, ?_, ?_⟩
    · rw [← before]
      exact .mk quiet hook still before settled
    · simp [hook.deletions_eq, Departure.toDeletion, same]
    · rw [same]

/-- The deletions of a removal are departures, which follow one another as `Departs` says. -/
theorem Removal.exists_departs {selection : List Object} {r : Progress (State σ) Unit}
    (removal : p.Removal (store service limit) selection deleted scene r) :
    ∃ departures, p.Departs service selection deleted scene departures r.outcome r.scene ∧
      deletions r.trace = departures.map (Departure.toDeletion p.type) := by
  induction removal with
  | finished => exact ⟨[], .finished, rfl⟩
  | stopped attempt =>
    obtain ⟨none, _, same, withheld⟩ | ⟨d, rfl, departing, one, outcome⟩ := attempt.departing
    · cases same
      exact ⟨[], .withheld withheld, none⟩
    · refine ⟨[d], ?_, one⟩
      match answer : d.answer with
      | none =>
        rw [answer] at outcome
        cases outcome
        exact .givenUp departing answer
      | some (.error _) =>
        rw [answer] at outcome
        cases outcome
        exact .failed departing answer
      | some (.ok ()) =>
        rw [answer] at outcome
        cases outcome
  | next attempt _ ih =>
    obtain ⟨later, departs, others⟩ := ih
    obtain ⟨-, _, same, -⟩ | ⟨d, rfl, departing, one, outcome⟩ := attempt.departing
    · cases same
    · have answer : d.answer = some (.ok ()) := by
        match answer : d.answer with
        | none | some (.error _) =>
          rw [answer] at outcome
          cases outcome
        | some (.ok ()) => rfl
      refine ⟨d :: later, .gone departing (departing.settled.ok_iff.mp answer) departs, ?_⟩
      simp only [Progress.after, viewed_append, one, others, List.map_cons, List.singleton_append]

end Removals

/-! ## How a selection ends -/

/-- How the departures of a selection end: `gone` are those whose object is gone, and `left` is the
one after them, if there is one.  The objects with the keys in `earlier` were gone before. -/
inductive Concludes (p : Pruner (State σ)) (earlier : List ResourceKey) :
    List Object → List (Departure σ) → List (Departure σ) → Except PruneError Unit →
      Scene (State σ) → Prop
  | finished (gone : List (Departure σ)) (after : Scene (State σ)) :
    Concludes p earlier (gone.map Departure.object) gone [] (.ok ()) after
  | withheld (gone : List (Departure σ)) (o : Object) (rest : List Object)
    {scene after : Scene (State σ)} {e : PruneError} :
    p.Withheld o (earlier ++ Departure.keys gone) scene e after →
    Concludes p earlier (gone.map Departure.object ++ o :: rest) gone [] (.error e) after
  | failed (gone : List (Departure σ)) (d : Departure σ) (rest : List Object)
    (after : Scene (State σ)) {e : StoreError} :
    d.answer = some (.error e) →
    Concludes p earlier (gone.map Departure.object ++ d.object :: rest) gone [d]
      (.error (.delete d.object.key (earlier ++ Departure.keys gone) e)) after
  | givenUp (gone : List (Departure σ)) (d : Departure σ) (rest : List Object)
    {after : Scene (State σ)} :
    d.answer = none → after.token.hasFired = true →
    Concludes p earlier (gone.map Departure.object ++ d.object :: rest) gone [d]
      (.error (.cancelled (earlier ++ Departure.keys gone))) after

section Endings

variable {p : Pruner (State σ)} {service : Service σ} {earlier deleted : List ResourceKey}
  {selection : List Object} {departures gone left : List (Departure σ)}
  {outcome : Except PruneError Unit} {scene after : Scene (State σ)}

/-- A departure that is gone comes in front of those that are. -/
theorem Concludes.cons {d : Departure σ}
    (ends : p.Concludes (earlier ++ [d.object.key]) selection gone left outcome after) :
    p.Concludes earlier (d.object :: selection) (d :: gone) left outcome after := by
  have keys : earlier ++ [d.object.key] ++ Departure.keys gone =
      earlier ++ Departure.keys (d :: gone) := by simp [Departure.keys]
  cases ends with
  | finished => exact .finished (d :: gone) after
  | withheld _ o rest withheld =>
    rw [keys] at withheld
    exact .withheld (d :: gone) o rest withheld
  | failed _ x rest _ answer =>
    rw [keys]
    exact .failed (d :: gone) x rest after answer
  | givenUp _ x rest answer fired =>
    rw [keys]
    exact .givenUp (d :: gone) x rest answer fired

/-- Departures are gone up to the last one, which may be otherwise. -/
theorem Departs.exists_concludes
    (departs : p.Departs service selection earlier scene departures outcome after) :
    ∃ gone left, departures = gone ++ left ∧ (∀ d ∈ gone, d.Gone service.decoding p.type) ∧
      (∀ d ∈ left, ¬d.Gone service.decoding p.type) ∧
      p.Concludes earlier selection gone left outcome after := by
  have none (deleted : List ResourceKey) :
      deleted ++ Departure.keys ([] : List (Departure σ)) = deleted := List.append_nil deleted
  induction departs with
  | finished => exact ⟨[], [], rfl, List.forall_mem_nil _, List.forall_mem_nil _, .finished [] _⟩
  | @withheld o rest deleted scene after _ withheld =>
    rw [← none deleted] at withheld
    exact ⟨[], [], rfl, List.forall_mem_nil _, List.forall_mem_nil _, .withheld [] o rest withheld⟩
  | @failed d rest deleted scene after e departing answer =>
    have remains := departing.not_gone (by simp [answer])
    have ends : p.Concludes deleted _ [] [d] _ after := .failed [] d rest after answer
    rw [none deleted] at ends
    exact ⟨[], [d], rfl, List.forall_mem_nil _, List.forall_mem_singleton.mpr remains, ends⟩
  | @givenUp d rest deleted scene after departing answer =>
    have remains := departing.not_gone (by simp [answer])
    have ends : p.Concludes deleted _ [] [d] _ after :=
      .givenUp [] d rest answer (departing.hasFired answer)
    rw [none deleted] at ends
    exact ⟨[], [d], rfl, List.forall_mem_nil _, List.forall_mem_singleton.mpr remains, ends⟩
  | @gone d _ _ _ _ _ _ _ departing departed _ ih =>
    obtain ⟨gone, left, rfl, allGone, remains, ends⟩ := ih
    exact ⟨d :: gone, left, rfl, List.forall_mem_cons.mpr ⟨departed, allGone⟩, remains, ends.cons⟩

/-- Departures are made in the order of the selection. -/
theorem Concludes.inOrder (ends : p.Concludes earlier selection gone left outcome after) :
    (gone ++ left).map Departure.object <+: selection := by
  cases ends with
  | finished => simp
  | withheld _ o rest _ => simp
  | failed _ d rest _ _ | givenUp _ d rest _ _ => simp

/-- The error of a withheld object is not one of its deletion, and carries the keys of those that are
gone. -/
theorem Withheld.deleted_eq {p : Pruner σ} {scene after : Scene σ} {o : Object} {e : PruneError}
    (withheld : p.Withheld o deleted scene e after) :
    e.deleted = deleted ∧ ∀ resource keys source, e ≠ .delete resource keys source := by
  cases withheld with
  | fired | refused | firedInHook => exact ⟨rfl, nofun⟩

end Endings

/-! ## What is counted -/

/-- The objects that a pass sets out to delete: those it has selected, and none where it is dry. -/
def due (p : Pruner σ) : Except PruneError (List Object) → List Object
  | .ok selection => if p.dryRun then [] else selection
  | .error _ => []

/-- How departures count at the end of a pass that sets out to delete some objects: `gone` are those
whose object is gone, and `left` is the one after them, if there is one.  `after` is the scene that
the pass leaves. -/
structure Counts (p : Pruner (State σ)) (decoding : Decoding) (due : List Object)
    (gone left : List (Departure σ)) (outcome : Except PruneError (List Object))
    (after : Scene (State σ)) : Prop where
  departed : ∀ d ∈ gone, d.Gone decoding p.type
  remains : ∀ d ∈ left, ¬d.Gone decoding p.type
  last : left.length ≤ 1
  inOrder : (gone ++ left).map Departure.object <+: due
  /-- The first object departs, and after each one that is gone the next one does, unless it is
  withheld: the token has fired, or the hook refuses it. -/
  goesOn : ∀ k ≤ gone.length, ∀ o, due[k]? = some o →
    (∃ d, (gone ++ left)[k]? = some d ∧ d.object = o) ∨
      k = gone.length ∧ left = [] ∧
        ∃ scene e, outcome = .error e ∧ p.Withheld o (Departure.keys gone) scene e after
  /-- A pass that ends well returns the objects that are gone, unless it is dry. -/
  ok : ∀ selection, outcome = .ok selection →
    left = [] ∧ (p.dryRun = false → gone.map Departure.object = selection)
  /-- An error carries their keys. -/
  deleted : ∀ e, outcome = .error e → e.deleted = Departure.keys gone
  /-- A departure that fails stops the pass. -/
  stops : ∀ d ∈ left, ∀ source, d.answer = some (.error source) →
    outcome = .error (.delete d.object.key (Departure.keys gone) source)
  /-- One without an answer stops it, too, and then the token has fired. -/
  abandoned : ∀ d ∈ left, d.answer = none →
    outcome = .error (.cancelled (Departure.keys gone)) ∧ after.token.hasFired = true
  /-- Only a departure that fails stops the pass with its error. -/
  stopped : ∀ resource deleted source, outcome = .error (.delete resource deleted source) →
    ∃ d, left = [d] ∧ d.object.key = resource ∧ d.answer = some (.error source)

/-- The departures of a pass over a store. -/
structure Departed (p : Pruner (State σ)) (service : Service σ) (limit : Nat)
    (scene : Scene (State σ)) (departures : List (Departure σ)) : Prop where
  departs : ∀ selection middle first,
    (p.chosen (store service limit)).run scene = ⟨.ok selection, middle, first⟩ →
    p.dryRun = false → ∃ outcome,
      p.Departs service selection [] middle departures outcome
        ((p.prune (store service limit)).run scene).scene ∧
      ((p.prune (store service limit)).run scene).outcome = outcome.map fun _ => selection
  made : deletions ((p.prune (store service limit)).run scene).trace =
    departures.map (Departure.toDeletion p.type)
  counts : ∃ gone left, departures = gone ++ left ∧
    p.Counts service.decoding (p.due ((p.chosen (store service limit)).run scene).outcome) gone left
      ((p.prune (store service limit)).run scene).outcome
      ((p.prune (store service limit)).run scene).scene

section Counting

variable {p : Pruner (State σ)} {service : Service σ} {limit : Nat}
  {selection : List Object} {departures gone left : List (Departure σ)}
  {scene after : Scene (State σ)}

/-- A pass that is to delete nothing has no departures, and ends well or with an error that carries
nothing. -/
theorem Counts.nothing {outcome : Except PruneError (List Object)}
    (dry : ∀ selection, outcome = .ok selection → p.dryRun = true)
    (early : ∀ e, outcome = .error e → e.deleted = [] ∧
      ∀ resource deleted source, e ≠ .delete resource deleted source) :
    p.Counts service.decoding [] [] [] outcome after where
  departed := List.forall_mem_nil _
  remains := List.forall_mem_nil _
  last := Nat.zero_le 1
  inOrder := List.prefix_rfl
  goesOn _ _ _ due := by simp at due
  ok selection ok := by
    refine ⟨rfl, fun real => ?_⟩
    cases (dry selection ok).symm.trans real
  deleted e stops := (early e stops).1
  stops := List.forall_mem_nil _
  abandoned := List.forall_mem_nil _
  stopped _ _ _ stops := ((early _ stops).2 _ _ _ rfl).elim

/-- The object at a place up to which all are gone departs, or is withheld. -/
theorem Concludes.goesOn {outcome : Except PruneError Unit}
    (ends : p.Concludes [] selection gone left outcome after) {k : Nat} (reached : k ≤ gone.length)
    {o : Object} (due : selection[k]? = some o) :
    (∃ d, (gone ++ left)[k]? = some d ∧ d.object = o) ∨
      k = gone.length ∧ left = [] ∧
        ∃ scene e, outcome = .error e ∧ p.Withheld o (Departure.keys gone) scene e after := by
  by_cases within : k < (gone ++ left).length
  · left
    refine ⟨(gone ++ left)[k], List.getElem?_eq_getElem within, ?_⟩
    have own := List.prefix_iff_getElem?.mp ends.inOrder k (by rwa [List.length_map])
    rw [due, List.getElem_map, Option.some.injEq] at own
    exact own.symm
  · right
    rw [List.length_append] at within
    have none : left = [] := List.length_eq_zero_iff.mp (by omega)
    have place : k = gone.length := by omega
    subst none place
    refine ⟨rfl, rfl, ?_⟩
    cases ends with
    | finished => simp at due
    | withheld _ next rest withheld =>
      have same : next = o := by simpa using due
      subst same
      exact ⟨_, _, rfl, withheld⟩

/-- The departures of a selection count as they end. -/
theorem Concludes.counts {outcome : Except PruneError Unit}
    (ends : p.Concludes [] selection gone left outcome after)
    (departed : ∀ d ∈ gone, d.Gone service.decoding p.type)
    (remains : ∀ d ∈ left, ¬d.Gone service.decoding p.type) :
    p.Counts service.decoding selection gone left (outcome.map fun _ => selection) after where
  departed := departed
  remains := remains
  last := by cases ends <;> simp
  inOrder := ends.inOrder
  goesOn k reached o due := by
    rcases ends.goesOn reached due with next | ⟨place, none, scene, e, rfl, withheld⟩
    · exact .inl next
    · exact .inr ⟨place, none, scene, e, rfl, withheld⟩
  ok returned ok := by
    cases ends with
    | finished =>
      cases ok
      exact ⟨rfl, fun _ => rfl⟩
    | withheld | failed | givenUp => cases ok
  deleted e stops := by
    cases ends with
    | finished => cases stops
    | withheld _ _ _ withheld =>
      cases stops
      exact withheld.deleted_eq.1
    | failed | givenUp =>
      cases stops
      rfl
  stops := by
    cases ends with
    | finished | withheld => exact List.forall_mem_nil _
    | failed _ _ _ _ answer =>
      rw [List.forall_mem_singleton, answer]
      rintro _ ⟨⟩
      rfl
    | givenUp _ _ _ answer _ =>
      rw [List.forall_mem_singleton, answer]
      nofun
  abandoned := by
    cases ends with
    | finished | withheld => exact List.forall_mem_nil _
    | failed _ _ _ _ answer =>
      rw [List.forall_mem_singleton, answer]
      nofun
    | givenUp _ _ _ _ fired => exact List.forall_mem_singleton.mpr fun _ => ⟨rfl, fired⟩
  stopped resource deleted source stops := by
    cases ends with
    | finished => cases stops
    | withheld _ _ _ withheld =>
      cases stops
      exact (withheld.deleted_eq.2 _ _ _ rfl).elim
    | failed _ d _ _ answer =>
      cases stops
      exact ⟨d, rfl, rfl, answer⟩
    | givenUp => cases stops

/-! ## Passes -/

/-- A choice stops the pass with an early error, or because the token has fired. -/
theorem Choice.error_cases {store : Store (State σ)} {r : Progress (State σ) (List Object)}
    {e : PruneError} (choice : p.Choice store scene r) (stops : r.outcome = .error e) :
    e.isEarly = true ∨ e = .cancelled [] := by
  cases choice with
  | invalid _ =>
    cases stops
    exact .inl rfl
  | unlisted _ listing =>
    cases listing with
    | cancelledBefore _ | givenUp _ _ _ =>
      cases stops
      exact .inr rfl
    | failed _ _ _ =>
      cases stops
      exact .inl rfl
  | unfiltered _ _ filtering =>
    cases stops
    rcases filtering.error_cases rfl with ⟨_, _, mistyped⟩ | ⟨_, _, undecided⟩
    · subst mistyped
      exact .inl rfl
    · subst undecided
      exact .inl rfl
  | selected _ _ _ selecting =>
    cases selecting with
    | failed _ _ =>
      cases stops
      exact .inl rfl
    | answered _ _ => cases stops

/-- A pass with a selection makes the departures of its removal. -/
theorem exists_departed_of_removal {middle : Scene (State σ)} {first : List Event}
    {left : Progress (State σ) Unit} (real : p.dryRun = false)
    (chosen : (p.chosen (store service limit)).run scene = ⟨.ok selection, middle, first⟩)
    (removal : p.Removal (store service limit) selection [] middle left)
    (made : deletions ((p.prune (store service limit)).run scene).trace = deletions left.trace)
    (ends : ((p.prune (store service limit)).run scene).outcome =
      left.outcome.map fun _ => selection)
    (after : ((p.prune (store service limit)).run scene).scene = left.scene) :
    ∃ departures, p.Departed service limit scene departures := by
  obtain ⟨departures, departs, same⟩ := removal.exists_departs
  refine ⟨departures, ?_, made.trans same, ?_⟩
  · intro selection middle first again _
    cases chosen.symm.trans again
    rw [after]
    exact ⟨_, departs, ends⟩
  · obtain ⟨gone, left, rfl, departed, remains, endings⟩ := departs.exists_concludes
    have due : p.due (.ok selection) = selection := by rw [due, real, if_neg Bool.false_ne_true]
    refine ⟨gone, left, rfl, ?_⟩
    rw [chosen, due, ends, after]
    exact endings.counts departed remains

/-- Every pass over the store of a service makes departures, and counts them. -/
theorem exists_departed (p : Pruner (State σ)) (service : Service σ) (limit : Nat)
    (scene : Scene (State σ)) : ∃ departures, p.Departed service limit scene departures := by
  have course := prune_course (p := p) (store service limit) scene
  generalize pass : (p.prune (store service limit)).run scene = r at course
  cases course with
  | unchosen chosen =>
    have choice := choice_of_run chosen
    refine ⟨[], ?_, ?_, [], [], rfl, ?_⟩
    · intro selection middle first ok
      cases chosen.symm.trans ok
    · rw [pass]
      exact choice.deletions_eq
    · rw [pass, chosen]
      refine .nothing nofun ?_
      rintro e ⟨⟩
      rcases choice.error_cases rfl with early | rfl
      · refine ⟨PruneError.deleted_of_isEarly early, ?_⟩
        rintro _ _ _ rfl
        cases early
      · exact ⟨rfl, nofun⟩
  | @dry selection _ _ dry chosen =>
    have choice := choice_of_run chosen
    have none : deletions (p.dryReports selection) = [] :=
      viewed_dryReports p (fun _ => rfl) selection
    have due : p.due (.ok selection) = [] := by rw [due, dry, if_pos rfl]
    refine ⟨[], ?_, ?_, [], [], rfl, ?_⟩
    · intro _ _ _ _ real
      cases dry.symm.trans real
    · rw [pass]
      simp only [viewed_append, choice.deletions_eq, none, List.append_nil, List.map_nil]
    · rw [pass, chosen, due]
      exact .nothing (fun _ _ => dry) nofun
  | stopped real chosen removal =>
    refine exists_departed_of_removal real chosen removal ?_ ?_ ?_
    · rw [pass]
      simp only [viewed_append, (choice_of_run chosen).deletions_eq, List.nil_append]
    · rw [pass]
      rfl
    · rw [pass]
  | complete real chosen removal =>
    refine exists_departed_of_removal real chosen removal ?_ ?_ ?_
    · rw [pass]
      simp [(choice_of_run chosen).deletions_eq]
    · rw [pass]
      rfl
    · rw [pass]

end Counting

end Pruner

/-- Over every service, in every state, a deletion is settled as `Departure.Settled` says; and every
pass over a store of the service counts what is gone, goes on after it, and stops at the first other
failure. -/
theorem Cluster.gone_counted {σ : Type} (service : Cluster.Service σ) :
    (∀ (t : TypeIdentifier) (o : Object) (s : Cluster.State σ),
      ∃ d : Cluster.Departure σ, d.object = o ∧ d.before = s ∧ d.Settled service t) ∧
    ∀ (limit : Nat) (p : Pruner (Cluster.State σ)) (scene : Scene (Cluster.State σ)),
      ∃ departures, p.Departed service limit scene departures :=
  ⟨Cluster.exists_settled service, fun limit p scene => p.exists_departed service limit scene⟩

/-! ## A rehearsed pass -/

namespace Rehearsed

/-- A pruner of the objects of a namespace that were created before 1970. -/
def retiring : Pruner (State (Recording Responder)) :=
  { clearing "n" with strategy := .olderThan .epoch }

/-- An old object of the namespace. -/
def old (name : String) : Object :=
  ⟨none, { Metadata.blank with name := some name, ns := some "n", createdAt := Instant.of? (-1) 0 },
    .object []⟩

/-- A cluster that lists three old objects, deletes the first, has lost the second in the meantime, and
fails to delete the third. -/
def losingScene : Scene (State (Recording Responder)) :=
  ⟨fresh [makingKnown configMaps "ConfigMap", givingPage ⟨[old "a", old "b", old "c"], none⟩,
    .ok ⟨200, (Json.object []).write⟩, .ok ⟨404, ""⟩, .ok ⟨500, ""⟩], .quiet⟩

abbrev losingPass : Progress (State (Recording Responder)) (List Object) :=
  (retiring.prune (store Responder.service.recorded 1)).run losingScene

/-- The key of an object of the namespace. -/
def keyOf (name : String) : ResourceKey := ⟨some "n", name⟩

end Rehearsed

open Rehearsed in
theorem Cluster.gone_counted_rehearsed :
    losingPass.scene.state.dispatches.map
        (fun d => (d.request.method, d.request.path, d.answer.map (·.map Response.status))) =
      [(.get, "/api/v1", some (.ok 200)),
        (.get, "/api/v1/namespaces/n/configmaps", some (.ok 200)),
        (.delete, "/api/v1/namespaces/n/configmaps/a", some (.ok 200)),
        (.delete, "/api/v1/namespaces/n/configmaps/b", some (.ok 404)),
        (.delete, "/api/v1/namespaces/n/configmaps/c", some (.ok 500))] ∧
    losingPass.outcome = .error (.delete (keyOf "c") [keyOf "a", keyOf "b"]
      (.cluster (.api (Response.failure ⟨500, ""⟩)))) ∧
    ∃ gone d, retiring.Departed Responder.service.recorded 1 losingScene (gone ++ [d]) ∧
      Departure.keys gone = [keyOf "a", keyOf "b"] ∧
      (∀ x ∈ gone, x.Gone Decoding.json retiring.type) ∧ d.object.key = keyOf "c" := by
  -- What the pass comes to is found by running it once, and the rest follows from this.
  refine and_assoc.mp ((and_iff_left_of_imp fun run => ?_).mpr (by decide +kernel))
  obtain ⟨-, outcome⟩ := run
  obtain ⟨-, passes⟩ := Cluster.gone_counted Responder.service.recorded
  obtain ⟨departures, departed⟩ := passes 1 retiring losingScene
  obtain ⟨gone, left, rfl, counts⟩ := departed.counts
  obtain ⟨d, rfl, key, -⟩ := counts.stopped _ _ _ outcome
  exact ⟨gone, d, departed, (counts.deleted _ outcome).symm, counts.departed, key⟩

end Retention
