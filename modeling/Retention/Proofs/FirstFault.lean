import Retention.Proofs.Survival

/-!
# The first fault

Filtering goes through what is listed once, and asks the registry about one object after the other.
`Pruner.Ends` says how it can end, told from the list and from the verdicts alone: it is through
with the objects found prunable, or it stops at the first fault.  `Pruner.candidates_end` says that
it ends so, and in no other way, and that filtering one list after another is filtering both.

What the registry says can depend on what it was asked before, so its verdicts are those of
`Registry.verdicts`, which asks about objects one after the other.  Where it judges every object by
itself, they are its verdicts on the objects.
-/

namespace Retention

variable {σ α β : Type}

/-! ## Parts one after the other -/

namespace Pass

theorem run_ext {pass other : Pass σ α} (same : ∀ scene, pass.run scene = other.run scene) :
    pass = other :=
  funext same

/-- A part that follows two others follows the second of them. -/
theorem andThen_assoc {γ : Type} (pass : Pass σ α) (next : α → Pass σ β) (last : β → Pass σ γ) :
    pass >>= next >>= last = pass >>= fun a => next a >>= last := by
  refine run_ext fun scene => ?_
  generalize first : pass.run scene = r
  obtain ⟨outcome, middle, trace⟩ := r
  cases outcome with
  | error e => rw [run_bind_of_error first, run_bind_of_error (run_bind_of_error first)]
  | ok a =>
    rw [run_bind_of_ok first]
    generalize second : (next a).run middle = r
    obtain ⟨outcome, after, later⟩ := r
    have both : (pass >>= next).run scene = _ := run_bind_of_ok first
    rw [second] at both
    cases outcome with
    | error e =>
      rw [run_bind_of_error both, run_bind_of_error second]
      rfl
    | ok b =>
      rw [run_bind_of_ok both, run_bind_of_ok second]
      simp only [Progress.after, List.append_assoc]

instance : LawfulMonad (Pass σ) := by
  refine .mk' _ ?_ (fun _ _ => rfl) andThen_assoc
  intro α pass
  refine run_ext fun scene => ?_
  generalize only : pass.run scene = r
  obtain ⟨outcome, after, trace⟩ := r
  cases outcome with
  | error e => exact run_bind_of_error only
  | ok a =>
    refine (run_bind_of_ok only).trans ?_
    simp [Progress.after, run, done]

end Pass

namespace Pruner

/-- To filter one list after another is to filter the first, and then the second unless the first
stops the pass. -/
theorem candidates_append (p : Pruner σ) (first second : List Object) :
    p.candidates (first ++ second) = (do
      let found ← p.candidates first
      let others ← p.candidates second
      .done (found ++ others)) := by
  induction first with
  | nil => exact (bind_pure _).symm
  | cons listed rest ih =>
    rw [List.cons_append, candidates, candidates]
    split
    next reported mistyped => rfl
    next o coerced =>
      rw [ih]
      simp only [bind_assoc]
      refine bind_congr fun keep => bind_congr fun found => ?_
      cases keep with
      | true => rfl
      | false => rfl

end Pruner

/-! ## Objects of another type -/

namespace Object

variable {t : TypeIdentifier} {o : Object}

/-- An object reports a type that is not `t`. -/
def Misreports (t : TypeIdentifier) (o : Object) : Prop :=
  ∃ types ∈ o.types, (types.apiVersion ≠ "" ∨ types.kind ≠ "") ∧
    ¬(types.apiVersion = t.apiVersion ∧ types.kind = t.kind)

instance (t : TypeIdentifier) (o : Object) : Decidable (o.Misreports t) :=
  inferInstanceAs (Decidable (∃ types ∈ o.types, (types.apiVersion ≠ "" ∨ types.kind ≠ "") ∧
    ¬(types.apiVersion = t.apiVersion ∧ types.kind = t.kind)))

/-- The object with the texts of a type, and with no members where its data is null. -/
def filled (t : TypeIdentifier) (o : Object) : Object :=
  { o with types := some (.ofType t), data := if o.data = .null then .object [] else o.data }

theorem misreports_iff {types : TypeMeta} (reported : o.types = some types) :
    o.Misreports t ↔ types.isBlank = false ∧ types ≠ .ofType t := by
  obtain ⟨apiVersion, kind⟩ := types
  simp only [Misreports, reported, Option.mem_some_iff, exists_eq_left', TypeMeta.isBlank,
    TypeMeta.ofType, ne_eq, TypeMeta.mk.injEq, ← Bool.not_eq_true, Bool.and_eq_true,
    String.isEmpty_iff, not_and_or]

/-- An object that misreports its type is refused with what it reports. -/
theorem coerce_of_misreports {types : TypeMeta} (reported : o.types = some types)
    (misreports : o.Misreports t) : o.coerce t = .error types := by
  obtain ⟨some, other⟩ := (misreports_iff reported).mp misreports
  simp only [coerce, reported, some, Bool.false_eq_true, if_false, if_neg other]

/-- Every other object is filled. -/
theorem coerce_of_reports (reports : ¬ o.Misreports t) : o.coerce t = .ok (o.filled t) := by
  cases reported : o.types with
  | none =>
    simp only [coerce, reported]
    rfl
  | some types =>
    rw [misreports_iff reported, not_and, not_not] at reports
    simp only [coerce, reported]
    split
    next blank => rfl
    next some =>
      have same := reports (Bool.not_eq_true _ ▸ some)
      rw [if_pos same, filled, same]

theorem misreports_of_coerce {types : TypeMeta} (refused : o.coerce t = .error types) :
    o.types = some types ∧ o.Misreports t := by
  by_cases misreports : o.Misreports t
  · obtain ⟨other, reported, -⟩ := id misreports
    rw [coerce_of_misreports reported misreports] at refused
    cases refused
    exact ⟨reported, misreports⟩
  · rw [coerce_of_reports misreports] at refused
    cases refused

theorem filled_of_coerce {x : Object} (coerced : o.coerce t = .ok x) :
    ¬ o.Misreports t ∧ x = o.filled t := by
  refine ⟨?_, eq_of_coerce coerced⟩
  rintro ⟨types, reported, bad⟩
  rw [coerce_of_misreports reported ⟨types, reported, bad⟩] at coerced
  cases coerced

end Object

/-! ## Questions one after the other -/

namespace Registry

variable (r : Registry σ)

/-- The state after the registry was asked about objects one after the other. -/
def stateAfter (asked : List Object) (s : σ) : σ :=
  asked.foldl (fun s o => ((r.judge o).run s).state) s

/-- Objects that the registry is asked about one after the other, with its verdicts. -/
def verdicts : List Object → σ → List (Object × Verdict)
  | [], _ => []
  | o :: rest, s =>
    (o, ((r.judge o).run s).answer) :: verdicts rest ((r.judge o).run s).state

theorem verdicts_append (first second : List Object) (s : σ) :
    r.verdicts (first ++ second) s =
      r.verdicts first s ++ r.verdicts second (r.stateAfter first s) := by
  induction first generalizing s with
  | nil => rfl
  | cons o rest ih =>
    rw [List.cons_append, verdicts, ih]
    rfl

theorem stateAfter_append (first second : List Object) (s : σ) :
    r.stateAfter (first ++ second) s = r.stateAfter second (r.stateAfter first s) :=
  List.foldl_append

end Registry

/-! ## Faults -/

namespace Pruner

/-- The objects that the registry is asked about when these are listed.  It is not asked about those
that misreport their type, nor about those that ask to be kept and are heard. -/
def consulted (p : Pruner σ) (listed : List Object) : List Object :=
  (listed.filter fun l => ¬ l.Misreports p.type ∧ p.preserves l = false).map (Object.filled p.type)

/-- The state after it was asked about them, one after the other. -/
def stateAfter (p : Pruner σ) (listed : List Object) (s : σ) : σ :=
  p.registry.stateAfter (p.consulted listed) s

/-- What it was asked and what it said. -/
def verdicts (p : Pruner σ) (listed : List Object) (s : σ) : List (Object × Verdict) :=
  p.registry.verdicts (p.consulted listed) s

/-- The objects that it found prunable. -/
def kept (p : Pruner σ) (listed : List Object) (s : σ) : List Object :=
  ((p.verdicts listed s).filter fun judged => judged.2 = .ok ()).map Prod.fst

/-- No listed object misreports its type, and no verdict but a veto goes against one. -/
structure Clean (p : Pruner σ) (listed : List Object) (s : σ) : Prop where
  typed : ∀ l ∈ listed, ¬ l.Misreports p.type
  decided : ∀ judged ∈ p.verdicts listed s, ∀ e, judged.2 = .error e → e.isUnprunable = true

/-- What is wrong with an object that is listed after others: it misreports its type, whether it asks
to be kept or not, or the registry cannot decide about it. -/
inductive FaultAfter (p : Pruner σ) (before : List Object) (s : σ) (l : Object) : PruneError → Prop
  | mistyped {types : TypeMeta} :
    l.types = some types → l.Misreports p.type →
    FaultAfter p before s l (.convert l.key p.type types)
  | undecided {e : PredicateError} :
    ¬ l.Misreports p.type → p.preserves l = false →
    ((p.registry.judge (l.filled p.type)).run (p.stateAfter before s)).answer = .error e →
    e.isUnprunable = false →
    FaultAfter p before s l (.predicate l.key e)

/-- The ends that filtering can come to, and the verdicts until then: it is through with the objects
found prunable, or it stops at the first fault. -/
inductive Ends (p : Pruner σ) (listed : List Object) (s : σ) :
    Except PruneError (List Object) → List (Object × Verdict) → Prop
  | through : p.Clean listed s → Ends p listed s (.ok (p.kept listed s)) (p.verdicts listed s)
  | stopped {before after : List Object} {l : Object} {e : PruneError} :
    listed = before ++ l :: after → p.Clean before s → p.FaultAfter before s l e →
    Ends p listed s (.error e) (p.verdicts (before ++ [l]) s)

variable {p : Pruner σ} {s : σ} {l : Object} {e : PruneError}

section Appending

variable (p s) (first second : List Object)

theorem consulted_append :
    p.consulted (first ++ second) = p.consulted first ++ p.consulted second := by
  rw [consulted, List.filter_append, List.map_append, consulted, consulted]

theorem stateAfter_append :
    p.stateAfter (first ++ second) s = p.stateAfter second (p.stateAfter first s) := by
  rw [stateAfter, consulted_append, Registry.stateAfter_append, stateAfter, stateAfter]

theorem verdicts_append :
    p.verdicts (first ++ second) s =
      p.verdicts first s ++ p.verdicts second (p.stateAfter first s) := by
  rw [verdicts, consulted_append, Registry.verdicts_append, verdicts, verdicts, stateAfter]

theorem kept_append :
    p.kept (first ++ second) s = p.kept first s ++ p.kept second (p.stateAfter first s) := by
  rw [kept, verdicts_append, List.filter_append, List.map_append, kept, kept]

theorem clean_append :
    p.Clean (first ++ second) s ↔ p.Clean first s ∧ p.Clean second (p.stateAfter first s) := by
  constructor
  · rintro ⟨typed, decided⟩
    rw [verdicts_append, List.forall_mem_append] at decided
    rw [List.forall_mem_append] at typed
    exact ⟨⟨typed.1, decided.1⟩, ⟨typed.2, decided.2⟩⟩
  · rintro ⟨⟨typed, decided⟩, ⟨typedLater, decidedLater⟩⟩
    refine ⟨List.forall_mem_append.mpr ⟨typed, typedLater⟩, ?_⟩
    rw [verdicts_append]
    exact List.forall_mem_append.mpr ⟨decided, decidedLater⟩

end Appending

theorem FaultAfter.of_append {first before : List Object}
    (fault : p.FaultAfter before (p.stateAfter first s) l e) :
    p.FaultAfter (first ++ before) s l e := by
  cases fault with
  | mistyped reported misreports => exact .mistyped reported misreports
  | undecided reports heard answer hard =>
    rw [← stateAfter_append] at answer
    exact .undecided reports heard answer hard

/-! ## The first fault is one -/

theorem consulted_singleton (reports : ¬ l.Misreports p.type) :
    p.consulted [l] = if p.preserves l then [] else [l.filled p.type] := by
  cases heard : p.preserves l <;> simp [consulted, reports, heard]

theorem verdicts_singleton (reports : ¬ l.Misreports p.type) :
    p.verdicts [l] s = if p.preserves l then []
      else [(l.filled p.type, ((p.registry.judge (l.filled p.type)).run s).answer)] := by
  rw [verdicts, consulted_singleton reports]
  split
  · rfl
  · rfl

theorem stateAfter_singleton (reports : ¬ l.Misreports p.type) :
    p.stateAfter [l] s = if p.preserves l then s
      else ((p.registry.judge (l.filled p.type)).run s).state := by
  rw [stateAfter, consulted_singleton reports]
  split
  · rfl
  · rfl

theorem FaultAfter.unique {before : List Object} {e' : PruneError}
    (fault : p.FaultAfter before s l e) (other : p.FaultAfter before s l e') : e = e' := by
  cases fault with
  | mistyped reported misreports =>
    cases other with
    | mistyped reported' _ =>
      cases reported.symm.trans reported'
      rfl
    | undecided reports _ _ _ => exact (reports misreports).elim
  | undecided reports _ answer _ =>
    cases other with
    | mistyped _ misreports => exact (reports misreports).elim
    | undecided _ _ answer' _ =>
      cases answer.symm.trans answer'
      rfl

/-- A list with a fault in it is not clean. -/
theorem FaultAfter.not_clean {before : List Object} (fault : p.FaultAfter before s l e)
    (after : List Object) : ¬ p.Clean (before ++ l :: after) s := by
  intro clean
  rw [List.append_cons, clean_append] at clean
  cases fault with
  | mistyped _ misreports =>
    exact clean.1.typed l (List.mem_append_right _ List.mem_cons_self) misreports
  | undecided reports heard answer hard =>
    have soft := ((clean_append p s before [l]).mp clean.1).2.decided
    rw [verdicts_singleton reports, heard] at soft
    have veto := soft _ List.mem_cons_self _ answer
    rw [hard] at veto
    cases veto

/-- Filtering can come to one end only. -/
theorem Ends.unique {listed : List Object} {outcome outcome' : Except PruneError (List Object)}
    {calls calls' : List (Object × Verdict)} (ends : p.Ends listed s outcome calls)
    (other : p.Ends listed s outcome' calls') : outcome = outcome' ∧ calls = calls' := by
  cases ends with
  | through clean =>
    cases other with
    | through _ => exact ⟨rfl, rfl⟩
    | @stopped before after _ _ whole _ fault =>
      subst whole
      exact (fault.not_clean after clean).elim
  | @stopped before after l e whole clean fault =>
    subst whole
    cases other with
    | through whole => exact (fault.not_clean after whole).elim
    | @stopped before' after' l' e' same clean' fault' =>
      -- Of two first faults in different places, one would lie in the clean part before the other.
      rcases List.append_eq_append_iff.mp same with ⟨rest, rfl, tail⟩ | ⟨rest, rfl, tail⟩
      · cases rest with
        | nil =>
          cases tail
          rw [List.append_nil] at fault' ⊢
          cases fault.unique fault'
          exact ⟨rfl, rfl⟩
        | cons x rest =>
          cases tail
          exact (fault.not_clean rest clean').elim
      · cases rest with
        | nil =>
          cases tail
          rw [List.append_nil] at fault ⊢
          cases fault.unique fault'
          exact ⟨rfl, rfl⟩
        | cons x rest =>
          cases tail
          exact (fault'.not_clean rest clean).elim

/-! ## Filtering comes to such an end -/

/-- The objects that a trace finds prunable are those with such a verdict. -/
theorem prunableObjects_eq_filter (trace : List Event) : prunableObjects trace =
    ((judgements trace).filter fun judged => judged.2 = .ok ()).map Prod.fst := by
  induction trace with
  | nil => rfl
  | cons event rest ih =>
    simp only [viewed_cons, ih, List.filter_append, List.map_append]
    congr 1
    cases event with
    | judged o verdict =>
      cases verdict with
      | ok _ => rfl
      | error _ => rfl
    | _ => rfl

section Stepping

variable {scene after : Scene σ} {trace : List Event}

/-- The registry is asked about an object of the right type alone as after no others. -/
theorem Consideration.verdicts_eq {r : Progress σ Bool} (reports : ¬ l.Misreports p.type)
    (consideration : p.Consideration (l.filled p.type) scene r) :
    judgements r.trace = p.verdicts [l] scene.state := by
  rw [verdicts_singleton reports, consideration.judgements_eq]
  rfl

theorem Consideration.state_eq {r : Progress σ Bool} (reports : ¬ l.Misreports p.type)
    (consideration : p.Consideration (l.filled p.type) scene r) :
    r.scene.state = p.stateAfter [l] scene.state := by
  rw [stateAfter_singleton reports]
  cases consideration with
  | preserved kept => exact (if_pos kept).symm
  | prunable heard called _ | vetoed heard called _ | failed heard called _ _ =>
    rw [← called]
    exact (if_neg (Bool.not_eq_true _ ▸ heard)).symm

/-- What becomes of an object that lets filtering go on. -/
theorem Consideration.clean {keep : Bool} (reports : ¬ l.Misreports p.type)
    (consideration : p.Consideration (l.filled p.type) scene ⟨.ok keep, after, trace⟩) :
    p.Clean [l] scene.state ∧ p.kept [l] scene.state = if keep then [l.filled p.type] else [] := by
  have asked : judgements trace = p.verdicts [l] scene.state := consideration.verdicts_eq reports
  refine ⟨⟨by simpa using reports, ?_⟩, ?_⟩
  · rw [← asked]
    rintro ⟨x, v⟩ mem e rfl
    exact consideration.soft mem
  · rw [kept, ← asked, ← prunableObjects_eq_filter, consideration.prunableObjects_eq]

theorem Consideration.faultAfter (reports : ¬ l.Misreports p.type)
    (consideration : p.Consideration (l.filled p.type) scene ⟨.error e, after, trace⟩) :
    p.FaultAfter [] scene.state l e := by
  cases consideration with
  | failed heard called answer hard => exact .undecided reports heard (called ▸ answer) hard

end Stepping

theorem Ends.cons {rest : List Object} {outcome : Except PruneError (List Object)}
    {calls : List (Object × Verdict)} (clean : p.Clean [l] s)
    (ends : p.Ends rest (p.stateAfter [l] s) outcome calls) :
    p.Ends (l :: rest) s (outcome.map (p.kept [l] s ++ ·)) (p.verdicts [l] s ++ calls) := by
  cases ends with
  | through cleanRest =>
    have both := (clean_append p s [l] rest).mpr ⟨clean, cleanRest⟩
    rw [← verdicts_append]
    simp only [Except.map, ← kept_append]
    exact .through both
  | @stopped before after x e whole cleanBefore fault =>
    subst whole
    rw [← verdicts_append]
    have both := (clean_append p s [l] before).mpr ⟨clean, cleanBefore⟩
    exact .stopped rfl both fault.of_append

theorem clean_nil (p : Pruner σ) (s : σ) : p.Clean [] s :=
  ⟨List.forall_mem_nil _, List.forall_mem_nil _⟩

/-- A fault of the first object listed stops filtering at once. -/
theorem FaultAfter.ends (fault : p.FaultAfter [] s l e) (rest : List Object) :
    p.Ends (l :: rest) s (.error e) (p.verdicts [l] s) :=
  .stopped rfl (clean_nil p s) fault

theorem verdicts_of_misreports (misreports : l.Misreports p.type) : p.verdicts [l] s = [] := by
  have none : p.consulted [l] = [] := by simp [consulted, misreports]
  rw [verdicts, none]
  rfl

theorem Filtering.ends {listed : List Object} {scene : Scene σ} {r : Progress σ (List Object)}
    (filtering : p.Filtering listed scene r) :
    p.Ends listed scene.state r.outcome (judgements r.trace) := by
  induction filtering with
  | finished => exact .through (clean_nil p _)
  | @mistyped listed rest scene _ refused =>
    obtain ⟨reported, misreports⟩ := Object.misreports_of_coerce refused
    have ends := FaultAfter.ends (.mistyped reported misreports) rest (s := scene.state)
    rw [verdicts_of_misreports misreports] at ends
    exact ends
  | @stopped listed _ rest scene _ e _ coerced consideration =>
    obtain ⟨reports, rfl⟩ := Object.filled_of_coerce coerced
    have ends := (consideration.faultAfter reports).ends rest
    rw [← consideration.verdicts_eq reports] at ends
    exact ends
  | @next listed _ rest scene after keep _ r coerced consideration _ ih =>
    obtain ⟨reports, rfl⟩ := Object.filled_of_coerce coerced
    obtain ⟨clean, found⟩ := consideration.clean reports
    have state : after.state = p.stateAfter [listed] scene.state := consideration.state_eq reports
    have asked := consideration.verdicts_eq reports
    rw [state] at ih
    have ends := ih.cons clean
    rw [← asked, ← viewed_append, found] at ends
    cases keep with
    | true => exact ends
    | false => exact ends

/-- Where the registry judges every object by itself, the objects found prunable are those of which
it says so. -/
theorem kept_of_judgesBy {verdict : Object → Verdict} (judges : p.JudgesBy verdict)
    (listed : List Object) (s : σ) :
    p.kept listed s = (p.consulted listed).filter fun o => verdict o = .ok () := by
  rw [kept, verdicts]
  induction p.consulted listed generalizing s with
  | nil => rfl
  | cons o rest ih =>
    simp only [Registry.verdicts, judges o s, List.filter_cons, apply_ite (List.map Prod.fst),
      List.map_cons, ih]

/-- Filtering comes to the end told by the list and the verdicts, and to no other.  A list may be
cut anywhere and filtered part by part. -/
theorem candidates_end (p : Pruner σ) :
    (∀ listed scene outcome calls,
      ((p.candidates listed).run scene).outcome = outcome ∧
          judgements ((p.candidates listed).run scene).trace = calls ↔
        p.Ends listed scene.state outcome calls) ∧
    (∀ verdict, p.JudgesBy verdict → ∀ listed s,
      p.kept listed s = (p.consulted listed).filter fun o => verdict o = .ok ()) ∧
    ∀ first second, p.candidates (first ++ second) = (do
      let found ← p.candidates first
      let others ← p.candidates second
      .done (found ++ others)) := by
  refine ⟨?_, fun _ judges => kept_of_judgesBy judges, p.candidates_append⟩
  intro listed scene outcome calls
  have ends := (candidates_filtering (p := p) listed scene).ends
  constructor
  · rintro ⟨rfl, rfl⟩
    exact ends
  · exact ends.unique

end Pruner

/-! ## A rehearsed list -/

namespace Rehearsed

/-- A pruner of pods that hears those that ask to be kept.  It must not remove the pod `b`, and
cannot tell about the pod `d`. -/
def siftingPruner : Pruner Stage :=
  { pruner with
    registry := Registry.empty.register .pod
      (Rule.predicate Stage.journal (.untyped (.these ["d"]) "no answer" (.these ["b"]) "pinned"))
    respectPreserve := true }

/-- Four pods, of which the first asks to be kept, and then a job. -/
def mixedList : List Object :=
  [asking (bare "a" 0), bare "b" 0, bare "c" 0, bare "d" 0,
    { bare "e" 0 with types := some (.ofType .job) }]

theorem judgesBy_siftingPruner :
    siftingPruner.JudgesBy fun o => ((siftingPruner.registry.judge o).run stage).answer := by
  intro o s
  change (((Registry.empty.register _ _).judge o).run s).answer =
    (((Registry.empty.register _ _).judge o).run stage).answer
  unfold Registry.judge
  cases o.type? with
  | none => rfl
  | some t =>
    simp only [Registry.find?, Registry.register, Registry.empty, List.filter_nil,
      List.lookup_cons, List.lookup_nil]
    cases t == .pod <;> rfl

end Rehearsed

namespace Pruner

open Rehearsed in
theorem candidates_end_rehearsed :
    (siftingPruner.JudgesBy fun o => ((siftingPruner.registry.judge o).run stage).answer) ∧
      siftingPruner.Ends mixedList stage (.error (.predicate ⟨none, "d"⟩ (.other "no answer")))
        [(pod "b" 0, .error (.unprunable ⟨none, "b"⟩ "pinned")), (pod "c" 0, .ok ()),
          (pod "d" 0, .error (.other "no answer"))] ∧
      siftingPruner.kept mixedList stage = [pod "c" 0] := by
  obtain ⟨ends, kept, -⟩ := candidates_end siftingPruner
  refine ⟨judgesBy_siftingPruner, (ends mixedList ⟨stage, .quiet⟩ _ _).mp ⟨rfl, rfl⟩, ?_⟩
  rw [kept _ judgesBy_siftingPruner]
  rfl

end Pruner

end Retention
