import Retention.Proofs.Choice
import Retention.Proofs.Selection

/-!
# The candidates among listed objects

A listed object becomes a candidate in three steps: it is coerced to the type of the pruner, it must
not ask to be kept, and the registry must find it prunable.  `Pruner.eligible?` has the first two,
which need no call, so the candidates of any filtering are some of the eligible objects, in their
order (`Filtering.prunableObjects_sublist`).

Where the registry judges every object by itself, whatever the state, the candidates are a function
of what is listed, `Pruner.survivors`, and so is the question whether filtering comes to its end.
-/

namespace Retention

variable {σ : Type}

/-! ## Coercion -/

/-- A coerced object is the listed one with the texts of the type, and with data. -/
theorem Object.eq_of_coerce {t : TypeIdentifier} {listed o : Object}
    (coerced : listed.coerce t = .ok o) :
    o = { listed with
      types := some (.ofType t)
      data := if listed.data = .null then .object [] else listed.data } := by
  unfold coerce at coerced
  cases reported : listed.types with
  | none =>
    simp only [reported] at coerced
    cases coerced
    rfl
  | some types =>
    simp only [reported] at coerced
    by_cases blank : types.isBlank = true
    · rw [if_pos blank] at coerced
      cases coerced
      rfl
    · rw [if_neg blank] at coerced
      by_cases same : types = .ofType t
      · rw [if_pos same, same] at coerced
        cases coerced
        rfl
      · rw [if_neg same] at coerced
        cases coerced

/-- Coercion leaves the metadata alone. -/
theorem Object.metadata_of_coerce {t : TypeIdentifier} {listed o : Object}
    (coerced : listed.coerce t = .ok o) : o.metadata = listed.metadata := by
  rw [eq_of_coerce coerced]

theorem Object.key_of_coerce {t : TypeIdentifier} {listed o : Object}
    (coerced : listed.coerce t = .ok o) : o.key = listed.key := by
  rw [key, key, metadata_of_coerce coerced]

namespace Pruner

variable {p : Pruner σ} {listed o : Object}

/-- The object that the registry is asked about when another is listed.  There is none where the
listed one reports another type, or asks to be kept and is heard. -/
def eligible? (p : Pruner σ) (listed : Object) : Option Object :=
  match listed.coerce p.type with
  | .ok o => if p.preserves o then none else some o
  | .error _ => none

theorem eligible?_of_coerce (coerced : listed.coerce p.type = .ok o) :
    p.eligible? listed = if p.preserves o then none else some o := by
  rw [eligible?, coerced]

theorem eligible?_eq_some :
    p.eligible? listed = some o ↔ listed.coerce p.type = .ok o ∧ p.preserves o = false := by
  unfold eligible?
  constructor
  · intro eligible
    split at eligible
    next x coerced =>
      split at eligible
      · cases eligible
      next heard =>
        cases eligible
        exact ⟨coerced, Bool.eq_false_iff.mpr heard⟩
    · cases eligible
  · rintro ⟨coerced, heard⟩
    simp [coerced, heard]

theorem key_of_eligible? (eligible : p.eligible? listed = some o) : o.key = listed.key :=
  Object.key_of_coerce (eligible?_eq_some.mp eligible).1

/-- The eligible objects have the keys of listed ones, in their order. -/
theorem keys_eligible?_sublist (listed : List Object) :
    ((listed.filterMap p.eligible?).map Object.key).Sublist (listed.map Object.key) := by
  induction listed with
  | nil => exact List.Sublist.slnil
  | cons first rest ih =>
    rw [List.filterMap_cons]
    split
    next none => exact ih.cons first.key
    next o eligible =>
      rw [List.map_cons, List.map_cons, key_of_eligible? eligible]
      exact ih.cons_cons first.key

/-! ## What filtering finds -/

section Finding

variable {scene after : Scene σ} {keep : Bool} {trace : List Event}

/-- An object is found prunable exactly where it becomes a candidate. -/
theorem Consideration.prunableObjects_eq
    (consideration : p.Consideration o scene ⟨.ok keep, after, trace⟩) :
    prunableObjects trace = if keep then [o] else [] := by
  cases consideration with
  | preserved _ => rfl
  | prunable _ _ _ => simp
  | vetoed _ _ _ => simp

theorem Consideration.prunableObjects_of_error {e : PruneError}
    (consideration : p.Consideration o scene ⟨.error e, after, trace⟩) :
    prunableObjects trace = [] := by
  cases consideration with
  | failed _ _ _ _ => simp

/-- The registry is asked about an object where it does not ask to be kept, or is not heard, and
about no other. -/
theorem Consideration.judgements_eq {r : Progress σ Bool}
    (consideration : p.Consideration o scene r) :
    judgements r.trace =
      if p.preserves o then [] else [(o, ((p.registry.judge o).run scene.state).answer)] := by
  cases consideration with
  | preserved kept => simp [kept]
  | prunable heard called answer | vetoed heard called answer | failed heard called answer _ =>
    simp [heard, called, answer]

theorem Consideration.judged_eq {r : Progress σ Bool} (consideration : p.Consideration o scene r) :
    (judgements r.trace).map Prod.fst = if p.preserves o then [] else [o] := by
  rw [consideration.judgements_eq]
  split <;> rfl

theorem Consideration.judged_mem {x : Object} {v : Verdict} {r : Progress σ Bool}
    (consideration : p.Consideration o scene r) (judged : (x, v) ∈ judgements r.trace) :
    x = o ∧ v = ((p.registry.judge o).run scene.state).answer := by
  rw [consideration.judgements_eq] at judged
  split at judged
  · cases judged
  · cases List.mem_singleton.mp judged
    exact ⟨rfl, rfl⟩

/-- A verdict that lets the pass go on is no error, or a veto. -/
theorem Consideration.soft (consideration : p.Consideration o scene ⟨.ok keep, after, trace⟩)
    {x : Object} {e : PredicateError} (judged : (x, .error e) ∈ judgements trace) :
    e.isUnprunable = true := by
  obtain ⟨-, found⟩ := consideration.judged_mem judged
  cases consideration with
  | preserved _ => simp at judged
  | prunable _ called answer =>
    rw [called, answer] at found
    cases found
  | vetoed _ called answer =>
    rw [called, answer] at found
    cases found
    rfl

/-- A candidate does not ask to be kept, or is not heard. -/
theorem Consideration.heard (consideration : p.Consideration o scene ⟨.ok true, after, trace⟩) :
    p.preserves o = false := by
  cases consideration with
  | prunable heard _ _ => exact heard

/-- The objects that are found prunable are eligible, and none is found more often than it is
there. -/
theorem Filtering.prunableObjects_sublist {listed : List Object} {r : Progress σ (List Object)}
    (filtering : p.Filtering listed scene r) :
    (prunableObjects r.trace).Sublist (listed.filterMap p.eligible?) := by
  induction filtering with
  | finished => exact List.Sublist.slnil
  | mistyped _ => exact List.nil_sublist _
  | stopped _ consideration =>
    rw [consideration.prunableObjects_of_error]
    exact List.nil_sublist _
  | @next first o rest _ _ keep _ _ coerced consideration _ ih =>
    have found := consideration.prunableObjects_eq
    simp only [viewed_append, found]
    -- A candidate is eligible; an eligible object that is vetoed is passed over.
    rw [List.filterMap_cons, eligible?_of_coerce coerced]
    cases keep with
    | true =>
      rw [consideration.heard]
      exact ih.cons_cons o
    | false =>
      cases p.preserves o with
      | true => exact ih
      | false => exact ih.cons o

/-- A verdict in a trace is the registry's on a coerced object. -/
theorem Filtering.judged_mem {listed : List Object} {v : Verdict} {r : Progress σ (List Object)}
    (filtering : p.Filtering listed scene r) (judged : (o, v) ∈ judgements r.trace) :
    ∃ l ∈ listed, l.coerce p.type = .ok o ∧ ∃ s, v = ((p.registry.judge o).run s).answer := by
  induction filtering with
  | finished => simp at judged
  | mistyped _ => simp at judged
  | @stopped first x _ _ _ _ _ coerced consideration =>
    obtain ⟨rfl, answered⟩ := consideration.judged_mem judged
    exact ⟨first, List.mem_cons_self, coerced, _, answered⟩
  | @next first x _ _ _ _ _ _ coerced consideration _ ih =>
    simp only [viewed_append, List.mem_append] at judged
    rcases judged with now | later
    · obtain ⟨rfl, answered⟩ := consideration.judged_mem now
      exact ⟨first, List.mem_cons_self, coerced, _, answered⟩
    · obtain ⟨l, mem, coerced, answered⟩ := ih later
      exact ⟨l, List.mem_cons_of_mem _ mem, coerced, answered⟩

/-- Filtering that comes to its end returns the objects that were found prunable. -/
theorem Filtering.outcome_ok {listed candidates : List Object} {r : Progress σ (List Object)}
    (filtering : p.Filtering listed scene r) (ok : r.outcome = .ok candidates) :
    candidates = prunableObjects r.trace := by
  induction filtering generalizing candidates with
  | finished => cases ok; rfl
  | mistyped _ => cases ok
  | stopped _ _ => cases ok
  | @next _ _ _ _ _ keep _ r _ consideration _ ih =>
    have found := consideration.prunableObjects_eq
    simp only [viewed_append, found]
    cases ending : r.outcome with
    | error e =>
      simp only [ending] at ok
      cases ok
    | ok others =>
      simp only [ending] at ok
      have rest := ih ending
      cases ok
      cases keep with
      | true => exact congrArg (List.cons _) rest
      | false => exact rest

/-- Filtering that comes to its end has gone through all listed objects: they coerce, and the registry
was asked about the eligible ones, in their order and with no answer that stops a pass. -/
theorem Filtering.sifted {listed candidates : List Object} {r : Progress σ (List Object)}
    (filtering : p.Filtering listed scene r) (ok : r.outcome = .ok candidates) :
    (∀ l ∈ listed, ∃ o, l.coerce p.type = .ok o) ∧
      (judgements r.trace).map Prod.fst = listed.filterMap p.eligible? ∧
      ∀ o e, (o, .error e) ∈ judgements r.trace → e.isUnprunable = true := by
  induction filtering generalizing candidates with
  | finished => simp
  | mistyped _ => cases ok
  | stopped _ _ => cases ok
  | @next first o rest _ _ _ _ r coerced consideration _ ih =>
    cases ending : r.outcome with
    | error e =>
      rw [ending] at ok
      cases ok
    | ok others =>
      obtain ⟨typed, judged, soft⟩ := ih ending
      refine ⟨?_, ?_, ?_⟩
      · intro l mem
        rcases List.mem_cons.mp mem with rfl | later
        · exact ⟨o, coerced⟩
        · exact typed l later
      · have asked := consideration.judged_eq
        simp only [viewed_append, List.map_append, asked, judged, List.filterMap_cons,
          eligible?_of_coerce coerced]
        cases p.preserves o <;> rfl
      · intro x e mem
        simp only [viewed_append, List.mem_append] at mem
        rcases mem with now | later
        · exact consideration.soft now
        · exact soft x e later

end Finding

/-! ## A registry that judges each object by itself -/

/-- The registry gives every object its verdict, whatever the state. -/
def JudgesBy (p : Pruner σ) (verdict : Object → Verdict) : Prop :=
  ∀ o s, ((p.registry.judge o).run s).answer = verdict o

/-- In a trace, the registry gave every object it was asked about its verdict. -/
def JudgedBy (verdict : Object → Verdict) (trace : List Event) : Prop :=
  ∀ o answer, .judged o answer ∈ trace → answer = verdict o

/-- No verdict on an object stops a pass. -/
def Decided (p : Pruner σ) (verdict : Object → Verdict) (o : Object) : Prop :=
  p.preserves o = false → ∀ e, verdict o = .error e → e.isUnprunable = true

/-- A listed object stops no pass: it coerces, and its verdict is none that does. -/
def Faultless (p : Pruner σ) (verdict : Object → Verdict) (listed : Object) : Prop :=
  ∃ o, listed.coerce p.type = .ok o ∧ p.Decided verdict o

/-- The candidates among listed objects. -/
def survivors (p : Pruner σ) (verdict : Object → Verdict) (listed : List Object) : List Object :=
  (listed.filterMap p.eligible?).filter fun o => verdict o = .ok ()

section Judging

variable {verdict : Object → Verdict}

theorem survivors_cons (rest : List Object) (coerced : listed.coerce p.type = .ok o) :
    p.survivors verdict (listed :: rest) =
      if !p.preserves o && verdict o = .ok () then o :: p.survivors verdict rest
      else p.survivors verdict rest := by
  rw [survivors, List.filterMap_cons, eligible?_of_coerce coerced]
  cases kept : p.preserves o with
  | true => simp [survivors]
  | false =>
    simp only [Bool.false_eq_true, if_false, List.filter_cons]
    rfl

/-- Of the listed objects without some keys, the survivors without these keys survive. -/
theorem survivors_withoutKeys (keys : List ResourceKey) (listed : List Object) :
    p.survivors verdict (withoutKeys keys listed) =
      withoutKeys keys (p.survivors verdict listed) := by
  have same : (withoutKeys keys listed).filterMap p.eligible? =
      withoutKeys keys (listed.filterMap p.eligible?) := by
    rw [withoutKeys, withoutKeys, List.filterMap_filter, List.filter_filterMap]
    congr 1
    funext listed
    cases eligible : p.eligible? listed with
    | none => simp
    | some o => simp [Option.filter, key_of_eligible? eligible]
  rw [survivors, same, survivors, withoutKeys, withoutKeys, List.filter_comm]

/-- Where no two listed objects share a key, no two survivors do. -/
theorem survivors_distinct {listed : List Object} (distinct : (listed.map Object.key).Nodup) :
    ((p.survivors verdict listed).map Object.key).Nodup := by
  have kept : (p.survivors verdict listed).Sublist (listed.filterMap p.eligible?) :=
    List.filter_sublist
  exact distinct.sublist ((kept.map Object.key).trans (keys_eligible?_sublist listed))

/-- In what order objects are listed makes no difference to which of them survive. -/
theorem survivors_perm {listed others : List Object} (perm : listed.Perm others) :
    (p.survivors verdict listed).Perm (p.survivors verdict others) :=
  (perm.filterMap _).filter _

theorem JudgedBy.append {first second : List Event} :
    JudgedBy verdict (first ++ second) ↔ JudgedBy verdict first ∧ JudgedBy verdict second := by
  simp only [JudgedBy, List.mem_append, or_imp, forall_and]

variable {scene : Scene σ}

theorem Consideration.outcome_of_judgedBy {r : Progress σ Bool}
    (consideration : p.Consideration o scene r) (judged : JudgedBy verdict r.trace)
    (decided : p.Decided verdict o) :
    r.outcome = .ok (!p.preserves o && verdict o = .ok ()) := by
  cases consideration with
  | preserved kept => simp [kept]
  | prunable heard _ _ =>
    have found := judged o _ List.mem_cons_self
    simp [heard, ← found]
  | vetoed heard _ _ =>
    have found := judged o _ List.mem_cons_self
    simp [heard, ← found]
  | failed heard _ _ hard =>
    have found := judged o _ List.mem_cons_self
    have soft := decided heard _ found.symm
    rw [hard] at soft
    cases soft

/-- Filtering faultless objects comes to its end with the survivors. -/
theorem Filtering.outcome_of_judgedBy {listed : List Object} {r : Progress σ (List Object)}
    (filtering : p.Filtering listed scene r) (judged : JudgedBy verdict r.trace)
    (faultless : ∀ l ∈ listed, p.Faultless verdict l) :
    r.outcome = .ok (p.survivors verdict listed) := by
  induction filtering with
  | finished => rfl
  | @mistyped first _ _ _ refused =>
    obtain ⟨_, coerced, _⟩ := faultless first List.mem_cons_self
    rw [refused] at coerced
    cases coerced
  | @stopped first o _ _ _ _ _ coerced consideration =>
    obtain ⟨x, same, decided⟩ := faultless first List.mem_cons_self
    rw [coerced] at same
    cases same
    cases consideration.outcome_of_judgedBy judged decided
  | @next first o rest _ _ keep _ r coerced consideration _ ih =>
    obtain ⟨x, same, decided⟩ := faultless first List.mem_cons_self
    rw [coerced] at same
    cases same
    obtain ⟨now, later⟩ := JudgedBy.append.mp judged
    have kept := consideration.outcome_of_judgedBy now decided
    cases kept
    rw [ih later fun l mem => faultless l (List.mem_cons_of_mem first mem),
      survivors_cons rest coerced]
    rfl

variable (judges : p.JudgesBy verdict)

include judges

theorem Filtering.judgedBy {listed : List Object} {r : Progress σ (List Object)}
    (filtering : p.Filtering listed scene r) : JudgedBy verdict r.trace := by
  intro o answer mem
  obtain ⟨_, _, _, s, rfl⟩ := filtering.judged_mem (mem_judgements.mpr mem)
  exact judges o s

theorem Consideration.decided {keep : Bool} {after : Scene σ} {trace : List Event}
    (consideration : p.Consideration o scene ⟨.ok keep, after, trace⟩) :
    p.Decided verdict o := by
  intro heard e stops
  have found := judges o scene.state
  cases consideration with
  | preserved kept =>
    rw [heard] at kept
    cases kept
  | prunable _ called answer =>
    rw [called, answer, stops] at found
    cases found
  | vetoed _ called answer =>
    rw [called, answer, stops] at found
    cases found
    rfl

theorem Filtering.outcome_of_faultless {listed : List Object} {r : Progress σ (List Object)}
    (filtering : p.Filtering listed scene r)
    (faultless : ∀ l ∈ listed, p.Faultless verdict l) :
    r.outcome = .ok (p.survivors verdict listed) :=
  filtering.outcome_of_judgedBy (filtering.judgedBy judges) faultless

/-- Only faultless objects let filtering come to its end. -/
theorem Filtering.faultless {listed candidates : List Object} {r : Progress σ (List Object)}
    (filtering : p.Filtering listed scene r) (ok : r.outcome = .ok candidates) :
    ∀ l ∈ listed, p.Faultless verdict l := by
  induction filtering generalizing candidates with
  | finished => simp
  | mistyped _ => cases ok
  | stopped _ _ => cases ok
  | @next first o rest _ _ _ _ r coerced consideration _ ih =>
    cases ending : r.outcome with
    | error e =>
      rw [ending] at ok
      cases ok
    | ok others =>
      intro l mem
      rcases List.mem_cons.mp mem with rfl | later
      · exact ⟨o, coerced, consideration.decided judges⟩
      · exact ih ending l later

end Judging

end Pruner

end Retention
