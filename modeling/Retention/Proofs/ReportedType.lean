import Retention.Proofs.Verdicts

/-!
# The type that a coerced object reports

A coerced object carries the group and the version of its type as one text, and the registry cuts
this text at its first slash.  The type that is read this way is `TypeIdentifier.readBack`.  It is the
type of the pruner exactly where no other slash comes first (`TypeIdentifier.readBack_eq_iff`); where
one does, the registry looks for the predicate of another type.
-/

namespace Retention

variable {σ : Type}

/-! ## Writing a type and reading it back -/

namespace TypeIdentifier

variable {t : TypeIdentifier}

/-- The type that is read off objects with the texts of a type. -/
def readBack (t : TypeIdentifier) : TypeIdentifier :=
  let parts := splitApiVersion t.apiVersion
  ⟨parts.1, parts.2, t.kind⟩

/-- No slash comes before the end of the group, and none at all in a version without a group. -/
def IsSeparable (t : TypeIdentifier) : Prop :=
  if t.group = "" then '/' ∉ t.version.toList else '/' ∉ t.group.toList

theorem apiVersion_of_core (core : t.group = "") : t.apiVersion = t.version := by
  simp [apiVersion, Text.qualified, core]

theorem toList_apiVersion (grouped : t.group ≠ "") :
    t.apiVersion.toList = t.group.toList ++ '/' :: t.version.toList := by
  simp [apiVersion, Text.qualified, grouped]

theorem apiVersion_ne_empty (version : t.version ≠ "") : t.apiVersion ≠ "" := by
  by_cases core : t.group = ""
  · rw [apiVersion_of_core core]
    exact version
  · intro empty
    have slash := toList_apiVersion core
    simp [empty] at slash

theorem splitApiVersion_eq_iff_of_core (core : t.group = "") :
    splitApiVersion t.apiVersion = (t.group, t.version) ↔ '/' ∉ t.version.toList := by
  rw [apiVersion_of_core core, core, ← Text.cutAt?_eq_none_iff]
  unfold splitApiVersion
  cases cut : Text.cutAt? '/' t.version.toList with
  | none => simp
  | some parts =>
    obtain ⟨before, rest⟩ := parts
    have whole := (Text.cutAt?_eq_some_iff.mp cut).1
    -- What comes after the slash is shorter than the version, so it is not the version.
    have shorter : String.ofList rest ≠ t.version := by
      intro same
      have lengths := congrArg List.length whole
      rw [← same, String.toList_ofList, List.length_append, List.length_cons] at lengths
      omega
    simp [shorter]

theorem splitApiVersion_eq_iff_of_grouped (grouped : t.group ≠ "") :
    splitApiVersion t.apiVersion = (t.group, t.version) ↔ '/' ∉ t.group.toList := by
  unfold splitApiVersion
  rw [toList_apiVersion grouped]
  constructor
  · intro same
    cases cut : Text.cutAt? '/' (t.group.toList ++ '/' :: t.version.toList) with
    | none =>
      rw [Text.cutAt?_eq_none_iff] at cut
      simp at cut
    | some parts =>
      rw [cut] at same
      have group : String.ofList parts.1 = t.group := congrArg Prod.fst same
      rw [← group, String.toList_ofList]
      exact (Text.cutAt?_eq_some_iff.mp cut).2
  · intro unslashed
    have cut : Text.cutAt? '/' (t.group.toList ++ '/' :: t.version.toList) =
        some (t.group.toList, t.version.toList) :=
      Text.cutAt?_eq_some_iff.mpr ⟨rfl, unslashed⟩
    rw [cut]
    simp

/-- A type is read back exactly where no slash is taken for the one between group and version. -/
theorem readBack_eq_iff : t.readBack = t ↔ t.IsSeparable := by
  have same : t.readBack = t ↔ splitApiVersion t.apiVersion = (t.group, t.version) := by
    obtain ⟨group, version, kind⟩ := t
    simp [readBack, Prod.ext_iff]
  unfold IsSeparable
  split
  next core => exact same.trans (splitApiVersion_eq_iff_of_core core)
  next grouped => exact same.trans (splitApiVersion_eq_iff_of_grouped grouped)

end TypeIdentifier

/-- A coerced object reports the type that is read back. -/
theorem Object.type?_of_coerce {t : TypeIdentifier} {listed o : Object} (version : t.version ≠ "")
    (kind : t.kind ≠ "") (coerced : listed.coerce t = .ok o) : o.type? = some t.readBack := by
  have texts : o.types = some (.ofType t) := by
    rw [eq_of_coerce coerced]
  have given := TypeIdentifier.apiVersion_ne_empty version
  simp [type?, texts, TypeMeta.ofType, given, kind, TypeIdentifier.readBack]

theorem checkTarget_ok {type : TypeIdentifier} {ns : Option String} {labels : Labels}
    (valid : checkTarget type ns labels = .ok ()) : type.version ≠ "" ∧ type.kind ≠ "" := by
  unfold checkTarget at valid
  by_cases version : type.version.isEmpty = true
  · rw [if_pos version] at valid
    cases valid
  · rw [if_neg version] at valid
    by_cases kind : type.kind.isEmpty = true
    · rw [if_pos kind] at valid
      cases valid
    · rw [String.isEmpty_iff] at version kind
      exact ⟨version, kind⟩

theorem Registry.judge_of_find? {r : Registry σ} {t : TypeIdentifier} {o : Object}
    {predicate : Predicate σ} (reported : o.type? = some t) (found : r.find? t = some predicate) :
    r.judge o = predicate o := by
  simp [judge, reported, found]

theorem Registry.judge_of_not_contains {r : Registry σ} {t : TypeIdentifier} {o : Object}
    (reported : o.type? = some t) (lacks : r.contains t = false) :
    r.judge o = .answer (.ok ()) := by
  have found : r.find? t = none := by simpa [contains] using lacks
  simp [judge, reported, found]

namespace Pruner

variable {p : Pruner σ}

/-! ## The predicate of the pruner's own type -/

/-- The registry asks the predicate of the type `t` about an object, and lets it pass where there is
none. -/
structure Consults (p : Pruner σ) (t : TypeIdentifier) (o : Object) : Prop where
  reported : o.type? = some t
  asked : ∀ predicate, p.registry.find? t = some predicate → p.registry.judge o = predicate o
  unchecked : p.registry.contains t = false → p.registry.judge o = .answer (.ok ())

theorem Consults.of_type? {t : TypeIdentifier} {o : Object} (reported : o.type? = some t) :
    p.Consults t o :=
  ⟨reported, fun _ => Registry.judge_of_find? reported, Registry.judge_of_not_contains reported⟩

/-- A pruner with valid settings asks, about every object that it coerces, the predicate of the type
that is read back.  This is its own type exactly where that is separable. -/
theorem consults_readBack (p : Pruner σ) (valid : p.check = .ok ()) :
    (p.type.readBack = p.type ↔ p.type.IsSeparable) ∧
      (∀ l o : Object, l.coerce p.type = .ok o → p.Consults p.type.readBack o) ∧
      ∀ store scene o v, .judged o v ∈ ((p.prune store).run scene).trace →
        p.Consults p.type.readBack o ∧ ∃ s, v = ((p.registry.judge o).run s).answer := by
  obtain ⟨version, kind⟩ := checkTarget_ok (check_ok_iff.mp valid).1
  have consults (l o : Object) (coerced : l.coerce p.type = .ok o) :
      p.Consults p.type.readBack o :=
    .of_type? (Object.type?_of_coerce version kind coerced)
  refine ⟨TypeIdentifier.readBack_eq_iff, consults, ?_⟩
  intro store scene o v judged
  obtain ⟨l, coerced, answered⟩ := judged_of_mem judged
  exact ⟨consults l o coerced, answered⟩

end Pruner

/-! ## Rehearsed pruners -/

namespace Rehearsed

/-- A pruner of the objects of a type created before 1970, each of which its predicate vetoes. -/
def guardedPruner (t : TypeIdentifier) : Pruner Stage :=
  { Pruner.ofStrategy (.olderThan .epoch) Stage.now with
    type := t
    registry := Registry.empty.register t
      (Rule.predicate Stage.journal (.untyped (.these []) "" .all "no")) }

/-- An old object of a type. -/
def typed (t : TypeIdentifier) (name : String) : Object :=
  { bare name (-1) with types := some (.ofType t), data := .object [] }

/-- A type without a group whose version has a slash. -/
def slashed : TypeIdentifier := ⟨"", "a/v1", "K"⟩

/-- A stage with one old object that does not say its type. -/
def untypedStage : Stage := .start [bare "w" (-1)] .epoch

end Rehearsed

namespace Pruner

open Rehearsed in
theorem consults_readBack_rehearsed :
    (guardedPruner .job).check = .ok () ∧ (guardedPruner .job).type.readBack = .job ∧
      TypeIdentifier.job.IsSeparable ∧ (guardedPruner .job).Consults .job (typed .job "w") := by
  obtain ⟨separable, consults, -⟩ := consults_readBack (guardedPruner .job) rfl
  have coerced : (bare "w" (-1)).coerce (guardedPruner .job).type = .ok (typed .job "w") := rfl
  exact ⟨rfl, rfl, separable.mp rfl, consults _ _ coerced⟩

open Rehearsed in
/-- Objects of a type that is not separable are read as of another type: the veto of the pruner's own
type is not asked for, and the object is deleted. -/
theorem misread_slashed :
    (guardedPruner slashed).check = .ok () ∧
      (guardedPruner slashed).registry.contains slashed = true ∧
      (bare "w" (-1)).coerce slashed = .ok (typed slashed "w") ∧
      (typed slashed "w").type? = some ⟨"a", "v1", "K"⟩ ∧
      .judged (typed slashed "w") (.ok ()) ∈
        (((guardedPruner slashed).prune Stage.store).run ⟨untypedStage, .quiet⟩).trace ∧
      goneKeys (((guardedPruner slashed).prune Stage.store).run ⟨untypedStage, .quiet⟩).trace =
        [⟨none, "w"⟩] := by
  refine ⟨rfl, rfl, rfl, rfl, ?_, rfl⟩
  exact List.mem_of_getElem? (i := 2) rfl

end Pruner

end Retention
