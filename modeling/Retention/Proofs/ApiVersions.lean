import Retention.Proofs.ReportedType

/-!
# API versions

An `apiVersion` joins a group and a version (`TypeIdentifier.apiVersion`) and is cut into them again
(`TypeIdentifier.splitApiVersion`).  The one leaves out an empty group together with its slash, the
other cuts at the first slash that it finds, so neither undoes the other everywhere.  A type is read
back where no other slash comes first (`TypeIdentifier.readBack_eq_iff`), and a text is written back
where it does not begin with a slash (`TypeIdentifier.apiVersion_split_iff`).
`Object.type?_apiVersion` says both of the types that objects report.
-/

namespace Retention

namespace TypeIdentifier

variable {t : TypeIdentifier} {text : String}

/-- Which types are separable, by the two kinds of groups. -/
theorem isSeparable_iff :
    t.IsSeparable ↔
      t.group ≠ "" ∧ '/' ∉ t.group.toList ∨ t.group = "" ∧ '/' ∉ t.version.toList := by
  unfold IsSeparable
  by_cases core : t.group = ""
  · simp [core]
  · simp [core]

/-- The type whose objects carry a text as their `apiVersion`, as far as it can be told. -/
def ofApiVersion (text kind : String) : TypeIdentifier :=
  ⟨(splitApiVersion text).1, (splitApiVersion text).2, kind⟩

theorem readBack_eq_ofApiVersion (t : TypeIdentifier) :
    t.readBack = ofApiVersion t.apiVersion t.kind := rfl

/-- A text without a slash is a version, and is carried by objects of the core group. -/
theorem apiVersion_ofApiVersion_of_unslashed (unslashed : '/' ∉ text.toList) (kind : String) :
    (ofApiVersion text kind).apiVersion = text := by
  have cut : splitApiVersion text = ("", text) := by
    rw [splitApiVersion, Text.cutAt?_eq_none_iff.mpr unslashed]
  rw [ofApiVersion, cut]
  exact apiVersion_of_core rfl

/-- A text that is cut after its first character is put together again. -/
theorem apiVersion_ofApiVersion_of_grouped {c : Char} {before after : List Char}
    (whole : text.toList = (c :: before) ++ '/' :: after) (first : '/' ∉ c :: before)
    (kind : String) : (ofApiVersion text kind).apiVersion = text := by
  have cut : splitApiVersion text = (String.ofList (c :: before), String.ofList after) := by
    rw [splitApiVersion, Text.cutAt?_eq_some_iff.mpr ⟨whole, first⟩]
  have grouped : (ofApiVersion text kind).group ≠ "" := by
    rw [ofApiVersion, cut]
    simp
  rw [← String.toList_inj, toList_apiVersion grouped, whole, ofApiVersion, cut]
  simp

/-- The slash that a text begins with is lost. -/
theorem apiVersion_ofApiVersion_of_leading (rest kind : String) :
    (ofApiVersion ("/" ++ rest) kind).apiVersion = rest := by
  have cut : splitApiVersion ("/" ++ rest) = ("", rest) := by
    have found : Text.cutAt? '/' ("/" ++ rest).toList = some ([], rest.toList) :=
      Text.cutAt?_eq_some_iff.mpr ⟨by simp, List.not_mem_nil⟩
    rw [splitApiVersion, found]
    simp
  rw [ofApiVersion, cut]
  exact apiVersion_of_core rfl

/-- A text is written back exactly where it does not begin with a slash. -/
theorem apiVersion_split_iff (text kind : String) :
    (ofApiVersion text kind).apiVersion = text ↔ ¬∃ rest, text = "/" ++ rest := by
  constructor
  · rintro written ⟨rest, rfl⟩
    rw [apiVersion_ofApiVersion_of_leading] at written
    have lengths := congrArg String.length written
    simp at lengths
  · intro unled
    cases cut : Text.cutAt? '/' text.toList with
    | none => exact apiVersion_ofApiVersion_of_unslashed (Text.cutAt?_eq_none_iff.mp cut) kind
    | some parts =>
      obtain ⟨before, after⟩ := parts
      obtain ⟨whole, first⟩ := Text.cutAt?_eq_some_iff.mp cut
      cases before with
      | nil =>
        refine absurd ⟨String.ofList after, ?_⟩ unled
        rw [← String.toList_inj, whole]
        simp
      | cons c before => exact apiVersion_ofApiVersion_of_grouped whole first kind

end TypeIdentifier

namespace Object

variable {o : Object} {types : TypeMeta}

/-- An object that says its version and its kind reports the type that they stand for. -/
theorem type?_of_types (reported : o.types = some types) (version : types.apiVersion ≠ "")
    (kind : types.kind ≠ "") :
    o.type? = some (.ofApiVersion types.apiVersion types.kind) := by
  simp [type?, reported, version, kind, TypeIdentifier.ofApiVersion]

/-- An object reports no type exactly where it says nothing of it, or leaves one of the two texts
empty. -/
theorem type?_eq_none_iff :
    o.type? = none ↔
      ∀ types, o.types = some types → types.apiVersion = "" ∨ types.kind = "" := by
  cases reported : o.types with
  | none => simp [type?, reported]
  | some types =>
    by_cases blank : types.apiVersion = "" ∨ types.kind = ""
    · simp [type?, reported, blank]
    · have told := not_or.mp blank
      rw [type?_of_types reported told.1 told.2]
      simp [blank]

/-- Objects with the texts of a type report this type exactly where its group has no slash or, in the
core group, its version has none.  An object with any two texts reports a type of its kind, and the
`apiVersion` of this type is the object's unless that begins with a slash.  Where one of the texts is
missing or empty, and only there, no type is reported. -/
theorem type?_apiVersion :
    (∀ (t : TypeIdentifier) (o : Object), t.kind ≠ "" → t.apiVersion ≠ "" →
      o.types = some ⟨t.apiVersion, t.kind⟩ →
      (o.type? = some t ↔
        t.group ≠ "" ∧ '/' ∉ t.group.toList ∨ t.group = "" ∧ '/' ∉ t.version.toList)) ∧
    (∀ (o : Object) (types : TypeMeta), o.types = some types → types.apiVersion ≠ "" →
      types.kind ≠ "" →
      ∃ t, o.type? = some t ∧ t.kind = types.kind ∧
        (t.apiVersion = types.apiVersion ↔ ¬∃ rest, types.apiVersion = "/" ++ rest)) ∧
    ∀ o : Object, o.type? = none ↔
      o.types = none ∨
        ∃ types, o.types = some types ∧ (types.apiVersion = "" ∨ types.kind = "") := by
  refine ⟨?_, ?_, ?_⟩
  · intro t o kind version carried
    rw [type?_of_types carried version kind, ← TypeIdentifier.readBack_eq_ofApiVersion,
      Option.some_inj, TypeIdentifier.readBack_eq_iff, TypeIdentifier.isSeparable_iff]
  · intro o types reported version kind
    exact ⟨_, type?_of_types reported version kind, rfl,
      TypeIdentifier.apiVersion_split_iff types.apiVersion types.kind⟩
  · intro o
    rw [type?_eq_none_iff]
    cases o.types with
    | none => simp
    | some types => simp

end Object

/-! ## Rehearsed objects -/

namespace Rehearsed

/-- An object whose `apiVersion` begins with a slash. -/
def slashedObject : Object := { bare "w" 0 with types := some ⟨"/v1", "K"⟩ }

end Rehearsed

namespace Object

open Rehearsed in
theorem type?_apiVersion_rehearsed :
    (typed .job "w").type? = some .job ∧ (typed slashed "w").type? ≠ some slashed ∧
      (∃ t, slashedObject.type? = some t ∧ t.kind = "K" ∧ t.apiVersion ≠ "/v1") ∧
      (bare "w" 0).type? = none := by
  obtain ⟨back, carried, silent⟩ := type?_apiVersion
  refine ⟨(back .job _ (by decide) (by decide) rfl).mpr (.inl ⟨by decide, by decide⟩), ?_, ?_,
    (silent _).mpr (.inl rfl)⟩
  · intro read
    have unslashed := (back slashed _ (by decide) (by decide) rfl).mp read
    simp [slashed] at unslashed
  · obtain ⟨t, reported, kind, written⟩ :=
      carried slashedObject _ rfl (by decide) (by decide)
    exact ⟨t, reported, kind, fun same => written.mp same ⟨"v1", rfl⟩⟩

end Object

end Retention
