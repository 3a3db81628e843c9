import Mathlib.Logic.Relation
import Retention.Proofs.TextMaps
import Retention.Resource.Metadata

/-!
# Objects written otherwise

One object can be written in many ways: with its members in another order, with more members under
names that nobody knows, and with some members left out or changed.  `Json.Edit` is a step from one
way to another.

A reader that knows some names sees `Json.Parts`: for each of the names one member at most, with a
value that is allowed there or without any.  If the changes keep to what is allowed, so does every
edit (`Parts.edit`), and with it any number of them (`Parts.edits`).
-/

namespace Retention.Json

open Metadata (writtenMember)

/-- A step by which an object is written otherwise: its members are permuted, or a member is added
whose name is not among `names`, or one is changed or left out as `changes` has it. -/
inductive Edit (names : List String) (changes : String → Json → Option Json → Prop) :
    Json → Json → Prop
  | permute {before after : List (String × Json)} :
    before.Perm after → Edit names changes (object before) (object after)
  | add {name : String} {value : Json} {members : List (String × Json)} :
    name ∉ names → Edit names changes (object members) (object ((name, value) :: members))
  | change {name : String} {value : Json} {changed : Option Json}
      {members : List (String × Json)} :
    changes name value changed →
    Edit names changes (object ((name, value) :: members))
      (object (writtenMember name changed ++ members))

/-- An object with at most one member under each of `names`, whose value or absence is allowed. -/
def Parts (names : List String) (allows : String → Option Json → Prop) (json : Json) : Prop :=
  ∃ members, json = object members ∧ ∀ name ∈ names, ∃ value,
    members.filter (·.1 = name) = writtenMember name value ∧ allows name value

/-! ## The members under one name -/

section OneName

variable {name : String} {value : Option Json} {members : List (String × Json)}

theorem writtenMember_of_perm {found : List (String × Json)}
    (perm : (writtenMember name value).Perm found) : found = writtenMember name value := by
  cases value with
  | none => exact List.nil_perm.mp perm
  | some value => exact List.singleton_perm.mp perm |>.symm

theorem filter_writtenMember : (writtenMember name value).filter (·.1 = name) =
    writtenMember name value := by
  cases value <;> simp [writtenMember]

theorem filter_writtenMember_of_ne {other : String} (ne : name ≠ other) :
    (writtenMember name value).filter (·.1 = other) = [] := by
  cases value <;> simp [writtenMember, ne]

/-- A member that is the first under its name is the only one, and there are none after it. -/
theorem filter_of_filter_cons {first : Json}
    (only : ((name, first) :: members).filter (·.1 = name) = writtenMember name value) :
    value = some first ∧ members.filter (·.1 = name) = [] := by
  rw [List.filter_cons_of_pos (by simp)] at only
  cases value with
  | none => cases only
  | some value =>
    obtain ⟨first, rest⟩ := List.cons.inj only
    cases first
    exact ⟨rfl, rest⟩

theorem lookup_of_filter (only : members.filter (·.1 = name) = writtenMember name value) :
    members.lookup name = value := by
  induction members with
  | nil => cases value <;> cases only; rfl
  | cons first rest ih =>
    rw [lookup_cons_ite]
    by_cases own : name = first.1
    · obtain ⟨firstName, firstValue⟩ := first
      cases own
      rw [if_pos rfl, (filter_of_filter_cons only).1]
    · rw [if_neg own]
      rw [List.filter_cons_of_neg (by simpa using Ne.symm own)] at only
      exact ih only

end OneName

/-! ## Edits -/

namespace Parts

variable {names : List String} {allows : String → Option Json → Prop}
variable {changes : String → Json → Option Json → Prop} {json edited : Json}

theorem exists_members (parts : Parts names allows json) : ∃ members, json = object members :=
  parts.imp fun _ => And.left

/-- What is found under a name is allowed there. -/
theorem member? (parts : Parts names allows json) (name : String) (known : name ∈ names) :
    allows name (json.member? name) := by
  obtain ⟨members, rfl, each⟩ := parts
  obtain ⟨value, only, allowed⟩ := each name known
  have found : (object members).member? name = value := lookup_of_filter only
  rwa [found]

/-- An edit keeps to what is allowed if the changes do. -/
theorem edit (keeps : ∀ {name value changed}, changes name value changed →
      allows name (some value) → allows name changed)
    (parts : Parts names allows json) (step : Edit names changes json edited) :
    Parts names allows edited := by
  obtain ⟨members, rfl, each⟩ := parts
  cases step with
  | @permute _ after perm =>
    refine ⟨after, rfl, fun name known => ?_⟩
    obtain ⟨value, only, allowed⟩ := each name known
    -- A list of one member at most has no other order.
    have found := perm.filter (·.1 = name)
    rw [only] at found
    exact ⟨value, writtenMember_of_perm found, allowed⟩
  | @add other value members unknown =>
    refine ⟨_, rfl, fun name known => ?_⟩
    have ne : other ≠ name := by
      rintro rfl
      exact unknown known
    rw [List.filter_cons_of_neg (by simpa using ne)]
    exact each name known
  | @change own first changed members change =>
    refine ⟨_, rfl, fun name known => ?_⟩
    obtain ⟨value, only, allowed⟩ := each name known
    rw [List.filter_append]
    by_cases same : own = name
    · subst same
      obtain ⟨rfl, rest⟩ := filter_of_filter_cons only
      exact ⟨changed, by rw [filter_writtenMember, rest, List.append_nil], keeps change allowed⟩
    · rw [List.filter_cons_of_neg (by simpa using same)] at only
      exact ⟨value, by rw [filter_writtenMember_of_ne same, List.nil_append, only], allowed⟩

/-- Any number of edits keep to what is allowed if the changes do. -/
theorem edits (keeps : ∀ {name value changed}, changes name value changed →
      allows name (some value) → allows name changed)
    (parts : Parts names allows json)
    (steps : Relation.ReflTransGen (Edit names changes) json edited) :
    Parts names allows edited := by
  induction steps with
  | refl => exact parts
  | tail _ step ih => exact ih.edit keeps step

end Parts

end Retention.Json
