import Retention.Proofs.Forms

/-!
# Where addresses point

An address is put together from unescaped parts, and its path ends at the first `?` or `#`, wherever
that stands (`Address.toList_path`).  Where no part has one of them, the path is the text that was
meant, and the query of a list is read back (`Address.of_query`).  `ApiResource.place?` reads off a
path where among the objects of a resource it points, and does so rightly where the parts have no `/`
either (`Plain.place?_pathTo`).
-/

namespace Retention.Cluster

/-! ## The end of a path -/

/-- The characters of a text before the first `?` or `#`. -/
def pathPart (cs : List Char) : List Char :=
  (cs.takeWhile (· ≠ '#')).takeWhile (· ≠ '?')

/-- A text without a character that ends a path. -/
def Unbroken (text : String) : Prop := '#' ∉ text.toList ∧ '?' ∉ text.toList

/-- A text without a character that ends a path or a part of one. -/
def IsSegment (text : String) : Prop := Unbroken text ∧ '/' ∉ text.toList

instance : DecidablePred Unbroken := fun _ => inferInstanceAs (Decidable (_ ∧ _))

instance : DecidablePred IsSegment := fun _ => inferInstanceAs (Decidable (_ ∧ _))

theorem takeWhile_append_of_notMem {c : Char} {cs : List Char} (free : c ∉ cs) (rest : List Char) :
    (cs ++ rest).takeWhile (· ≠ c) = cs ++ rest.takeWhile (· ≠ c) := by
  apply List.takeWhile_append_of_pos
  intro x mem
  have other : x ≠ c := fun same => free (same ▸ mem)
  simp [other]

theorem pathPart_append {text : String} (unbroken : Unbroken text) (rest : List Char) :
    pathPart (text.toList ++ rest) = text.toList ++ pathPart rest := by
  unfold pathPart
  rw [takeWhile_append_of_notMem unbroken.1, takeWhile_append_of_notMem unbroken.2]

theorem pathPart_of_unbroken {text : String} (unbroken : Unbroken text) :
    pathPart text.toList = text.toList := by
  have whole := pathPart_append unbroken []
  rw [List.append_nil] at whole
  exact whole.trans (List.append_nil _)

/-- Nothing after a `?` belongs to the path. -/
theorem pathPart_query (cs rest : List Char) : pathPart (cs ++ '?' :: rest) = pathPart cs := by
  induction cs with
  | nil => simp [pathPart]
  | cons c cs ih =>
    by_cases hash : c = '#'
    · simp [pathPart, hash]
    · by_cases mark : c = '?'
      · simp [pathPart, mark]
      · simpa [pathPart, hash, mark] using ih

theorem Unbroken.append {first second : String} (before : Unbroken first) (after : Unbroken second) :
    Unbroken (first ++ second) := by
  simp only [Unbroken, String.toList_append, List.mem_append, not_or]
  exact ⟨⟨before.1, after.1⟩, before.2, after.2⟩

/-! ## Addresses -/

/-- The path and the query that a text shows. -/
theorem Address.path_query_of_ofText? {text : String} {address : Address}
    (written : Address.ofText? text = some address) :
    (∃ query, Text.cutAt? '?' (text.toList.takeWhile (· ≠ '#')) = some (address.path.toList, query) ∧
        address.query = some (String.ofList query)) ∨
      Text.cutAt? '?' (text.toList.takeWhile (· ≠ '#')) = none ∧
        address.path.toList = text.toList.takeWhile (· ≠ '#') ∧ address.query = none := by
  unfold Address.ofText? at written
  cases cut : Text.cutAt? '?' (text.toList.takeWhile (· ≠ '#')) with
  | none =>
    simp only [cut, Option.ite_none_right_eq_some] at written
    obtain ⟨-, same⟩ := written
    cases same
    exact .inr ⟨rfl, String.toList_ofList, rfl⟩
  | some parts =>
    obtain ⟨path, query⟩ := parts
    simp only [cut, Option.ite_none_right_eq_some] at written
    obtain ⟨-, same⟩ := written
    cases same
    exact .inl ⟨query, by simp, rfl⟩

/-- The path of an address is what its text has before the first `?` or `#`. -/
theorem Address.toList_path {text : String} {address : Address}
    (written : Address.ofText? text = some address) : address.path.toList = pathPart text.toList := by
  unfold pathPart
  rcases Address.path_query_of_ofText? written with ⟨query, cut, -⟩ | ⟨uncut, path, -⟩
  · obtain ⟨shown, free⟩ := Text.cutAt?_eq_some_iff.mp cut
    rw [shown, takeWhile_append_of_notMem free]
    simp
  · have free := Text.cutAt?_eq_none_iff.mp uncut
    have whole := takeWhile_append_of_notMem free []
    rw [List.append_nil, List.takeWhile_nil, List.append_nil] at whole
    rw [path, whole]

/-- An address with one `?`, after an unbroken text, has this text as its path and the rest as its
query. -/
theorem Address.of_query {base form : String} {address : Address} (unbroken : Unbroken base)
    (shown : '#' ∉ form.toList) (written : Address.ofText? (base ++ "?" ++ form) = some address) :
    address.path = base ∧ address.query = some form := by
  have all : (base ++ "?" ++ form).toList.takeWhile (· ≠ '#') =
      base.toList ++ '?' :: form.toList := by
    have free : '#' ∉ (base ++ "?" ++ form).toList := by
      simp [unbroken.1, shown]
    have whole := takeWhile_append_of_notMem free []
    rw [List.append_nil, List.takeWhile_nil, List.append_nil] at whole
    rw [whole]
    simp
  have cut : Text.cutAt? '?' (base.toList ++ '?' :: form.toList) =
      some (base.toList, form.toList) := Text.cutAt?_eq_some_iff.mpr ⟨rfl, unbroken.2⟩
  rcases Address.path_query_of_ofText? written with ⟨query, own, asked⟩ | ⟨uncut, -, -⟩
  · rw [all, cut, Option.some.injEq, Prod.mk.injEq] at own
    rw [asked, ← own.2, String.ofList_toList]
    exact ⟨(String.toList_inj.mp own.1).symm, rfl⟩
  · rw [all, cut] at uncut
    cases uncut

/-! ## Places -/

namespace ApiResource

/-- The first part of every path of a resource: its group and version. -/
def rootText (r : ApiResource) : String :=
  (if r.group.isEmpty then "/api/" else "/apis/") ++ r.apiVersion

/-- A resource whose texts keep their places in a path. -/
structure Plain (r : ApiResource) : Prop where
  apiVersion : Unbroken r.apiVersion
  plural : IsSegment r.plural

/-- A place among the objects of a resource: all of them or those of a namespace, or one of either. -/
structure Place where
  ns : Option String
  name : Option String
  deriving DecidableEq, Repr

/-- The texts of a place are parts of a path. -/
structure Place.Segmented (place : Place) : Prop where
  ns : ∀ text, place.ns = some text → IsSegment text
  name : ∀ text, place.name = some text → IsSegment text

theorem Place.Segmented.inNamespace {ns : String} (segment : IsSegment ns) :
    (⟨some ns, none⟩ : Place).Segmented := by
  refine ⟨?_, nofun⟩
  rintro _ ⟨⟩
  exact segment

theorem Place.Segmented.object {ns name : String} (segment : IsSegment ns) (named : IsSegment name) :
    (⟨some ns, some name⟩ : Place).Segmented := by
  constructor
  · rintro _ ⟨⟩
    exact segment
  · rintro _ ⟨⟩
    exact named

/-- The path to a place. -/
def pathTo (r : ApiResource) (place : Place) : String :=
  r.pathText place.ns ++ place.name.elim "" fun name => "/" ++ name

/-- The place that the parts of a path tell, from where the root of the resource ends. -/
def placeOf? (plural : List Char) : List (List Char) → Option Place
  | [[], own] => if own = plural then some ⟨none, none⟩ else none
  | [[], own, name] => if own = plural then some ⟨none, some (String.ofList name)⟩ else none
  | [[], all, ns, own] =>
    if all = "namespaces".toList ∧ own = plural then some ⟨some (String.ofList ns), none⟩ else none
  | [[], all, ns, own, name] =>
    if all = "namespaces".toList ∧ own = plural then
      some ⟨some (String.ofList ns), some (String.ofList name)⟩
    else none
  | _ => none

/-- The place among the objects of a resource to which a path points. -/
def place? (r : ApiResource) (path : String) : Option Place :=
  if r.rootText.toList <+: path.toList then
    placeOf? r.plural.toList (Text.split '/' (path.toList.drop r.rootText.toList.length))
  else none

section Pointing

variable {r : ApiResource} {ns : Option String} {name : String}

theorem pathText_eq (r : ApiResource) (ns : Option String) :
    r.pathText ns =
      r.rootText ++ ((ns.elim "" fun ns => "/namespaces/" ++ ns) ++ "/" ++ r.plural) := by
  cases ns with
  | none => simp [pathText, rootText, String.append_assoc]
  | some ns => simp [pathText, rootText, String.append_assoc]

theorem unbroken_rootText (plain : Unbroken r.apiVersion) : Unbroken r.rootText := by
  have start : Unbroken (if r.group.isEmpty then "/api/" else "/apis/") := by
    split <;> decide
  exact start.append plain

/-- The path of a plain resource is unbroken in a namespace that is a part of a path. -/
theorem Plain.unbroken_pathText (plain : r.Plain) (segment : ∀ text, ns = some text → Unbroken text) :
    Unbroken (r.pathText ns) := by
  have slash : Unbroken "/" := by decide
  have scope : Unbroken (ns.elim "" fun ns => "/namespaces/" ++ ns) := by
    cases ns with
    | none => exact (by decide : Unbroken "")
    | some text => exact (by decide : Unbroken "/namespaces/").append (segment text rfl)
  rw [pathText_eq]
  exact (unbroken_rootText plain.apiVersion).append ((scope.append slash).append plain.plural.1)

theorem Plain.unbroken_pathTo (plain : r.Plain) {place : Place} (segmented : place.Segmented) :
    Unbroken (r.pathTo place) := by
  have own := plain.unbroken_pathText fun text same => (segmented.ns text same).1
  have rest : Unbroken (place.name.elim "" fun name => "/" ++ name) := by
    cases named : place.name with
    | none => exact (by decide : Unbroken "")
    | some name => exact (by decide : Unbroken "/").append (segmented.name name named).1
  exact own.append rest

/-- What follows the root on the path to a place. -/
def partsTo (r : ApiResource) (place : Place) : List (List Char) :=
  (place.ns.elim [] fun ns => ["namespaces".toList, ns.toList]) ++ [r.plural.toList] ++
    place.name.toList.map String.toList

theorem toList_pathTo (r : ApiResource) (place : Place) :
    (r.pathTo place).toList = r.rootText.toList ++ (r.partsTo place).flatMap ('/' :: ·) := by
  obtain ⟨ns, name⟩ := place
  cases ns <;> cases name <;> simp [pathTo, pathText_eq, partsTo]

/-- The path to a place whose texts are parts of a path points to this place. -/
theorem Plain.place?_pathTo (plain : r.Plain) {place : Place} (segmented : place.Segmented) :
    r.place? (r.pathTo place) = some place := by
  have whole : ∀ part ∈ r.partsTo place, '/' ∉ part := by
    intro part mem
    simp only [partsTo, List.mem_append, List.mem_singleton, List.mem_map, Option.mem_toList] at mem
    rcases mem with (scope | rfl) | ⟨name, own, rfl⟩
    · cases inNamespace : place.ns with
      | none => simp [inNamespace] at scope
      | some ns =>
        simp only [inNamespace, Option.elim_some, List.mem_cons, List.not_mem_nil, or_false] at scope
        rcases scope with rfl | rfl
        · decide
        · exact (segmented.ns ns inNamespace).2
    · exact plain.plural.2
    · exact (segmented.name name own).2
  have cut := Text.split_flatMap List.not_mem_nil whole
  rw [List.nil_append] at cut
  unfold place?
  rw [toList_pathTo, if_pos (List.prefix_append _ _), List.drop_left, cut]
  obtain ⟨ns, name⟩ := place
  cases ns <;> cases name <;> simp [partsTo, placeOf?]

end Pointing

end ApiResource

end Retention.Cluster
