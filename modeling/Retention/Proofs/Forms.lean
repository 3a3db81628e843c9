import Retention.Cluster.Address
import Retention.Json.Reader

/-!
# Reading forms

The values that a query names are written as a form, and `Form.read?` reads them back: the text is
cut at each `&`, a part at its first `=`, and the two texts are decoded.  What `formPairs` writes is
read back as it was (`read?_formPairs`), whatever characters are in it, because none that cuts a form
is left in an encoded text.
-/

namespace Retention

/-! ## The bytes of a text -/

theorem toList_loop_eq (bytes : ByteArray) (i : Nat) (before : List UInt8) :
    ByteArray.toList.loop bytes i before = before.reverse ++ bytes.data.toList.drop i := by
  unfold ByteArray.toList.loop
  split
  next inside =>
    have bound : i < bytes.data.toList.length := by simpa using inside
    have byte : bytes.get! i = bytes.data.toList[i] := by
      have known : i < bytes.data.size := inside
      simp only [ByteArray.get!, Array.getElem_toList]
      exact getElem!_pos bytes.data i known
    rw [toList_loop_eq bytes (i + 1), List.drop_eq_getElem_cons bound, byte]
    simp
  next outside =>
    have past : bytes.data.toList.length ≤ i := by
      have size : bytes.size ≤ i := Nat.not_lt.mp outside
      simpa using size
    rw [List.drop_eq_nil_of_le past, List.append_nil]
termination_by bytes.size - i

theorem toList_eq_data (bytes : ByteArray) : bytes.toList = bytes.data.toList := by
  rw [ByteArray.toList, toList_loop_eq]
  simp

/-- The bytes of a text are read as this text. -/
theorem fromUTF8?_toList (text : String) :
    String.fromUTF8? text.toUTF8.toList.toByteArray = some text := by
  have same : text.toUTF8.toList.toByteArray = text.toByteArray := by
    apply ByteArray.ext
    apply Array.toList_inj.mp
    rw [List.toList_data_toByteArray, toList_eq_data]
    rfl
  have valid : text.toByteArray.IsValidUTF8 := text.isValidUTF8
  rw [same, String.fromUTF8?, dif_pos valid]
  rfl

namespace Cluster

/-! ## Reading a form -/

namespace Form

/-- The bytes that a part of a form stands for. -/
def readBytes? : List Char → Option (List UInt8)
  | [] => some []
  | '+' :: cs => (readBytes? cs).map (0x20 :: ·)
  | '%' :: a :: b :: cs =>
    (Json.hexNumber? [a, b]).bind fun n => (readBytes? cs).map (UInt8.ofNat n :: ·)
  | c :: cs => (readBytes? cs).map (UInt8.ofNat c.toNat :: ·)

def readText? (cs : List Char) : Option String :=
  (readBytes? cs).bind fun bytes => String.fromUTF8? bytes.toByteArray

def readPair? (cs : List Char) : Option (String × String) :=
  (Text.cutAt? '=' cs).bind fun (name, value) =>
    (readText? name).bind fun name => (readText? value).map fun value => (name, value)

/-- The named values in a form.  Empty parts of it name nothing. -/
def read? (form : String) : Option (List (String × String)) :=
  ((Text.split '&' form.toList).filter (· ≠ [])).mapM readPair?

end Form

/-! ## What is left in an encoded text -/

/-- A character that neither cuts a form nor ends a query. -/
def IsFormChar (c : Char) : Prop := c ≠ '&' ∧ c ≠ '=' ∧ c ≠ '#'

instance : DecidablePred IsFormChar := fun _ => inferInstanceAs (Decidable (_ ∧ _ ∧ _))

theorem upperHexDigit_spec : ∀ n < 16, Json.hexValue? (upperHexDigit n) = some n ∧
    IsFormChar (upperHexDigit n) := by
  decide

/-- A byte that a form keeps is read as it is. -/
theorem isFormByte_spec {b : UInt8} (kept : isFormByte b = true) :
    IsFormChar (Char.ofNat b.toNat) ∧ Char.ofNat b.toNat ≠ '+' ∧ Char.ofNat b.toNat ≠ '%' ∧
      UInt8.ofNat (Char.ofNat b.toNat).toNat = b := by
  have small : b.toNat < 128 := by
    have less : b < 0x80 := by
      simp only [isFormByte, Bool.and_eq_true, decide_eq_true_eq] at kept
      exact kept.1
    exact UInt8.lt_iff_toNat_lt.mp less
  have all : ∀ n < 128, isFormByte (UInt8.ofNat n) = true → IsFormChar (Char.ofNat n) ∧
      Char.ofNat n ≠ '+' ∧ Char.ofNat n ≠ '%' ∧ UInt8.ofNat (Char.ofNat n).toNat = UInt8.ofNat n := by
    decide +kernel
  have spec := all b.toNat small
  rw [UInt8.ofNat_toNat] at spec
  exact spec kept

theorem isFormChar_of_mem_formByte {b : UInt8} {c : Char} (mem : c ∈ formByte b) :
    IsFormChar c := by
  have bound : b.toNat < 256 := b.toNat_lt
  unfold formByte at mem
  split at mem
  · cases List.mem_singleton.mp mem
    decide
  · split at mem
    next kept =>
      cases List.mem_singleton.mp mem
      exact (isFormByte_spec kept).1
    next =>
      simp only [List.mem_cons, List.not_mem_nil, or_false] at mem
      rcases mem with rfl | rfl | rfl
      · decide
      · exact (upperHexDigit_spec _ (by omega)).2
      · exact (upperHexDigit_spec _ (by omega)).2

theorem isFormChar_of_mem_formEncode {text : String} {c : Char} (mem : c ∈ (formEncode text).toList) :
    IsFormChar c := by
  rw [formEncode, String.toList_ofList, List.mem_flatMap] at mem
  obtain ⟨b, -, mem⟩ := mem
  exact isFormChar_of_mem_formByte mem

/-! ## Reading back -/

namespace Form

theorem readBytes?_formByte (b : UInt8) (rest : List Char) :
    readBytes? (formByte b ++ rest) = (readBytes? rest).map (b :: ·) := by
  have bound : b.toNat < 256 := b.toNat_lt
  unfold formByte
  split
  next space =>
    subst space
    rfl
  next =>
    split
    next kept =>
      obtain ⟨-, plus, percent, value⟩ := isFormByte_spec kept
      rw [List.singleton_append, readBytes?, value]
      · exact fun same => plus same
      · rintro a c cs same
        exact (percent same).elim
    next =>
      have high := (upperHexDigit_spec (b.toNat / 16) (by omega)).1
      have low := (upperHexDigit_spec (b.toNat % 16) (by omega)).1
      have number : Json.hexNumber? [upperHexDigit (b.toNat / 16), upperHexDigit (b.toNat % 16)] =
          some b.toNat := by
        simp only [Json.hexNumber?, List.foldlM_cons, List.foldlM_nil, high, low, Option.map_some,
          Option.pure_def, Option.bind_eq_bind, Option.bind_some]
        congr 1
        omega
      rw [List.cons_append, List.cons_append, List.cons_append, List.nil_append, readBytes?, number,
        Option.bind_some, UInt8.ofNat_toNat]

theorem readBytes?_flatMap (bytes : List UInt8) :
    readBytes? (bytes.flatMap formByte) = some bytes := by
  induction bytes with
  | nil => rfl
  | cons b rest ih => rw [List.flatMap_cons, readBytes?_formByte, ih, Option.map_some]

/-- An encoded text is read back. -/
theorem readText?_formEncode (text : String) : readText? (formEncode text).toList = some text := by
  rw [readText?, formEncode, String.toList_ofList, readBytes?_flatMap, Option.bind_some,
    fromUTF8?_toList]

/-- The part of a form that names a value. -/
def part (pair : String × String) : List Char :=
  (formEncode pair.1).toList ++ '=' :: (formEncode pair.2).toList

theorem readPair?_part (pair : String × String) : readPair? (part pair) = some pair := by
  have named : '=' ∉ (formEncode pair.1).toList := fun mem =>
    (isFormChar_of_mem_formEncode mem).2.1 rfl
  have cut : Text.cutAt? '=' (part pair) =
      some ((formEncode pair.1).toList, (formEncode pair.2).toList) :=
    Text.cutAt?_eq_some_iff.mpr ⟨rfl, named⟩
  rw [readPair?, cut]
  simp only [Option.bind_some, readText?_formEncode, Option.map_some]

theorem toList_formPairs (pairs : List (String × String)) :
    (formPairs pairs).toList = pairs.flatMap fun pair => '&' :: part pair := by
  have joined (texts : List String) : (String.join texts).toList = texts.flatMap String.toList := by
    induction texts with
    | nil => rfl
    | cons text rest ih => rw [String.join_cons, String.toList_append, ih, List.flatMap_cons]
  rw [formPairs, joined, List.flatMap_map]
  congr 1
  funext pair
  simp [part]

theorem hash_notMem_formPairs (pairs : List (String × String)) :
    '#' ∉ (formPairs pairs).toList := by
  rw [toList_formPairs]
  intro mem
  obtain ⟨pair, -, mem⟩ := List.mem_flatMap.mp mem
  simp only [part, List.mem_cons, List.mem_append] at mem
  rcases mem with amp | name | eq | value
  · cases amp
  · exact (isFormChar_of_mem_formEncode name).2.2 rfl
  · cases eq
  · exact (isFormChar_of_mem_formEncode value).2.2 rfl

theorem amp_notMem_part (pair : String × String) : '&' ∉ part pair := by
  intro mem
  simp only [part, List.mem_cons, List.mem_append] at mem
  rcases mem with name | eq | value
  · exact (isFormChar_of_mem_formEncode name).1 rfl
  · cases eq
  · exact (isFormChar_of_mem_formEncode value).1 rfl

theorem mapM_readPair?_parts (pairs : List (String × String)) :
    (pairs.map part).mapM readPair? = some pairs := by
  induction pairs with
  | nil => rfl
  | cons pair rest ih =>
    rw [List.map_cons, List.mapM_cons, readPair?_part, ih]
    rfl

/-- The named values of a form are read back. -/
theorem read?_formPairs (pairs : List (String × String)) :
    read? (formPairs pairs) = some pairs := by
  have whole : ∀ cs ∈ pairs.map part, '&' ∉ cs := by
    intro cs mem
    obtain ⟨pair, -, rfl⟩ := List.mem_map.mp mem
    exact amp_notMem_part pair
  have parts := Text.split_flatMap List.not_mem_nil whole
  rw [List.nil_append, List.flatMap_map] at parts
  have kept : (pairs.map part).filter (· ≠ []) = pairs.map part := by
    rw [List.filter_eq_self]
    intro cs mem
    obtain ⟨pair, -, rfl⟩ := List.mem_map.mp mem
    simp [part]
  have only : ([] :: pairs.map part).filter (· ≠ []) = pairs.map part := by
    rw [List.filter_cons_of_neg (by simp), kept]
  rw [read?, toList_formPairs, parts, only, mapM_readPair?_parts]

end Form

end Cluster

end Retention
