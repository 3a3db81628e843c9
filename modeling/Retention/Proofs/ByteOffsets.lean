import Mathlib
import Retention.Proofs.ByteOrder

/-!
# Byte offsets

A program finds its place in a text by a count of bytes, and cuts the text there.  Characters take up
to four bytes, so not every offset lies between two of them.  `Text.cutAtByte?` cuts only at those
that do (`Text.isSome_cutAtByte?_iff`), and `Text.findByte?` finds the offset of a character.  To cut
where a character was found takes the longest run of others off the text (`Text.cutAtByte?_findByte?`).
-/

namespace Retention.Text

open String (utf8Len utf8EncodeChar)

variable {offset : Nat} {cs before after : List Char}

/-! ## Cutting -/

/-- The parts of a text before and after a byte offset; none where the offset lies within a character
or past the end. -/
def cutAtByte? : (offset : Nat) → List Char → Option (List Char × List Char)
  | 0, cs => some ([], cs)
  | _ + 1, [] => none
  | offset + 1, c :: cs =>
    if c.utf8Size ≤ offset + 1 then
      (cutAtByte? (offset + 1 - c.utf8Size) cs).map fun parts => (c :: parts.1, parts.2)
    else none

theorem cutAtByte?_cons {c : Char} :
    cutAtByte? (offset + c.utf8Size) (c :: cs) =
      (cutAtByte? offset cs).map fun parts => (c :: parts.1, parts.2) := by
  have size := c.utf8Size_pos
  obtain ⟨less, total⟩ : ∃ less, offset + c.utf8Size = less + 1 :=
    ⟨offset + c.utf8Size - 1, by omega⟩
  rw [total, cutAtByte?, if_pos (by omega), ← total, Nat.add_sub_cancel]

theorem cutAtByte?_append (before after : List Char) :
    cutAtByte? (utf8Len before) (before ++ after) = some (before, after) := by
  induction before with
  | nil => rw [String.utf8Len_nil, List.nil_append, cutAtByte?]
  | cons c before ih =>
    rw [String.utf8Len_cons, List.cons_append, cutAtByte?_cons, ih, Option.map_some]

theorem cutAtByte?_eq_some_iff :
    cutAtByte? offset cs = some (before, after) ↔ cs = before ++ after ∧ utf8Len before = offset := by
  constructor
  · intro cut
    induction offset, cs using cutAtByte?.induct generalizing before with
    | case1 cs =>
      rw [cutAtByte?] at cut
      cases cut
      exact ⟨rfl, String.utf8Len_nil⟩
    | case2 => cases cut
    | case3 offset c cs fits ih =>
      rw [cutAtByte?, if_pos fits, Option.map_eq_some_iff] at cut
      obtain ⟨⟨own, rest⟩, found, parts⟩ := cut
      cases parts
      obtain ⟨rfl, length⟩ := ih found
      refine ⟨rfl, ?_⟩
      rw [String.utf8Len_cons, length]
      omega
    | case4 offset c cs long =>
      rw [cutAtByte?, if_neg long] at cut
      cases cut
  · rintro ⟨rfl, rfl⟩
    exact cutAtByte?_append before after

/-- A byte offset of a text that lies between two characters or at an end. -/
def IsBoundary (offset : Nat) (cs : List Char) : Prop :=
  String.Pos.Raw.IsValid (String.ofList cs) ⟨offset⟩

/-- A text is cut exactly at its boundaries. -/
theorem isSome_cutAtByte?_iff : (cutAtByte? offset cs).isSome ↔ IsBoundary offset cs := by
  rw [IsBoundary, String.Pos.Raw.isValid_iff_exists_append, Option.isSome_iff_exists]
  constructor
  · rintro ⟨⟨before, after⟩, cut⟩
    obtain ⟨rfl, rfl⟩ := cutAtByte?_eq_some_iff.mp cut
    exact ⟨String.ofList before, String.ofList after, String.ofList_append,
      (String.rawEndPos_ofList before).symm⟩
  · rintro ⟨before, after, whole, length⟩
    refine ⟨(before.toList, after.toList), cutAtByte?_eq_some_iff.mpr ⟨?_, ?_⟩⟩
    · rw [← String.toList_append, ← whole, String.toList_ofList]
    · rw [← String.ofList_toList (s := before), String.rawEndPos_ofList] at length
      exact (congrArg String.Pos.Raw.byteIdx length).symm

example : cutAtByte? 1 ['\u00b5', 's'] = none := by decide

/-! ## Finding -/

/-- The offset of the first character of a kind. -/
def findByte? (kind : Char → Bool) : List Char → Option Nat
  | [] => none
  | c :: cs => if kind c then some 0 else (findByte? kind cs).map (· + c.utf8Size)

/-- The first character of a kind comes after the longest run of others. -/
theorem getD_findByte? (kind : Char → Bool) (cs : List Char) :
    (findByte? kind cs).getD (utf8Len cs) = utf8Len (cs.takeWhile fun c => !kind c) := by
  induction cs with
  | nil => rfl
  | cons c cs ih =>
    unfold findByte?
    cases own : kind c with
    | true => rw [if_pos rfl, List.takeWhile_cons_of_neg (by simp [own])]; rfl
    | false =>
      rw [if_neg Bool.false_ne_true, List.takeWhile_cons_of_pos (by simp [own]),
        String.utf8Len_cons, String.utf8Len_cons, ← ih]
      cases findByte? kind cs with
      | none => rfl
      | some offset => rfl

theorem cutAtByte?_findByte? (kind : Char → Bool) (cs : List Char) :
    cutAtByte? ((findByte? kind cs).getD (utf8Len cs)) cs =
      some (cs.takeWhile fun c => !kind c, cs.dropWhile fun c => !kind c) := by
  have cut := cutAtByte?_append (cs.takeWhile fun c => !kind c) (cs.dropWhile fun c => !kind c)
  rwa [List.takeWhile_append_dropWhile, ← getD_findByte?] at cut

/-! ## Characters of one byte -/

theorem utf8Size_of_isDigit {c : Char} (digit : c.isDigit = true) : c.utf8Size = 1 := by
  have low : c.val ≤ 127 := by
    simp only [Char.isDigit, Bool.and_eq_true, decide_eq_true_eq] at digit
    exact UInt32.le_trans digit.2 (by decide)
  exact if_pos low

/-- Digits have a byte each. -/
theorem utf8Len_digits (all : ∀ c ∈ cs, c.isDigit = true) : utf8Len cs = cs.length := by
  induction cs with
  | nil => rfl
  | cons c cs ih =>
    rw [List.forall_mem_cons] at all
    rw [String.utf8Len_cons, ih all.2, utf8Size_of_isDigit all.1, List.length_cons]

/-- Among digits the offset of a byte is the place of a character. -/
theorem cutAtByte?_digits (all : ∀ c ∈ cs, c.isDigit = true) (places : Nat) :
    cutAtByte? (min (utf8Len cs) places) cs = some (cs.take places, cs.drop places) := by
  have taken : utf8Len (cs.take places) = min (utf8Len cs) places := by
    rw [utf8Len_digits fun c mem => all c (List.mem_of_mem_take mem), utf8Len_digits all,
      List.length_take, Nat.min_comm]
  rw [← taken, cutAtByte?_eq_some_iff]
  exact ⟨(List.take_append_drop places cs).symm, rfl⟩

/-- A character of one byte is told by the first byte of a text. -/
theorem eq_of_first_byte {c d : Char} {byte : UInt8} {rest : List UInt8}
    (first : utf8EncodeChar c = byte :: rest) (single : utf8EncodeChar d = [byte]) : c = d := by
  have same : utf8EncodeChar c ++ [] = utf8EncodeChar d ++ rest := by
    rw [first, single, List.append_nil, List.singleton_append]
  -- No character's bytes begin those of another one.
  rcases lt_trichotomy c d with less | equal | greater
  · have before := encoded_lt less [] rest
    rw [same] at before
    exact absurd before (List.lt_irrefl _)
  · exact equal
  · have after := encoded_lt greater rest []
    rw [same] at after
    exact absurd after (List.lt_irrefl _)

end Retention.Text
