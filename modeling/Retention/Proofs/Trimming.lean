import Mathlib.Data.List.DropRight
import Mathlib.Data.List.TakeWhile
import Retention.Annotation

/-!
# Trimmed texts

A trimmed text is what is left between two runs of blanks, and begins and ends with no blank
(`Text.trim_eq_iff`).  `Metadata.isPreserved_iff` reads the preserve annotation this way.
-/

namespace Retention

namespace Text

variable {cs core before after : List Char}

theorem trimStart_append (blank : ∀ c ∈ before, isBlank c = true)
    (head : ∀ c ∈ core.head?, isBlank c = false) : trimStart (before ++ core) = core := by
  rw [trimStart, List.dropWhile_append_of_pos blank]
  cases core with
  | nil => rfl
  | cons c rest => exact List.dropWhile_cons_of_neg (by simp [head c rfl])

theorem trimEnd_append (blank : ∀ c ∈ after, isBlank c = true)
    (last : ∀ c ∈ core.getLast?, isBlank c = false) : trimEnd (core ++ after) = core := by
  have reversed : trimStart (after.reverse ++ core.reverse) = core.reverse := by
    apply trimStart_append
    · simpa using blank
    · simpa using last
  rw [trimEnd, List.reverse_append, ← trimStart, reversed, List.reverse_reverse]

theorem head_trimStart (cs : List Char) : ∀ c ∈ (trimStart cs).head?, isBlank c = false := by
  intro c first
  have stops := List.head?_dropWhile_not isBlank cs
  rw [← trimStart, Option.mem_def.mp first] at stops
  simpa using stops

theorem getLast_trimEnd (cs : List Char) : ∀ c ∈ (trimEnd cs).getLast?, isBlank c = false := by
  intro c last
  rw [trimEnd, List.getLast?_reverse] at last
  exact head_trimStart cs.reverse c last

theorem trimEnd_prefix (cs : List Char) : trimEnd cs <+: cs :=
  List.rdropWhile_prefix isBlank cs

/-- A trimmed text is the part between blanks that begins and ends with no blank. -/
theorem trim_eq_iff :
    trim cs = core ↔ ∃ before after, cs = before ++ core ++ after ∧
      (∀ c ∈ before, isBlank c = true) ∧ (∀ c ∈ after, isBlank c = true) ∧
      (∀ c ∈ core.head?, isBlank c = false) ∧ (∀ c ∈ core.getLast?, isBlank c = false) := by
  constructor
  · rintro rfl
    refine ⟨cs.takeWhile isBlank, ((trimStart cs).reverse.takeWhile isBlank).reverse, ?_, ?_, ?_,
      ?_, ?_⟩
    · have tail : trimStart cs =
          trim cs ++ ((trimStart cs).reverse.takeWhile isBlank).reverse := by
        rw [trim, trimEnd, ← List.reverse_append, List.takeWhile_append_dropWhile,
          List.reverse_reverse]
      rw [List.append_assoc, ← tail, trimStart, List.takeWhile_append_dropWhile]
    · exact fun c => List.mem_takeWhile_imp
    · intro c mem
      exact List.mem_takeWhile_imp (List.mem_reverse.mp mem)
    · intro c first
      obtain ⟨rest, whole⟩ := trimEnd_prefix (trimStart cs)
      apply head_trimStart cs c
      rw [← whole, List.head?_append, ← trim, Option.mem_def.mp first]
      rfl
    · exact getLast_trimEnd (trimStart cs)
  · rintro ⟨before, after, rfl, blankBefore, blankAfter, head, last⟩
    cases core with
    | nil =>
      have blank : ∀ c ∈ before ++ [] ++ after, isBlank c = true := by
        intro c mem
        rcases List.mem_append.mp mem with first | second
        · exact blankBefore c (by simpa using first)
        · exact blankAfter c second
      have none : trimStart (before ++ [] ++ after ++ []) = [] :=
        trimStart_append blank (by simp)
      rw [List.append_nil] at none
      rw [trim, none]
      rfl
    | cons c rest =>
      rw [trim, List.append_assoc, trimStart_append blankBefore (by simpa using head),
        trimEnd_append blankAfter last]

end Text

/-- A blank is no letter, so it has no other case. -/
theorem toLower_of_isBlank {c : Char} (blank : Text.isBlank c = true) : c.toLower = c := by
  unfold Char.toLower
  split
  next upper =>
    have low : 65 ≤ c.toNat := upper.1
    have high : c.toNat ≤ 90 := upper.2
    simp only [Text.isBlank, Bool.or_eq_true, Bool.and_eq_true, decide_eq_true_eq,
      beq_iff_eq] at blank
    omega
  next => rfl

/-- Nothing but blanks stands around the word `true`, in whatever case it is written. -/
def ReadsTrue (text : String) : Prop :=
  ∃ before word after, text.toList = before ++ word ++ after ∧
    (∀ c ∈ before, Text.isBlank c = true) ∧ (∀ c ∈ after, Text.isBlank c = true) ∧
    word.map Char.toLower = ['t', 'r', 'u', 'e']

theorem saysTrue_iff {text : String} : saysTrue text = true ↔ ReadsTrue text := by
  unfold saysTrue ReadsTrue
  rw [decide_eq_true_iff]
  constructor
  · intro word
    obtain ⟨before, after, whole, blankBefore, blankAfter, -⟩ :=
      Text.trim_eq_iff.mp (rfl : Text.trim text.toList = _)
    exact ⟨before, _, after, whole, blankBefore, blankAfter, word⟩
  · rintro ⟨before, word, after, whole, blankBefore, blankAfter, spelt⟩
    have visible : ∀ c ∈ word, Text.isBlank c = false := by
      intro c mem
      by_contra blank
      have lower := List.mem_map_of_mem (f := Char.toLower) mem
      rw [toLower_of_isBlank (Bool.not_eq_false _ ▸ blank), spelt] at lower
      simp only [List.mem_cons, List.not_mem_nil, or_false] at lower
      rcases lower with rfl | rfl | rfl | rfl <;> exact blank rfl
    have trimmed : Text.trim text.toList = word := by
      apply Text.trim_eq_iff.mpr
      refine ⟨before, after, whole, blankBefore, blankAfter, ?_, ?_⟩
      · exact fun c first => visible c (List.mem_of_mem_head? first)
      · exact fun c last => visible c (List.mem_of_mem_getLast? last)
    rw [trimmed, spelt]

/-- An object asks to be kept by its annotation only. -/
theorem Metadata.isPreserved_iff {m : Metadata} :
    m.isPreserved = true ↔
      ∃ text, m.annotations.bind (·.get? preserveAnnotation) = some text ∧ ReadsTrue text := by
  unfold isPreserved
  cases m.annotations.bind (·.get? preserveAnnotation) with
  | none => simp
  | some text => simp [saysTrue_iff]

end Retention
