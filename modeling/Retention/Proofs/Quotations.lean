import Mathlib
import Retention.Json.Reader
import Retention.Text.Quoted

/-!
# Quotations

A quoted text shows where it ends: what would end it early is escaped, and `Text.readShown?` takes one
character after the other off it, escaped or not (`Text.readShown?_quotedChar`).  So a text is told by
its quoted form, whatever comes after that (`Text.quoted_append_inj`), and so is a list of texts
(`Text.quotedList_injective`).
-/

namespace Retention

/-! ## Hexadecimal digits -/

namespace Json

theorem hexValue?_digitChar : ∀ d < 16, hexValue? (Nat.digitChar d) = some d := by decide

/-- The hexadecimal digits of a number write it. -/
theorem hexNumber?_toDigits (n : Nat) : hexNumber? (Nat.toDigits 16 n) = some n := by
  induction n using Nat.strongRecOn with
  | ind n ih =>
    rw [Nat.toDigits_eq_if (by decide)]
    split
    next small =>
      simp [hexNumber?, hexValue?_digitChar n small]
    next large =>
      have front : List.foldlM _ 0 (Nat.toDigits 16 (n / 16)) = some (n / 16) :=
        ih (n / 16) (Nat.div_lt_self (by omega) (by decide))
      have last := hexValue?_digitChar (n % 16) (Nat.mod_lt n (by decide))
      rw [hexNumber?, List.foldlM_append, front]
      simp only [Option.bind_eq_bind, Option.bind_some, List.foldlM_cons, List.foldlM_nil, last,
        Option.map_some]
      exact congrArg some (by omega)

/-- No digit is a brace. -/
theorem brace_notMem_toDigits (n : Nat) : '\x7d' ∉ Nat.toDigits 16 n := by
  have digit : ∀ d < 16, '\x7d' ≠ Nat.digitChar d := by decide
  induction n using Nat.strongRecOn with
  | ind n ih =>
    rw [Nat.toDigits_eq_if (by decide)]
    split
    next small =>
      rw [List.mem_singleton]
      exact digit n small
    next large =>
      rw [List.mem_append, List.mem_singleton, not_or]
      exact ⟨ih (n / 16) (Nat.div_lt_self (by omega) (by decide)),
        digit (n % 16) (Nat.mod_lt n (by decide))⟩

end Json

namespace Text

/-! ## Quoted characters -/

/-- The character that a letter after a backslash stands for. -/
def escaped? : Char → Option Char
  | '"' => some '"'
  | '\\' => some '\\'
  | 'n' => some '\n'
  | 'r' => some '\r'
  | 't' => some '\t'
  | '0' => some '\x00'
  | _ => none

/-- The first character that the inside of a quoted text shows, and what comes after it. -/
def readShown? : List Char → Option (Char × List Char)
  | '\\' :: 'u' :: '\x7b' :: rest => do
    let (number, rest) ← cutAt? '\x7d' rest
    (Json.hexNumber? number).map fun n => (Char.ofNat n, rest)
  | '\\' :: c :: rest => (escaped? c).map fun shown => (shown, rest)
  | c :: rest => some (c, rest)
  | [] => none

/-- A character that is not escaped stands for itself. -/
theorem readShown?_plain {c : Char} (plain : c ≠ '\\') (rest : List Char) :
    readShown? (c :: rest) = some (c, rest) := by
  unfold readShown?
  split
  next same =>
    cases same
    exact absurd rfl plain
  next same =>
    cases same
    exact absurd rfl plain
  next same =>
    cases same
    rfl
  next same => cases same

theorem readShown?_number (c : Char) (rest : List Char) :
    readShown? (['\\', 'u', '\x7b'] ++ Nat.toDigits 16 c.toNat ++ ['\x7d'] ++ rest) =
      some (c, rest) := by
  have number : cutAt? '\x7d' (Nat.toDigits 16 c.toNat ++ '\x7d' :: rest) =
      some (Nat.toDigits 16 c.toNat, rest) :=
    cutAt?_eq_some_iff.mpr ⟨rfl, Json.brace_notMem_toDigits c.toNat⟩
  simp only [List.cons_append, List.nil_append, List.append_assoc, readShown?, number,
    Option.bind_eq_bind, Option.bind_some, Json.hexNumber?_toDigits, Option.map_some,
    Char.ofNat_toNat]

/-- A quoted character is read off, whatever comes after it. -/
theorem readShown?_quotedChar (c : Char) (rest : List Char) :
    readShown? (quotedChar c ++ rest) = some (c, rest) := by
  unfold quotedChar
  split
  case h_7 backslash _ _ _ _ =>
    split
    · exact readShown?_number c rest
    · exact readShown?_plain backslash rest
  all_goals rfl

/-! ## Quoted texts -/

/-- The inside of a quoted text ends where it is closed. -/
theorem flatMap_quotedChar_inj {s t xs ys : List Char}
    (same : s.flatMap quotedChar ++ '"' :: xs = t.flatMap quotedChar ++ '"' :: ys) :
    s = t ∧ xs = ys := by
  -- A quote is not quoted as itself, so what shows a character does not begin with one.
  have opens (c : Char) (rest after : List Char) : quotedChar c ++ rest ≠ '"' :: after := by
    intro quote
    have shown := readShown?_quotedChar c rest
    rw [quote, readShown?_plain (by decide)] at shown
    cases shown
    cases quote
  induction s generalizing t with
  | nil =>
    cases t with
    | nil => exact ⟨rfl, List.cons_inj_right '"' |>.mp same⟩
    | cons d t =>
      rw [List.flatMap_cons, List.append_assoc] at same
      exact absurd same.symm (opens d _ _)
  | cons c s ih =>
    cases t with
    | nil =>
      rw [List.flatMap_cons, List.append_assoc] at same
      exact absurd same (opens c _ _)
    | cons d t =>
      rw [List.flatMap_cons, List.flatMap_cons, List.append_assoc, List.append_assoc] at same
      have shown := readShown?_quotedChar c (s.flatMap quotedChar ++ '"' :: xs)
      rw [same, readShown?_quotedChar, Option.some_inj, Prod.mk.injEq] at shown
      obtain ⟨rfl, rfl⟩ := ih shown.2.symm
      exact ⟨congrArg (· :: s) shown.1.symm, rfl⟩

/-- A text is told by its quoted form, whatever comes after that. -/
theorem quoted_append_inj {s t : String} {xs ys : List Char}
    (same : (quoted s).toList ++ xs = (quoted t).toList ++ ys) : s = t ∧ xs = ys := by
  simp only [quoted, String.toList_ofList, List.cons_append, List.append_assoc, List.nil_append,
    List.cons.injEq, true_and] at same
  obtain ⟨texts, rest⟩ := flatMap_quotedChar_inj same
  exact ⟨String.toList_inj.mp texts, rest⟩

/-! ## Lists of quoted texts -/

/-- What comes after the first text of a list: the others, each after a comma, and the bracket. -/
def quotedTail (texts : List String) : List Char :=
  texts.flatMap (fun text => [',', ' '] ++ (quoted text).toList) ++ [']']

theorem toList_quotedList_cons (first : String) (rest : List String) :
    (quotedList (first :: rest)).toList = '[' :: ((quoted first).toList ++ quotedTail rest) := by
  have joined : ([',', ' '].intercalate ((first :: rest).map fun text => (quoted text).toList)) ++
      [']'] = (quoted first).toList ++ quotedTail rest := by
    induction rest generalizing first with
    | nil => simp [quotedTail]
    | cons second rest ih =>
      have later := ih second
      rw [List.map_cons] at later
      rw [List.map_cons, List.map_cons, List.intercalate_cons_cons, List.append_assoc, later]
      simp [quotedTail]
  simpa [quotedList, List.map_map, Function.comp_def] using joined

theorem quotedTail_injective : Function.Injective quotedTail := by
  intro texts others same
  induction texts generalizing others with
  | nil =>
    cases others with
    | nil => rfl
    | cons other others => cases same
  | cons text texts ih =>
    cases others with
    | nil => cases same
    | cons other others =>
      simp only [quotedTail, List.flatMap_cons, List.cons_append, List.nil_append,
        List.append_assoc, List.cons.injEq, true_and] at same
      obtain ⟨rfl, rest⟩ := quoted_append_inj same
      rw [ih rest]

/-- A list of texts is told by its quoted form. -/
theorem quotedList_injective : Function.Injective quotedList := by
  intro texts others same
  have empty : (quotedList []).toList = ['[', ']'] := rfl
  have opens (text : String) (rest : List String) :
      (quotedList (text :: rest)).toList ≠ ['[', ']'] := by
    simp [toList_quotedList_cons, quoted]
  have lists := congrArg String.toList same
  cases texts with
  | nil =>
    cases others with
    | nil => rfl
    | cons other others => exact absurd (empty ▸ lists).symm (opens other others)
  | cons text texts =>
    cases others with
    | nil => exact absurd (empty ▸ lists) (opens text texts)
    | cons other others =>
      rw [toList_quotedList_cons, toList_quotedList_cons, List.cons.injEq] at lists
      obtain ⟨rfl, rest⟩ := quoted_append_inj lists.2
      rw [quotedTail_injective rest]

end Text

end Retention
