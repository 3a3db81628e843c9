import Retention.Json.Reader
import Retention.Json.Writer
import Retention.Proofs.Digits

/-!
# JSON as text

A JSON value is read back from the compact text that `Json.write` gives (`read?_write`), as long as
JSON has a text for it: its numbers must be what their text is read as, and it must not be nested
deeper than a reader goes.  `Legible` says so of a value, and the proof goes by induction on it.

A number is read together with what follows it, so its text must not go on as a number does
(`readNumber?_append`).  Strings have their closing quote, and all else ends by itself.
-/

namespace Retention.Json

open Text

/-! ## Numbers -/

/-- The characters with which a number can go on. -/
def continuesNumber (c : Char) : Bool :=
  c.isDigit || c == '.' || c == 'e' || c == 'E'

/-- Whether a number begins with a minus sign, and the text after the sign. -/
def signOf : List Char → Bool × List Char
  | '-' :: rest => (true, rest)
  | rest => (false, rest)

/-- Whether the exponent of a number has a minus sign, and the text after any sign. -/
def exponentSignOf : List Char → Bool × List Char
  | '-' :: digits => (true, digits)
  | '+' :: digits => (false, digits)
  | digits => (false, digits)

/-- The digits after the point of a number, where it has a point, and the text after them. -/
def fractionOf? : List Char → Option (List Char × List Char)
  | '.' :: rest =>
    if (rest.takeWhile Char.isDigit).isEmpty then none
    else some (rest.takeWhile Char.isDigit, rest.dropWhile Char.isDigit)
  | rest => some ([], rest)

/-- The number of digits after a sign. -/
def signedValue (negative : Bool) (digits : List Char) : Int :=
  if negative then -digitsValue digits else digitsValue digits

section Numbers

variable {text rest left : List Char}

theorem fractionOf?_of_ne {c : Char} (other : c ≠ '.') (text : List Char) :
    fractionOf? (c :: text) = some ([], c :: text) := by
  simp [fractionOf?, other]

theorem readExponent?_cons (c : Char) (text : List Char) :
    Decimal.readExponent? (c :: text) =
      if c = 'e' ∨ c = 'E' then
        if ((exponentSignOf text).2.takeWhile Char.isDigit).isEmpty then none
        else
          some (signedValue (exponentSignOf text).1
              ((exponentSignOf text).2.takeWhile Char.isDigit),
            (exponentSignOf text).2.dropWhile Char.isDigit)
      else some (0, c :: text) := rfl

theorem readNumber?_eq (text : List Char) :
    readNumber? text =
      let whole := (signOf text).2.takeWhile Char.isDigit
      let after := (signOf text).2.dropWhile Char.isDigit
      if whole.isEmpty || (whole.head? == some '0' && whole.length ≠ 1) then none
      else (fractionOf? after).bind fun (fraction, afterFraction) =>
        (Decimal.readExponent? afterFraction).bind fun (exponent, rest) =>
          let value := signedValue (signOf text).1 whole
          if decide (rest.length = after.length) && fitsWord value &&
              !((signOf text).1 && (digitsValue whole : Int) = 0) then
            some (integer value, rest)
          else if Decimal.fitsDouble ⟨whole, fraction, exponent⟩ then
            some (real (String.ofList (text.take (text.length - rest.length))), rest)
          else none := rfl

theorem signOf_append (shown : text ≠ []) (rest : List Char) :
    signOf (text ++ rest) = ((signOf text).1, (signOf text).2 ++ rest) := by
  obtain ⟨c, text, rfl⟩ := List.exists_cons_of_ne_nil shown
  rw [List.cons_append]
  by_cases minus : c = '-'
  · subst minus
    rfl
  · simp [signOf, minus]

theorem exponentSignOf_append (shown : text ≠ []) (rest : List Char) :
    exponentSignOf (text ++ rest) = ((exponentSignOf text).1, (exponentSignOf text).2 ++ rest) := by
  obtain ⟨c, text, rfl⟩ := List.exists_cons_of_ne_nil shown
  rw [List.cons_append]
  by_cases minus : c = '-'
  · subst minus
    rfl
  · by_cases plus : c = '+'
    · subst plus
      rfl
    · simp [exponentSignOf, minus, plus]

/-! ### What follows a number -/

theorem not_continues {c : Char} (other : continuesNumber c = false) :
    c.isDigit = false ∧ c ≠ '.' ∧ c ≠ 'e' ∧ c ≠ 'E' := by
  simpa [continuesNumber, and_assoc] using other

variable (ends : Ends continuesNumber rest)

include ends

theorem ends_digits : Ends Char.isDigit rest :=
  fun c first => (not_continues (ends c first)).1

theorem fractionOf?_append {fraction : List Char} (read : fractionOf? text = some (fraction, left)) :
    fractionOf? (text ++ rest) = some (fraction, left ++ rest) := by
  cases text with
  | nil =>
    cases read
    cases rest with
    | nil => rfl
    | cons c rest =>
      obtain ⟨-, other, -, -⟩ := not_continues (ends c rfl)
      exact fractionOf?_of_ne other rest
  | cons c text =>
    rw [List.cons_append]
    by_cases point : c = '.'
    · subst point
      rw [fractionOf?] at read ⊢
      rw [takeWhile_append_of_ends (ends_digits ends), dropWhile_append_of_ends (ends_digits ends)]
      split at read
      · cases read
      next digits =>
        cases read
        rw [if_neg digits]
    · rw [fractionOf?_of_ne point] at read ⊢
      cases read
      rfl

/-- An exponent is read as before with a text after it that does not go on as a number does. -/
theorem readExponent?_append {exponent : Int}
    (read : Decimal.readExponent? text = some (exponent, left)) :
    Decimal.readExponent? (text ++ rest) = some (exponent, left ++ rest) := by
  cases text with
  | nil =>
    cases read
    cases rest with
    | nil => rfl
    | cons c rest =>
      obtain ⟨-, -, lower, upper⟩ := not_continues (ends c rfl)
      rw [List.nil_append, readExponent?_cons, if_neg (not_or.mpr ⟨lower, upper⟩)]
  | cons c text =>
    rw [List.cons_append]
    rw [readExponent?_cons] at read ⊢
    split at read
    next marked =>
      rw [if_pos marked]
      split at read
      · cases read
      next digits =>
        have shown : text ≠ [] := by
          rintro rfl
          exact digits rfl
        rw [exponentSignOf_append shown, takeWhile_append_of_ends (ends_digits ends),
          dropWhile_append_of_ends (ends_digits ends), if_neg digits]
        cases read
        rfl
    next unmarked =>
      rw [if_neg unmarked]
      cases read
      rfl

/-- A number is read as before with a text after it that does not go on as a number does. -/
theorem readNumber?_append {value : Json} (read : readNumber? text = some (value, left)) :
    readNumber? (text ++ rest) = some (value, left ++ rest) := by
  have shown : text ≠ [] := by
    rintro rfl
    cases read
  rw [readNumber?_eq] at read ⊢
  simp only [signOf_append shown, takeWhile_append_of_ends (ends_digits ends),
    dropWhile_append_of_ends (ends_digits ends)] at read ⊢
  split at read
  · cases read
  next digits =>
    rw [if_neg digits]
    obtain ⟨⟨fraction, afterFraction⟩, point, read⟩ := Option.bind_eq_some_iff.mp read
    obtain ⟨⟨exponent, last⟩, power, read⟩ := Option.bind_eq_some_iff.mp read
    rw [fractionOf?_append ends point, Option.bind_some, readExponent?_append ends power,
      Option.bind_some]
    -- What is left over decides whether the number is whole, and where its text ends; both are
    -- the same with `rest` after it.
    have plain : (last ++ rest).length =
        ((signOf text).2.dropWhile Char.isDigit ++ rest).length ↔
          last.length = ((signOf text).2.dropWhile Char.isDigit).length := by
      simp only [List.length_append]
      omega
    have same : (text ++ rest).take ((text ++ rest).length - (last ++ rest).length) =
        text.take (text.length - last.length) := by
      have length : (text ++ rest).length - (last ++ rest).length = text.length - last.length := by
        simp only [List.length_append]
        omega
      rw [length, List.take_append_of_le_length (by omega)]
    simp only [plain, same] at read ⊢
    split at read
    next whole =>
      cases read
      rw [if_pos whole]
    next notWhole =>
      rw [if_neg notWhole]
      split at read
      next fits =>
        cases read
        rw [if_pos fits]
      next => cases read

end Numbers

/-! ### Integers -/

/-- The digits of a number begin with zero only where it is zero. -/
theorem head?_toDigits {n : Nat} (positive : 0 < n) : (Nat.toDigits 10 n).head? ≠ some '0' := by
  induction n using Nat.strongRecOn with
  | ind n ih =>
    rw [Nat.toDigits_eq_if (by decide)]
    split
    next small =>
      intro zero
      rw [List.head?_cons, Option.some.injEq, Nat.digitChar_eq_zero] at zero
      omega
    next large =>
      obtain ⟨c, cs, digits⟩ := List.exists_cons_of_ne_nil (Nat.toDigits_ne_nil (n := n / 10) (b := 10))
      have head := ih (n / 10) (by omega) (by omega)
      rw [digits] at head ⊢
      exact head

theorem unpadded_toDigits (n : Nat) :
    ((Nat.toDigits 10 n).head? == some '0' && decide ((Nat.toDigits 10 n).length ≠ 1)) = false := by
  cases n with
  | zero => rfl
  | succ n =>
    have head := head?_toDigits (Nat.succ_pos n)
    rw [beq_eq_false_iff_ne.mpr head, Bool.false_and]

/-- The digits of a number are read as the number, or as its negative after a minus sign. -/
theorem readNumber?_of_signOf {text : List Char} {negative : Bool} {n : Nat}
    (parts : signOf text = (negative, Nat.toDigits 10 n))
    (fits : fitsWord (signedValue negative (Nat.toDigits 10 n)) = true)
    (unsigned : negative = true → n ≠ 0) :
    readNumber? text = some (integer (signedValue negative (Nat.toDigits 10 n)), []) := by
  have all : ∀ c ∈ Nat.toDigits 10 n, c.isDigit = true := fun _ => isDigit_of_mem_toDigits
  have shown : (Nat.toDigits 10 n).isEmpty = false := by simp
  rw [readNumber?_eq]
  simp only [parts, takeWhile_of_all all, dropWhile_of_all all, shown, unpadded_toDigits,
    Bool.or_false, Bool.false_eq_true, if_false]
  simpa [fractionOf?, Decimal.readExponent?, fits, digitsValue_toDigits] using unsigned

theorem readNumber?_integer {value : Int} (fits : fitsWord value = true) :
    readNumber? (toString value).toList = some (integer value, []) := by
  rw [Int.toString_eq_repr, Int.repr_eq_if]
  split
  next positive =>
    have same : signedValue false (Nat.toDigits 10 value.toNat) = value := by
      rw [signedValue, digitsValue_toDigits]
      exact Int.toNat_of_nonneg positive
    have parts : signOf (Nat.toDigits 10 value.toNat) = (false, Nat.toDigits 10 value.toNat) := by
      cases digits : Nat.toDigits 10 value.toNat with
      | nil => rfl
      | cons c cs =>
        have digit : c.isDigit = true := isDigit_of_mem_toDigits (digits ▸ List.mem_cons_self)
        have other : c ≠ '-' := by
          rintro rfl
          cases digit
        simp [signOf, other]
    have read := readNumber?_of_signOf parts (same.symm ▸ fits) nofun
    rwa [same, ← Nat.toList_repr] at read
  next negative =>
    have same : signedValue true (Nat.toDigits 10 (-value).toNat) = value := by
      rw [signedValue, digitsValue_toDigits, if_pos rfl]
      omega
    have parts : signOf ('-' :: Nat.toDigits 10 (-value).toNat) =
        (true, Nat.toDigits 10 (-value).toNat) := rfl
    have read := readNumber?_of_signOf parts (same.symm ▸ fits) fun _ => by omega
    rw [same] at read
    rw [String.toList_append, Nat.toList_repr]
    exact read

/-! ## Strings -/

theorem hexNumber?_control : ∀ n < 32,
    hexNumber? ['0', '0', Nat.digitChar (n / 16), Nat.digitChar (n % 16)] = some n := by
  decide

theorem readUnits?_shown {c : Char} (quote : c ≠ '"') (backslash : c ≠ '\\')
    (shown : ¬ c.toNat < 0x20) (rest : List Char) :
    readUnits? (c :: rest) =
      (readUnits? rest).map fun (units, after) => (c.toNat :: units, after) := by
  rw [readUnits?.eq_def]
  split
  next none => cases none
  next same => exact absurd (List.cons.inj same).1 quote
  next same => exact absurd (List.cons.inj same).1 backslash
  next same => exact absurd (List.cons.inj same).1 backslash
  next same =>
    cases same
    rw [if_neg shown]

/-- Each character of a string is read as its code point. -/
theorem readUnits?_writtenChar (c : Char) (rest : List Char) :
    readUnits? (writtenChar c ++ rest) =
      (readUnits? rest).map fun (units, after) => (c.toNat :: units, after) := by
  unfold writtenChar
  split
  case h_8 quote backslash _ _ _ _ _ =>
    split
    next control =>
      rw [List.append_assoc]
      simp only [controlDigits, List.cons_append, List.nil_append]
      rw [readUnits?, hexNumber?_control _ control, Option.bind_some]
    next shown => exact readUnits?_shown quote backslash shown rest
  all_goals rfl

/-- The code points of characters are these characters. -/
theorem joinSurrogates?_map_toNat (cs : List Char) : joinSurrogates? (cs.map Char.toNat) = some cs := by
  induction cs with
  | nil => rfl
  | cons c cs ih =>
    have valid : c.toNat < 0xD800 ∨ 0xDFFF < c.toNat ∧ c.toNat < 0x110000 := c.valid
    rw [List.map_cons, joinSurrogates?.eq_def]
    simp only
    rw [if_neg (by omega), if_neg (by omega), ih, Option.map_some, Char.ofNat_toNat]

/-- A string is read up to its closing quote. -/
theorem readString?_written (s : String) (rest : List Char) :
    readString? (s.toList.flatMap writtenChar ++ '"' :: rest) = some (s, rest) := by
  have units (cs : List Char) : readUnits? (cs.flatMap writtenChar ++ '"' :: rest) =
      some (cs.map Char.toNat, rest) := by
    induction cs with
    | nil => rfl
    | cons c cs ih =>
      rw [List.flatMap_cons, List.append_assoc, readUnits?_writtenChar, ih]
      rfl
  simp only [readString?, units, Option.bind_some, joinSurrogates?_map_toNat, Option.map_some,
    String.ofList_toList]

/-! ## Values -/

/-- A value for which there is a JSON text, nested at most `depth` deep: its integers fit a word, and
its other numbers are read as they are written. -/
inductive Legible : Nat → Json → Prop
  | null {depth : Nat} : Legible depth null
  | bool {depth : Nat} (value : Bool) : Legible depth (bool value)
  | integer {depth : Nat} {value : Int} : fitsWord value = true → Legible depth (integer value)
  | real {depth : Nat} {text : String} :
    readNumber? text.toList = some (real text, []) → Legible depth (real text)
  | string {depth : Nat} (value : String) : Legible depth (string value)
  | array {depth : Nat} {items : List Json} :
    (∀ item ∈ items, Legible depth item) → Legible (depth + 1) (array items)
  | object {depth : Nat} {members : List (String × Json)} :
    (∀ member ∈ members, Legible depth member.2) → Legible (depth + 1) (object members)

theorem toList_write_string (s : String) :
    (string s).write.toList = '"' :: (s.toList.flatMap writtenChar ++ ['"']) := by
  simp [write, writtenString]

/-- The characters of a member of an object. -/
def memberText (member : String × Json) : List Char :=
  '"' :: (member.1.toList.flatMap writtenChar ++ '"' :: ':' :: member.2.write.toList)

theorem toList_write_array (items : List Json) :
    (array items).write.toList =
      '[' :: ([','].intercalate (items.map fun item => item.write.toList) ++ [']']) := by
  have texts : (writeItems items).map String.toList = items.map fun item => item.write.toList := by
    induction items with
    | nil => rfl
    | cons item items ih => rw [writeItems, List.map_cons, List.map_cons, ih]
  simp [write, String.toList_intercalate, texts]

theorem toList_write_object (members : List (String × Json)) :
    (object members).write.toList =
      '\x7b' :: ([','].intercalate (members.map memberText) ++ ['\x7d']) := by
  have texts : (writeMembers members).map String.toList = members.map memberText := by
    induction members with
    | nil => rfl
    | cons member members ih =>
      obtain ⟨name, value⟩ := member
      rw [writeMembers, List.map_cons, List.map_cons, ih]
      simp [memberText, writtenString]
  simp [write, String.toList_intercalate, texts]

/-- The characters with which a number can begin. -/
def StartsNumber (c : Char) : Prop := c = '-' ∨ c.isDigit = true

theorem StartsNumber.ne {c other : Char} (starts : StartsNumber c) (unsigned : other ≠ '-')
    (letter : other.isDigit = false) : c ≠ other := by
  rintro rfl
  rcases starts with minus | digit
  · exact unsigned minus
  · cases letter.symm.trans digit

theorem exists_startsNumber {text left : List Char} {value : Json}
    (read : readNumber? text = some (value, left)) : ∃ c cs, text = c :: cs ∧ StartsNumber c := by
  cases text with
  | nil => cases read
  | cons c cs =>
    refine ⟨c, cs, rfl, ?_⟩
    by_cases minus : c = '-'
    · exact .inl minus
    · cases digit : c.isDigit with
      | true => exact .inr digit
      | false =>
        have sign : signOf (c :: cs) = (false, c :: cs) := by simp [signOf, minus]
        simp [readNumber?_eq, sign, digit] at read

theorem readValue?_number {fuel depth : Nat} {c : Char} {cs : List Char}
    (starts : StartsNumber c) :
    readValue? (fuel + 1) depth (c :: cs) = readNumber? (c :: cs) := by
  rw [readValue?.eq_def]
  simp only
  split
  case h_1 none => cases none
  case h_8 => rfl
  -- Each other case is for a character of its own.
  all_goals
    next same => exact absurd (List.cons.inj same).1 (starts.ne (by decide) (by decide))

theorem skipSpace_cons (c : Char) (shown : isSpace c = false) (cs : List Char) :
    skipSpace (c :: cs) = c :: cs :=
  (ends_cons shown).dropWhile_eq

/-- A text begins with a character that is no space, and is no end of an array. -/
def Begins (text : List Char) : Prop :=
  ∃ c cs, text = c :: cs ∧ isSpace c = false ∧ c ≠ ']'

theorem Begins.skipSpace_append {text : List Char} (begins : Begins text) (rest : List Char) :
    skipSpace (text ++ rest) = text ++ rest := by
  obtain ⟨c, cs, rfl, shown, -⟩ := begins
  exact skipSpace_cons c shown (cs ++ rest)

theorem begins_of_readNumber? {text left : List Char} {value : Json}
    (read : readNumber? text = some (value, left)) : Begins text := by
  obtain ⟨c, cs, rfl, starts⟩ := exists_startsNumber read
  refine ⟨c, cs, rfl, ?_, starts.ne (by decide) (by decide)⟩
  simp [isSpace, starts.ne (show ' ' ≠ '-' by decide), starts.ne (show '\n' ≠ '-' by decide),
    starts.ne (show '\t' ≠ '-' by decide), starts.ne (show '\r' ≠ '-' by decide)]

theorem Legible.begins {depth : Nat} {json : Json} (legible : Legible depth json) :
    Begins json.write.toList := by
  cases legible with
  | null => exact ⟨_, _, rfl, rfl, by decide⟩
  | bool value => cases value <;> exact ⟨_, _, rfl, rfl, by decide⟩
  | integer fits => exact begins_of_readNumber? (readNumber?_integer fits)
  | real read => exact begins_of_readNumber? read
  | string value => exact ⟨'"', _, toList_write_string value, rfl, by decide⟩
  | array _ => exact ⟨'[', _, toList_write_array _, rfl, by decide⟩
  | object _ => exact ⟨'\x7b', _, toList_write_object _, rfl, by decide⟩

/-- The value is read off the start of a text that begins with it and goes on as no number does.  It
takes no more calls than its text has characters. -/
def ReadsBack (depth : Nat) (json : Json) : Prop :=
  ∀ fuel rest, Ends continuesNumber rest → json.write.toList.length ≤ fuel →
    readValue? fuel depth (json.write.toList ++ rest) = some (json, rest)

section Parts

variable {depth fuel : Nat} {rest : List Char}

theorem ends_of_closing {c : Char} (closing : c = ',' ∨ c = ']' ∨ c = '\x7d') (rest : List Char) :
    Ends continuesNumber (c :: rest) := by
  rcases closing with rfl | rfl | rfl <;> exact ends_cons rfl

/-- The items of an array are read up to its bracket. -/
theorem readItems?_written {first : Json} {items : List Json}
    (each : ∀ item ∈ first :: items, ReadsBack depth item ∧ Begins item.write.toList)
    (enough : ([','].intercalate ((first :: items).map fun item => item.write.toList)).length <
      fuel) :
    readItems? fuel depth
      ([','].intercalate ((first :: items).map fun item => item.write.toList) ++ ']' :: rest) =
        some (first :: items, rest) := by
  induction items generalizing first fuel with
  | nil =>
    obtain ⟨reads, begins⟩ := each first List.mem_cons_self
    simp only [List.map_cons, List.map_nil, List.intercalate_singleton] at enough ⊢
    obtain ⟨fuel, rfl⟩ := Nat.exists_eq_add_of_lt enough
    rw [readItems?, begins.skipSpace_append,
      reads _ _ (ends_of_closing (.inr (.inl rfl)) rest) (by omega)]
    rfl
  | cons second items ih =>
    obtain ⟨reads, begins⟩ := each first List.mem_cons_self
    rw [List.forall_mem_cons] at each
    rw [List.map_cons, List.map_cons, List.intercalate_cons_cons] at enough ⊢
    simp only [List.length_append, List.length_cons, List.length_nil] at enough
    obtain ⟨fuel, rfl⟩ : ∃ less, fuel = less + 1 := ⟨fuel - 1, by omega⟩
    have others : readItems? fuel depth
        ([','].intercalate (second.write.toList :: items.map fun item => item.write.toList) ++
          ']' :: rest) = some (second :: items, rest) :=
      ih each.2 (by rw [List.map_cons]; omega)
    rw [List.append_assoc, List.append_assoc, List.cons_append, List.nil_append, readItems?,
      begins.skipSpace_append, reads _ _ (ends_of_closing (.inl rfl) _) (by omega)]
    change (readItems? fuel depth _).map _ = _
    rw [others]
    rfl

theorem memberText_append (member : String × Json) (rest : List Char) :
    memberText member ++ rest =
      '"' :: (member.1.toList.flatMap writtenChar ++ '"' :: ':' :: (member.2.write.toList ++ rest)) := by
  simp [memberText]

theorem length_write_le_memberText (member : String × Json) :
    member.2.write.toList.length ≤ (memberText member).length := by
  simp only [memberText, List.length_cons, List.length_append]
  omega

/-- A member is read as its name and its value.  With a brace after it, it is the last. -/
theorem readMembers?_last {member : String × Json} (reads : ReadsBack depth member.2)
    (begins : Begins member.2.write.toList) (enough : (memberText member).length ≤ fuel) :
    readMembers? (fuel + 1) depth (memberText member ++ '\x7d' :: rest) =
      some ([member], rest) := by
  have length := Nat.le_trans (length_write_le_memberText member) enough
  have value := reads fuel ('\x7d' :: rest) (ends_of_closing (.inr (.inr rfl)) rest) length
  rw [memberText_append, readMembers?.eq_def]
  simp only [skipSpace_cons '"' rfl, readString?_written, skipSpace_cons ':' rfl,
    begins.skipSpace_append, value, skipSpace_cons '\x7d' rfl]

/-- With a comma after a member, others are read. -/
theorem readMembers?_next {member : String × Json} (reads : ReadsBack depth member.2)
    (begins : Begins member.2.write.toList) (enough : (memberText member).length ≤ fuel) :
    readMembers? (fuel + 1) depth (memberText member ++ ',' :: rest) =
      (readMembers? fuel depth rest).map fun read => (member :: read.1, read.2) := by
  have length := Nat.le_trans (length_write_le_memberText member) enough
  have value := reads fuel (',' :: rest) (ends_of_closing (.inl rfl) rest) length
  rw [memberText_append, readMembers?.eq_def]
  simp only [skipSpace_cons '"' rfl, readString?_written, skipSpace_cons ':' rfl,
    begins.skipSpace_append, value, skipSpace_cons ',' rfl]

/-- The members of an object are read up to its brace. -/
theorem readMembers?_written {first : String × Json} {members : List (String × Json)}
    (each : ∀ member ∈ first :: members,
      ReadsBack depth member.2 ∧ Begins member.2.write.toList)
    (enough : ([','].intercalate ((first :: members).map memberText)).length < fuel) :
    readMembers? fuel depth
      ([','].intercalate ((first :: members).map memberText) ++ '\x7d' :: rest) =
        some (first :: members, rest) := by
  induction members generalizing first fuel with
  | nil =>
    obtain ⟨reads, begins⟩ := each first List.mem_cons_self
    simp only [List.map_cons, List.map_nil, List.intercalate_singleton] at enough ⊢
    obtain ⟨fuel, rfl⟩ : ∃ less, fuel = less + 1 := ⟨fuel - 1, by omega⟩
    exact readMembers?_last reads begins (by omega)
  | cons second members ih =>
    obtain ⟨reads, begins⟩ := each first List.mem_cons_self
    rw [List.forall_mem_cons] at each
    rw [List.map_cons, List.map_cons, List.intercalate_cons_cons] at enough ⊢
    simp only [List.length_append, List.length_cons, List.length_nil] at enough
    obtain ⟨fuel, rfl⟩ : ∃ less, fuel = less + 1 := ⟨fuel - 1, by omega⟩
    have others : readMembers? fuel depth
        ([','].intercalate (memberText second :: members.map memberText) ++ '\x7d' :: rest) =
          some (second :: members, rest) :=
      ih each.2 (by rw [List.map_cons]; omega)
    rw [List.append_assoc, List.append_assoc, List.cons_append, List.nil_append,
      readMembers?_next reads begins (by omega), others, Option.map_some]

end Parts

theorem Begins.length_pos {text : List Char} (begins : Begins text) : 0 < text.length := by
  obtain ⟨c, cs, rfl, -⟩ := begins
  exact Nat.succ_pos cs.length

/-- Joined texts begin with the first of them. -/
theorem exists_intercalate_eq (first : List Char) (texts : List (List Char)) :
    ∃ more, [','].intercalate (first :: texts) = first ++ more := by
  cases texts with
  | nil => exact ⟨[], by simp⟩
  | cons second texts =>
    rw [List.intercalate_cons_cons, List.append_assoc]
    exact ⟨_, rfl⟩

theorem Begins.intercalate {first : List Char} (begins : Begins first) (texts : List (List Char)) :
    Begins ([','].intercalate (first :: texts)) := by
  obtain ⟨c, cs, rfl, shown, other⟩ := begins
  obtain ⟨more, joined⟩ := exists_intercalate_eq (c :: cs) texts
  exact ⟨c, cs ++ more, joined, shown, other⟩

/-- A value that is written as a number is read off as its text is read as a number. -/
theorem readsBack_of_readNumber? {depth : Nat} {json : Json}
    (read : readNumber? json.write.toList = some (json, [])) : ReadsBack depth json := by
  rintro (_ | fuel) rest ends enough
  · exact absurd (begins_of_readNumber? read).length_pos (Nat.not_lt.mpr enough)
  · obtain ⟨c, cs, text, start⟩ := exists_startsNumber read
    have more := readNumber?_append ends read
    rw [text] at more ⊢
    rw [List.cons_append, readValue?_number start]
    exact more

/-- An array that is not empty is read off where its items are. -/
theorem readValue?_array {fuel depth : Nat} {text rest : List Char} {items : List Json}
    (begins : Begins text)
    (read : readItems? fuel depth (text ++ ']' :: rest) = some (items, rest)) :
    readValue? (fuel + 1) (depth + 1) ('[' :: (text ++ [']']) ++ rest) =
      some (array items, rest) := by
  rw [List.cons_append, List.append_assoc, List.singleton_append]
  rw [readValue?]
  simp only [begins.skipSpace_append]
  obtain ⟨c, cs, rfl, -, other⟩ := begins
  rw [List.cons_append] at read ⊢
  split
  next closed => exact absurd (List.cons.inj closed).1 other
  next => rw [read, Option.map_some]

/-- An object that is not empty is read off where its members are. -/
theorem readValue?_object {fuel depth : Nat} {text rest : List Char}
    {members : List (String × Json)} (begins : ∃ cs, text = '"' :: cs)
    (read : readMembers? fuel depth (text ++ '\x7d' :: rest) = some (members, rest)) :
    readValue? (fuel + 1) (depth + 1) ('\x7b' :: (text ++ ['\x7d']) ++ rest) =
      some (object members, rest) := by
  obtain ⟨cs, rfl⟩ := begins
  rw [List.cons_append, List.append_assoc, List.singleton_append]
  rw [readValue?]
  simp only [List.cons_append, skipSpace_cons '"' rfl] at read ⊢
  change (readMembers? fuel depth _).map _ = _
  rw [read, Option.map_some]

/-- Every legible value is read back wherever its text stands. -/
theorem Legible.readsBack {depth : Nat} {json : Json} (legible : Legible depth json) :
    ReadsBack depth json := by
  -- By induction on the value: an array or object hands one call and one level to its parts.
  induction legible with
  | null =>
    rintro (_ | fuel) rest - enough
    · cases enough
    · rfl
  | bool value =>
    rintro (_ | fuel) rest - enough
    · cases value <;> cases enough
    · cases value <;> rfl
  | integer fits => exact readsBack_of_readNumber? (readNumber?_integer fits)
  | real read => exact readsBack_of_readNumber? read
  | string value =>
    rintro (_ | fuel) rest - enough
    · rw [toList_write_string] at enough
      cases enough
    · rw [toList_write_string, List.cons_append, List.append_assoc, readValue?.eq_def]
      simp only [List.cons_append, List.nil_append, readString?_written, Option.map_some]
  | @array depth items each ih =>
    rintro (_ | fuel) rest - enough
    · rw [toList_write_array] at enough
      cases enough
    · rw [toList_write_array] at enough ⊢
      cases items with
      | nil => rfl
      | cons first items =>
        simp only [List.length_cons, List.length_append, List.length_nil] at enough
        exact readValue?_array ((each first List.mem_cons_self).begins.intercalate _)
          (readItems?_written (fun item mem => ⟨ih item mem, (each item mem).begins⟩)
            (Nat.lt_of_succ_le (Nat.le_of_succ_le_succ enough)))
  | @object depth members each ih =>
    rintro (_ | fuel) rest - enough
    · rw [toList_write_object] at enough
      cases enough
    · rw [toList_write_object] at enough ⊢
      cases members with
      | nil => rfl
      | cons first members =>
        simp only [List.length_cons, List.length_append, List.length_nil] at enough
        obtain ⟨more, joined⟩ := exists_intercalate_eq (memberText first) (members.map memberText)
        exact readValue?_object ⟨_, joined⟩
          (readMembers?_written (fun member mem => ⟨ih member mem, (each member mem).begins⟩)
            (Nat.lt_of_succ_le (Nat.le_of_succ_le_succ enough)))

/-- A value is read back from its text. -/
theorem read?_write {json : Json} (legible : Legible maxDepth json) :
    read? json.write = some json := by
  have begins := legible.begins.skipSpace_append []
  rw [List.append_nil] at begins
  have reads := legible.readsBack (2 * json.write.toList.length + 2) [] ends_nil (by omega)
  rw [List.append_nil] at reads
  simp only [read?, begins, reads]
  rfl

end Retention.Json
