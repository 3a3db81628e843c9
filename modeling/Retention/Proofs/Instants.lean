import Retention.Instant.Reader
import Retention.Instant.Writer
import Retention.Proofs.Calendar
import Retention.Proofs.Digits

/-!
# Instants as text

Every instant is read back from its text (`read?_write`): with a sign and more digits where the year
needs them, with whichever fraction it is written, and inside a leap second.  The parts are shown to
be read one by one, each with a text after it that does not begin with a digit of its own.
-/

namespace Retention.Instant

open Text

variable {rest : List Char} {n : Nat}

/-! ## Numbers -/

/-- As many digits as are asked for, or fewer where no digit follows, are read as their number. -/
theorem readNumber?_append {most : Nat} {digits : List Char} (shown : digits ≠ [])
    (all : ∀ c ∈ digits, c.isDigit = true) (fits : digits.length ≤ most)
    (ends : digits.length = most ∨ Ends Char.isDigit rest) :
    readNumber? most (digits ++ rest) = some (digitsValue digits, rest) := by
  have run : ((digits ++ rest).take most).takeWhile Char.isDigit = digits := by
    rw [List.take_append, List.take_of_length_le fits]
    have after : Ends Char.isDigit (rest.take (most - digits.length)) := by
      rcases ends with whole | ends
      · rw [whole, Nat.sub_self]
        exact ends_nil
      · intro c first
        rw [List.head?_take] at first
        split at first
        · cases first
        · exact ends c first
    rw [takeWhile_append_of_ends after, takeWhile_of_all all]
  have nonempty : digits.isEmpty = false := by simpa using shown
  simp only [readNumber?, run, nonempty, Bool.false_eq_true, if_false, List.drop_left]

theorem exists_fixedDigits_succ (count n : Nat) :
    ∃ c cs, fixedDigits (count + 1) n = c :: cs ∧ c.isDigit = true := by
  cases digits : fixedDigits (count + 1) n with
  | nil => cases (length_fixedDigits (count + 1) n).symm.trans (congrArg List.length digits)
  | cons c cs => exact ⟨c, cs, rfl, isDigit_of_mem_fixedDigits (digits ▸ List.mem_cons_self)⟩

/-- A fixed count of digits is read whatever follows. -/
theorem readNumber?_fixedDigits {count : Nat} (fits : n < Nat.pow 10 (count + 1)) :
    readNumber? (count + 1) (fixedDigits (count + 1) n ++ rest) = some (n, rest) := by
  have length := length_fixedDigits (count + 1) n
  have shown : fixedDigits (count + 1) n ≠ [] := by
    intro none
    cases length.symm.trans (congrArg List.length none)
  rw [readNumber?_append shown (fun _ => isDigit_of_mem_fixedDigits) (Nat.le_of_eq length)
    (.inl length), digitsValue_fixedDigits_of_lt fits]

theorem readField?_fixedDigits (fits : n < 100) :
    readField? (fixedDigits 2 n ++ rest) = some (n, rest) := by
  have start : trimStart (fixedDigits 2 n ++ rest) = fixedDigits 2 n ++ rest :=
    trimStart_of_not_blank (isBlank_of_isDigit (isDigit_lastDigit (n / 10)))
  rw [readField?, start]
  exact readNumber?_fixedDigits fits

theorem readNextField?_fixedDigits {separator : Char} (shown : isBlank separator = false)
    (fits : n < 100) :
    readNextField? separator (separator :: (fixedDigits 2 n ++ rest)) = some (n, rest) := by
  have found : afterChar? separator (separator :: (fixedDigits 2 n ++ rest)) =
      some (fixedDigits 2 n ++ rest) := if_pos rfl
  rw [readNextField?, trimStart_of_not_blank shown, found, Option.bind_some,
    readField?_fixedDigits fits]

/-! ## Dates -/

theorem isDigit_of_mem_writtenNumber {count : Nat} {c : Char} (mem : c ∈ writtenNumber count n) :
    c.isDigit = true := by
  unfold writtenNumber at mem
  split at mem
  · exact isDigit_of_mem_fixedDigits mem
  · exact isDigit_of_mem_toDigits mem

theorem digitsValue_writtenNumber (count : Nat) : digitsValue (writtenNumber count n) = n := by
  unfold writtenNumber
  split
  next fits => exact digitsValue_fixedDigits_of_lt fits
  next => exact digitsValue_toDigits n

theorem writtenNumber_ne_nil (count : Nat) : writtenNumber (count + 1) n ≠ [] := by
  unfold writtenNumber
  split
  · obtain ⟨c, cs, digits, -⟩ := exists_fixedDigits_succ count n
    rw [digits]
    exact List.cons_ne_nil c cs
  · exact Nat.toDigits_ne_nil

/-- A year that begins with a digit has no sign. -/
theorem readYear?_unsigned {c : Char} {cs : List Char} (digit : c.isDigit = true) :
    readYear? (c :: cs) = (readNumber? 4 (c :: cs)).map fun (n, rest) => ((n : Int), rest) := by
  unfold readYear?
  split
  next same =>
    cases same
    exact absurd digit (by decide)
  next same =>
    cases same
    exact absurd digit (by decide)
  next => rfl

/-- A year is read up to what comes after its digits. -/
theorem readYear?_writtenYear (year : Int) (ends : Ends Char.isDigit rest) :
    readYear? (writtenYear year ++ rest) = some (year, rest) := by
  have signed : readNumber? (writtenNumber 4 year.natAbs ++ rest).length
      (writtenNumber 4 year.natAbs ++ rest) = some (year.natAbs, rest) := by
    rw [readNumber?_append (writtenNumber_ne_nil 3) (fun _ => isDigit_of_mem_writtenNumber)
      (by simp) (.inr ends), digitsValue_writtenNumber]
  unfold writtenYear
  split
  next short =>
    have fits : year.toNat < Nat.pow 10 4 := by
      have power : Nat.pow 10 4 = 10000 := rfl
      omega
    have unsigned : readNumber? 4 (Text.fixedDigits 4 year.toNat ++ rest) =
        some (year.toNat, rest) := readNumber?_fixedDigits fits
    obtain ⟨c, cs, digits, digit⟩ := exists_fixedDigits_succ 3 year.toNat
    rw [digits, List.cons_append] at unsigned ⊢
    have value : (year.toNat : Int) = year := Int.toNat_of_nonneg short.1
    rw [readYear?_unsigned digit, unsigned]
    exact congrArg (fun value => some (value, rest)) value
  next =>
    by_cases negative : year < 0
    · have value : -(year.natAbs : Int) = year := by omega
      rw [if_pos negative, List.cons_append, readYear?, signed]
      exact congrArg (fun value => some (value, rest)) value
    · have value : (year.natAbs : Int) = year := by omega
      rw [if_neg negative, List.cons_append, readYear?, signed]
      exact congrArg (fun value => some (value, rest)) value

theorem exists_writtenYear (year : Int) :
    ∃ c cs, writtenYear year = c :: cs ∧ isBlank c = false := by
  unfold writtenYear
  split
  · obtain ⟨c, cs, digits, digit⟩ := exists_fixedDigits_succ 3 year.toNat
    exact ⟨c, cs, digits, isBlank_of_isDigit digit⟩
  · refine ⟨_, _, rfl, ?_⟩
    split <;> decide

theorem readDate?_write {date : Date} (month : date.month < 100) (day : date.day < 100) :
    readDate? (date.write ++ rest) = some (date, rest) := by
  have start : trimStart (date.write ++ rest) = writtenYear date.year ++
      ('-' :: (fixedDigits 2 date.month ++ '-' :: (fixedDigits 2 date.day ++ rest))) := by
    obtain ⟨c, cs, digits, shown⟩ := exists_writtenYear date.year
    simp only [Date.write, digits, List.cons_append, List.append_assoc]
    exact trimStart_of_not_blank shown
  unfold readDate?
  rw [start, readYear?_writtenYear date.year (ends_cons (by decide))]
  simp only [Option.bind_eq_bind, Option.bind_some]
  rw [readNextField?_fixedDigits (by decide) month]
  simp only [Option.bind_some]
  rw [readNextField?_fixedDigits (by decide) day]
  rfl

/-! ## Times of day -/

/-- Digits of a fraction count from the point on. -/
theorem readFraction?_fixedDigits {count : Nat} (few : count < 9)
    (fits : n < Nat.pow 10 (count + 1)) (ends : Ends Char.isDigit rest) :
    readFraction? ('.' :: (fixedDigits (count + 1) n ++ rest)) =
      some (n * Nat.pow 10 (9 - (count + 1)), rest) := by
  have all : ∀ c ∈ fixedDigits (count + 1) n, c.isDigit = true :=
    fun _ => isDigit_of_mem_fixedDigits
  have run : (fixedDigits (count + 1) n ++ rest).takeWhile Char.isDigit =
      fixedDigits (count + 1) n := by
    rw [takeWhile_append_of_ends ends, takeWhile_of_all all]
  have after : (fixedDigits (count + 1) n ++ rest).dropWhile Char.isDigit = rest := by
    rw [dropWhile_append_of_ends ends, dropWhile_of_all all, List.nil_append]
  have whole : (fixedDigits (count + 1) n).take 9 = fixedDigits (count + 1) n :=
    List.take_of_length_le (by rw [length_fixedDigits]; omega)
  have shown : (fixedDigits (count + 1) n).isEmpty = false := by
    obtain ⟨c, cs, digits, -⟩ := exists_fixedDigits_succ count n
    rw [digits]
    rfl
  simp only [readFraction?, run, after, whole, shown, Bool.false_eq_true, if_false,
    length_fixedDigits, digitsValue_fixedDigits_of_lt fits]

theorem readFraction?_writtenFraction {nanos : Nat} (fits : nanos < nanosPerSecond) :
    readFraction? (writtenFraction nanos ++ 'Z' :: rest) = some (nanos, 'Z' :: rest) := by
  have ends : Ends Char.isDigit ('Z' :: rest) := ends_cons (by decide)
  unfold nanosPerSecond at fits
  unfold writtenFraction
  split
  next none =>
    subst none
    rfl
  next =>
    split
    next millis =>
      have digits : nanos / 1000000 < Nat.pow 10 3 := show _ < 1000 by omega
      have value : nanos / 1000000 * Nat.pow 10 6 = nanos := show _ * 1000000 = _ by omega
      rw [List.cons_append, readFraction?_fixedDigits (by decide) digits ends, value]
    next =>
      split
      next micros =>
        have digits : nanos / 1000 < Nat.pow 10 6 := show _ < 1000000 by omega
        have value : nanos / 1000 * Nat.pow 10 3 = nanos := show _ * 1000 = _ by omega
        rw [List.cons_append, readFraction?_fixedDigits (by decide) digits ends, value]
      next =>
        have digits : nanos < Nat.pow 10 9 := fits
        have value : nanos * Nat.pow 10 0 = nanos := Nat.mul_one nanos
        rw [List.cons_append, readFraction?_fixedDigits (by decide) digits ends, value]

theorem readTime?_write {hour minute second nano : Nat} (hours : hour < 100) (minutes : minute < 100)
    (seconds : second < 100) (nanos : nano < nanosPerSecond) :
    readTime? (fixedDigits 2 hour ++ ':' :: (fixedDigits 2 minute ++ ':' :: (fixedDigits 2 second ++
      (writtenFraction nano ++ 'Z' :: rest)))) = some ((hour, minute, second, nano), 'Z' :: rest) := by
  unfold readTime?
  rw [readField?_fixedDigits hours]
  simp only [Option.bind_eq_bind, Option.bind_some]
  rw [readNextField?_fixedDigits (by decide) minutes]
  simp only [Option.bind_some]
  rw [readNextField?_fixedDigits (by decide) seconds]
  simp only [Option.bind_some]
  rw [readFraction?_writtenFraction nanos]
  rfl

/-! ## Instants -/

theorem of?_self (t : Instant) : of? t.second t.nano = some t := by
  unfold of?
  rw [dif_pos ⟨⟨t.first_le, t.le_last⟩, t.nano_lt, t.leap⟩]

/-- The second of a clock goes to 60 in a leap second, where it is held as 59. -/
theorem clockSecond_spec (t : Instant) :
    t.clockSecond ≤ 60 ∧ ((min t.clockSecond 59 : Nat) : Int) = t.second % 60 ∧
      t.clockNano + (if t.clockSecond = 60 then nanosPerSecond else 0) = t.nano := by
  have leap := t.leap
  have nano_lt := t.nano_lt
  unfold clockSecond clockNano inLeapSecond
  unfold nanosPerSecond at *
  split
  next inside =>
    have last := leap (of_decide_eq_true inside)
    have nano := of_decide_eq_true inside
    rw [last]
    refine ⟨by decide, by decide, ?_⟩
    rw [if_pos (by decide)]
    omega
  next outside =>
    have nano : t.nano < 1000000000 := by simpa using outside
    refine ⟨by omega, by omega, ?_⟩
    rw [if_neg (by omega)]
    omega

/-- The clock of universal time shows the instant. -/
theorem ofClock?_clock (t : Instant) :
    ofClock? (Date.ofNumber (t.second / secondsPerDay)) ((t.second % secondsPerDay).toNat / 3600)
      ((t.second % secondsPerDay).toNat / 60 % 60) t.clockSecond t.clockNano 0 = some t := by
  obtain ⟨second_le, held, nano⟩ := t.clockSecond_spec
  have first_le := t.first_le
  have le_last := t.le_last
  have years := Date.year_ofNumber (t.second / secondsPerDay)
    (by unfold secondsPerDay; omega) (by unfold secondsPerDay; omega)
  have valid := Date.isValid_ofNumber (t.second / secondsPerDay)
  have day : t.second / 86400 * 86400 + ((t.second % 86400).toNat / 3600 : Nat) * 3600 +
      ((t.second % 86400).toNat / 60 % 60 : Nat) * 60 + t.second % 60 - 0 = t.second := by
    omega
  unfold ofClock?
  rw [if_pos]
  · simp only [Date.number_ofNumber, held, nano]
    unfold secondsPerDay
    rw [day, of?_self]
  · have hour : (t.second % secondsPerDay).toNat / 3600 ≤ 23 := by
      unfold secondsPerDay
      omega
    have minute : (t.second % secondsPerDay).toNat / 60 % 60 ≤ 59 := by omega
    simp [valid, years, second_le, hour, minute]

/-- Every instant is read back from its text. -/
theorem read?_write (t : Instant) : read? t.write = some t := by
  obtain ⟨month, day⟩ := Date.ofNumber_le (t.second / secondsPerDay)
  have time : (t.second % secondsPerDay).toNat < 86400 := by
    unfold secondsPerDay
    omega
  have text : t.write.toList = (Date.ofNumber (t.second / secondsPerDay)).write ++
      'T' :: (fixedDigits 2 ((t.second % secondsPerDay).toNat / 3600) ++
        ':' :: (fixedDigits 2 ((t.second % secondsPerDay).toNat / 60 % 60) ++
          ':' :: (fixedDigits 2 t.clockSecond ++ (writtenFraction t.clockNano ++ ['Z'])))) := by
    simp [write, writtenSeconds]
  have nanos : t.clockNano < nanosPerSecond := Nat.mod_lt _ (by decide)
  have seconds := t.clockSecond_spec.1
  have zone : readOffset? (trimStart ['Z']) = some (0, []) := rfl
  unfold read?
  rw [text, readDate?_write (by omega) (by omega)]
  simp only [Option.bind_eq_bind, Option.bind_some, List.head?_cons, Option.map_some, List.tail_cons,
    true_or, if_true]
  rw [readTime?_write (by omega) (by omega) (by omega) nanos]
  simp only [Option.bind_some, zone]
  exact ofClock?_clock t

end Retention.Instant
