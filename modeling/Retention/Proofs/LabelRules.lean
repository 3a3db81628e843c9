import Mathlib
import Retention.Proofs.Selectors

/-!
# The rules for labels

A name, a domain, a key and a value are told here by rules that know nothing of the checks: how many
bytes they have, and which characters stand where.  `Labels.check_agrees_rules` says that the checks
accept exactly what these rules allow, and that the label reported of a set is its first bad one, in
the order of the bytes of the keys, its key before its value.

The forms of names and domains are also those of two regular expressions, `nameLanguage` and
`domainLanguage`.  The one has its optional part in front and the other has it behind, and both come
to the same: a text of characters of one class, with the first and the last of another (`Enclosed`).
-/

namespace Retention

open scoped Computability

/-! ## Characters -/

/-- A letter or digit of ASCII. -/
def IsLetterOrDigit (c : Char) : Prop :=
  ('A' ≤ c ∧ c ≤ 'Z') ∨ ('a' ≤ c ∧ c ≤ 'z') ∨ ('0' ≤ c ∧ c ≤ '9')

/-- A lower-case letter or a digit of ASCII. -/
def IsLowerOrDigit (c : Char) : Prop :=
  ('a' ≤ c ∧ c ≤ 'z') ∨ ('0' ≤ c ∧ c ≤ '9')

/-- A character that may stand inside a name. -/
def StandsInName (c : Char) : Prop :=
  IsLetterOrDigit c ∨ c = '-' ∨ c = '_' ∨ c = '.'

/-- A character that may stand inside a part of a domain. -/
def StandsInPart (c : Char) : Prop :=
  IsLowerOrDigit c ∨ c = '-'

theorem isAlphanumeric_iff {c : Char} : isAlphanumeric c = true ↔ IsLetterOrDigit c := by
  simp only [isAlphanumeric, Char.isAlphanum, Char.isAlpha, Char.isUpper, Char.isLower,
    Char.isDigit, Bool.or_eq_true, Bool.and_eq_true, decide_eq_true_eq, or_assoc]
  rfl

theorem isLowerAlphanumeric_iff {c : Char} : isLowerAlphanumeric c = true ↔ IsLowerOrDigit c := by
  simp only [isLowerAlphanumeric, Char.isLower, Char.isDigit, Bool.or_eq_true, Bool.and_eq_true,
    decide_eq_true_eq]
  rfl

theorem isNameChar_iff {c : Char} : isNameChar c = true ↔ StandsInName c := by
  simp only [isNameChar, Bool.or_eq_true, isAlphanumeric_iff, beq_iff_eq, or_assoc, StandsInName]

/-! ## Texts with both ends of a class -/

/-- A text of characters of one class, with the first and the last of another. -/
structure Enclosed (inner outer : Char → Prop) (cs : List Char) : Prop where
  inside : ∀ c ∈ cs, inner c
  first : ∃ c ∈ cs.head?, outer c
  last : ∃ c ∈ cs.getLast?, outer c

section Enclosed

variable {inner outer : Char → Prop} {cs : List Char}

/-- Such a text is one character of the outer class, or has one at either end. -/
theorem enclosed_iff_shape (wider : ∀ c, outer c → inner c) :
    Enclosed inner outer cs ↔
      (∃ c, outer c ∧ cs = [c]) ∨
        ∃ a middle b, outer a ∧ (∀ c ∈ middle, inner c) ∧ outer b ∧ cs = a :: (middle ++ [b]) := by
  constructor
  · rintro ⟨inside, ⟨a, first, outerFirst⟩, ⟨b, last, outerLast⟩⟩
    obtain ⟨rest, rfl⟩ := List.head?_eq_some_iff.mp first
    rcases List.eq_nil_or_concat rest with rfl | ⟨middle, d, rfl⟩
    · exact .inl ⟨a, outerFirst, rfl⟩
    · rw [List.concat_eq_append] at inside last ⊢
      rw [← List.cons_append, List.getLast?_concat] at last
      cases last
      refine .inr ⟨a, middle, b, outerFirst, ?_, outerLast, rfl⟩
      intro c mem
      exact inside c (List.mem_cons_of_mem a (List.mem_append_left _ mem))
  · rintro (⟨c, outerOnly, rfl⟩ | ⟨a, middle, b, outerFirst, inside, outerLast, rfl⟩)
    · exact ⟨by simpa using wider c outerOnly, ⟨c, rfl, outerOnly⟩, ⟨c, rfl, outerOnly⟩⟩
    · refine ⟨?_, ⟨a, rfl, outerFirst⟩, ⟨b, ?_, outerLast⟩⟩
      · intro c mem
        rw [List.mem_cons, List.mem_append, List.mem_singleton] at mem
        rcases mem with rfl | inMiddle | rfl
        · exact wider _ outerFirst
        · exact inside c inMiddle
        · exact wider _ outerLast
      · rw [← List.cons_append, List.getLast?_concat]
        rfl

/-- The checks of characters and ends tell these texts. -/
theorem all_and_hasEnds_iff {p q : Char → Bool} (inside : ∀ c, p c = true ↔ inner c)
    (ends : ∀ c, q c = true ↔ outer c) :
    (cs.all p && hasEnds q cs) = true ↔ Enclosed inner outer cs := by
  simp only [hasEnds, Bool.and_eq_true, List.all_eq_true, Option.any_eq_true, inside, ends]
  constructor
  · rintro ⟨all, first, last⟩
    exact ⟨all, first, last⟩
  · rintro ⟨all, first, last⟩
    exact ⟨all, first, last⟩

end Enclosed

/-! ## The regular expressions -/

/-- The texts of one character of a class. -/
def single (p : Char → Prop) : Language Char :=
  {cs | ∃ c, p c ∧ cs = [c]}

/-- The regular expression `([A-Za-z0-9][-A-Za-z0-9_.]*)?[A-Za-z0-9]`. -/
def nameLanguage : Language Char :=
  (1 + single IsLetterOrDigit * (single StandsInName)∗) * single IsLetterOrDigit

/-- The regular expression `[a-z0-9]([-a-z0-9]*[a-z0-9])?`. -/
def partLanguage : Language Char :=
  single IsLowerOrDigit * (1 + (single StandsInPart)∗ * single IsLowerOrDigit)

/-- The regular expression `part(\.part)*` for the regular expression of a part. -/
def domainLanguage : Language Char :=
  partLanguage * (single (· = '.') * partLanguage)∗

section Languages

variable {inner outer : Char → Prop} {cs : List Char}

theorem mem_kstar_single : cs ∈ (single inner)∗ ↔ ∀ c ∈ cs, inner c := by
  rw [Language.mem_kstar]
  constructor
  · rintro ⟨words, rfl, each⟩ c mem
    obtain ⟨word, inWords, inWord⟩ := List.mem_flatten.mp mem
    obtain ⟨d, holds, rfl⟩ := each word inWords
    rwa [List.mem_singleton.mp inWord]
  · intro all
    refine ⟨cs.map fun c => [c], ?_, ?_⟩
    · rw [← List.flatMap_def, List.flatMap_singleton']
    · intro word mem
      obtain ⟨c, inText, rfl⟩ := List.mem_map.mp mem
      exact ⟨c, all c inText, rfl⟩

/-- With its optional part in front. -/
theorem mem_optional_mul_single (wider : ∀ c, outer c → inner c) :
    cs ∈ (1 + single outer * (single inner)∗) * single outer ↔ Enclosed inner outer cs := by
  rw [enclosed_iff_shape wider, Language.mem_mul]
  constructor
  · rintro ⟨front, optional, _, ⟨b, outerLast, rfl⟩, rfl⟩
    rcases optional with rfl | present
    · exact .inl ⟨b, outerLast, rfl⟩
    · obtain ⟨_, ⟨a, outerFirst, rfl⟩, middle, run, rfl⟩ := Language.mem_mul.mp present
      exact .inr ⟨a, middle, b, outerFirst, mem_kstar_single.mp run, outerLast, rfl⟩
  · rintro (⟨c, outerOnly, rfl⟩ | ⟨a, middle, b, outerFirst, inside, outerLast, rfl⟩)
    · exact ⟨[], .inl rfl, [c], ⟨c, outerOnly, rfl⟩, rfl⟩
    · have present : [a] ++ middle ∈ single outer * (single inner)∗ :=
        Language.mem_mul.mpr ⟨[a], ⟨a, outerFirst, rfl⟩, middle, mem_kstar_single.mpr inside, rfl⟩
      exact ⟨[a] ++ middle, .inr present, [b], ⟨b, outerLast, rfl⟩, rfl⟩

/-- With its optional part behind. -/
theorem mem_single_mul_optional (wider : ∀ c, outer c → inner c) :
    cs ∈ single outer * (1 + (single inner)∗ * single outer) ↔ Enclosed inner outer cs := by
  rw [enclosed_iff_shape wider, Language.mem_mul]
  constructor
  · rintro ⟨_, ⟨a, outerFirst, rfl⟩, back, optional, rfl⟩
    rcases optional with rfl | present
    · exact .inl ⟨a, outerFirst, rfl⟩
    · obtain ⟨middle, run, _, ⟨b, outerLast, rfl⟩, rfl⟩ := Language.mem_mul.mp present
      exact .inr ⟨a, middle, b, outerFirst, mem_kstar_single.mp run, outerLast, rfl⟩
  · rintro (⟨c, outerOnly, rfl⟩ | ⟨a, middle, b, outerFirst, inside, outerLast, rfl⟩)
    · exact ⟨[c], ⟨c, outerOnly, rfl⟩, [], .inl rfl, rfl⟩
    · have present : middle ++ [b] ∈ (single inner)∗ * single outer :=
        Language.mem_mul.mpr ⟨middle, mem_kstar_single.mpr inside, [b], ⟨b, outerLast, rfl⟩, rfl⟩
      exact ⟨[a], ⟨a, outerFirst, rfl⟩, middle ++ [b], .inr present, rfl⟩

end Languages

/-! ## Names and domains -/

/-- A name: 1 to 63 bytes, letters, digits, `-`, `_` and `.`, a letter or digit at both ends. -/
structure IsName (name : String) : Prop where
  some : 1 ≤ name.utf8ByteSize
  short : name.utf8ByteSize ≤ 63
  form : Enclosed StandsInName IsLetterOrDigit name.toList

/-- The form of a domain: one or more parts with a `.` between them, of lower-case letters, digits
and `-`, each with a letter or digit at both ends. -/
def IsDomainText (cs : List Char) : Prop :=
  ∃ parts : List (List Char), parts ≠ [] ∧
    (∀ part ∈ parts, Enclosed StandsInPart IsLowerOrDigit part) ∧ cs = ['.'].intercalate parts

/-- The prefix of a key: a domain of 1 to 253 bytes. -/
structure IsPrefix (domain : String) : Prop where
  some : 1 ≤ domain.utf8ByteSize
  short : domain.utf8ByteSize ≤ 253
  form : IsDomainText domain.toList

section Forms

variable {cs : List Char}

theorem isNameText_iff : isNameText cs = true ↔ Enclosed StandsInName IsLetterOrDigit cs :=
  all_and_hasEnds_iff (fun _ => isNameChar_iff) fun _ => isAlphanumeric_iff

theorem isDomainPart_iff : isDomainPart cs = true ↔ Enclosed StandsInPart IsLowerOrDigit cs := by
  refine all_and_hasEnds_iff (fun c => ?_) fun _ => isLowerAlphanumeric_iff
  rw [Bool.or_eq_true, isLowerAlphanumeric_iff, beq_iff_eq, StandsInPart]

theorem dot_notMem_part (part : Enclosed StandsInPart IsLowerOrDigit cs) : '.' ∉ cs := by
  intro mem
  have stands := part.inside _ mem
  revert stands
  unfold StandsInPart IsLowerOrDigit
  decide

theorem isDomain_iff : isDomain cs = true ↔ IsDomainText cs := by
  rw [isDomain, List.all_eq_true]
  constructor
  · intro parts
    refine ⟨Text.split '.' cs, Text.split_ne_nil '.' cs, ?_, (Text.intercalate_split '.' cs).symm⟩
    intro part mem
    exact isDomainPart_iff.mp (parts part mem)
  · rintro ⟨parts, some, each, rfl⟩ part mem
    rw [Text.split_intercalate some fun part mem => dot_notMem_part (each part mem)] at mem
    exact isDomainPart_iff.mpr (each part mem)

/-- The form of names is that of their regular expression. -/
theorem isNameText_iff_mem_language : isNameText cs = true ↔ cs ∈ nameLanguage := by
  rw [isNameText_iff]
  exact (mem_optional_mul_single fun _ => .inl).symm

theorem mem_partLanguage :
    cs ∈ partLanguage ↔ Enclosed StandsInPart IsLowerOrDigit cs :=
  mem_single_mul_optional fun _ => .inl

/-- The form of domains is that of their regular expression. -/
theorem isDomain_iff_mem_language : isDomain cs = true ↔ cs ∈ domainLanguage := by
  rw [isDomain_iff, domainLanguage, Language.mem_mul]
  constructor
  · rintro ⟨parts, some, each, rfl⟩
    obtain ⟨first, rest, rfl⟩ := List.exists_cons_of_ne_nil some
    rw [List.forall_mem_cons] at each
    refine ⟨first, mem_partLanguage.mpr each.1, rest.flatMap ('.' :: ·), ?_,
      (Text.intercalate_cons_eq '.' first rest).symm⟩
    refine Language.mem_kstar.mpr ⟨rest.map ('.' :: ·), List.flatMap_def, ?_⟩
    intro word mem
    obtain ⟨part, inRest, rfl⟩ := List.mem_map.mp mem
    exact Language.mem_mul.mpr
      ⟨['.'], ⟨'.', rfl, rfl⟩, part, mem_partLanguage.mpr (each.2 part inRest), rfl⟩
  · rintro ⟨first, firstPart, rest, repeated, rfl⟩
    obtain ⟨words, rfl, each⟩ := Language.mem_kstar.mp repeated
    -- Every repeated word is a dot and a part, so the parts are the words without their dots.
    have dotted : ∀ word ∈ words, Enclosed StandsInPart IsLowerOrDigit word.tail ∧
        '.' :: word.tail = word := by
      intro word mem
      obtain ⟨_, ⟨c, rfl, rfl⟩, part, isPart, rfl⟩ := Language.mem_mul.mp (each word mem)
      exact ⟨mem_partLanguage.mp isPart, rfl⟩
    refine ⟨first :: words.map List.tail, List.cons_ne_nil _ _, ?_, ?_⟩
    · rw [List.forall_mem_cons]
      refine ⟨mem_partLanguage.mp firstPart, ?_⟩
      intro part mem
      obtain ⟨word, inWords, rfl⟩ := List.mem_map.mp mem
      exact (dotted word inWords).1
    · rw [Text.intercalate_cons_eq, List.flatMap_map]
      congr 1
      rw [List.flatMap_def, List.map_congr_left fun word mem => (dotted word mem).2, List.map_id']

end Forms

/-! ## Keys and values -/

/-- A key: a name, or a prefix and a name with a `/` between them. -/
inductive IsKey : String → Prop
  | plain {name : String} : IsName name → IsKey name
  | prefixed {domain name : String} : IsPrefix domain → IsName name →
    IsKey (domain ++ "/" ++ name)

/-- A value: nothing, or a name. -/
def IsValue (value : String) : Prop :=
  value = "" ∨ IsName value

section Checks

variable {name key value : String}

theorem isEmpty_iff_size {text : String} : text.isEmpty = true ↔ ¬ 1 ≤ text.utf8ByteSize := by
  rw [String.isEmpty, beq_iff_eq]
  omega

theorem checkName_ok_iff : checkName name = .ok () ↔ IsName name := by
  unfold checkName
  split
  next empty => exact ⟨nofun, fun rule => (isEmpty_iff_size.mp empty rule.some).elim⟩
  next some =>
    split
    next long => exact ⟨nofun, fun rule => (Nat.not_le.mpr long rule.short).elim⟩
    next short =>
      split
      next form =>
        rw [isEmpty_iff_size, not_not] at some
        exact ⟨fun _ => ⟨some, Nat.not_lt.mp short, isNameText_iff.mp form⟩, fun _ => rfl⟩
      next malformed => exact ⟨nofun, fun rule => (malformed (isNameText_iff.mpr rule.form)).elim⟩

theorem checkNamePart_ok_iff : checkNamePart name = .ok () ↔ IsName name := by
  rw [← checkName_ok_iff, checkNamePart]
  cases checkName name <;> simp [Except.mapError]

theorem slash_notMem_name (rule : IsName name) : '/' ∉ name.toList := by
  intro mem
  have stands := rule.form.inside _ mem
  revert stands
  unfold StandsInName IsLetterOrDigit
  decide

theorem slash_notMem_domain {cs : List Char} (form : IsDomainText cs) : '/' ∉ cs := by
  intro mem
  obtain ⟨parts, some, each, rfl⟩ := form
  rcases Text.mem_split '.' mem with same | ⟨part, inParts, inPart⟩
  · revert same
    decide
  · rw [Text.split_intercalate some fun part mem => dot_notMem_part (each part mem)] at inParts
    have stands := (each part inParts).inside _ inPart
    revert stands
    unfold StandsInPart IsLowerOrDigit
    decide

theorem checkKey_ok_iff : checkKey key = .ok () ↔ IsKey key := by
  constructor
  · intro valid
    unfold checkKey at valid
    split at valid
    next uncut => exact .plain (checkNamePart_ok_iff.mp valid)
    next domain name cut =>
      obtain ⟨whole, -⟩ := Text.cutAt?_eq_some_iff.mp cut
      have joined : key = String.ofList domain ++ "/" ++ String.ofList name := by
        rw [← String.toList_inj, whole]
        simp
      split at valid
      next => cases valid
      next some =>
        split at valid
        next => cases valid
        next short =>
          split at valid
          next form =>
            have given : ¬ (String.ofList domain).isEmpty = true := by
              rwa [String.isEmpty_iff, String.ofList_eq_empty_iff, ← List.isEmpty_iff]
            rw [isEmpty_iff_size, not_not] at given
            rw [joined]
            refine .prefixed ⟨given, Nat.not_lt.mp short, ?_⟩ (checkNamePart_ok_iff.mp valid)
            rw [String.toList_ofList]
            exact isDomain_iff.mp form
          next => cases valid
  · intro rule
    cases rule with
    | plain named =>
      rw [checkKey, Text.cutAt?_eq_none_iff.mpr (slash_notMem_name named)]
      exact checkNamePart_ok_iff.mpr named
    | @prefixed domain name prefixed named =>
      have cut : Text.cutAt? '/' (domain ++ "/" ++ name).toList =
          some (domain.toList, name.toList) :=
        Text.cutAt?_eq_some_iff.mpr ⟨by simp, slash_notMem_domain prefixed.form⟩
      have some : ¬ domain.toList.isEmpty = true := by
        intro empty
        rw [List.isEmpty_iff, String.toList_eq_nil_iff, ← String.isEmpty_iff] at empty
        exact isEmpty_iff_size.mp empty prefixed.some
      have short : ¬ maxPrefixLength < domain.utf8ByteSize := Nat.not_lt.mpr prefixed.short
      rw [checkKey, cut]
      simp only [if_neg some, String.ofList_toList, if_neg short,
        if_pos (isDomain_iff.mpr prefixed.form)]
      exact checkNamePart_ok_iff.mpr named

theorem checkValue_ok_iff : checkValue value = .ok () ↔ IsValue value := by
  rw [checkValue, IsValue, ← checkName_ok_iff, ← String.isEmpty_iff]
  split
  next empty => simp [empty]
  next some => simp [some]

end Checks

/-! ## Sets of labels -/

/-- A label with a good key and a good value. -/
def IsLabel (entry : String × String) : Prop :=
  IsKey entry.1 ∧ IsValue entry.2

/-- What is reported of a bad label: what is wrong with its key, or else with its value. -/
inductive FaultOf : String × String → LabelFault → Prop
  | key {key value : String} {fault : KeyFault} :
    checkKey key = .error fault → FaultOf (key, value) (.key key fault)
  | value {key value : String} {fault : NameFault} :
    IsKey key → checkValue value = .error fault → FaultOf (key, value) (.value key value fault)

section Sets

variable {entry : String × String} {entries : List (String × String)} {fault : LabelFault}

theorem checkLabel_ok_iff : checkLabel entry.1 entry.2 = .ok () ↔ IsLabel entry := by
  rw [IsLabel, ← checkKey_ok_iff, ← checkValue_ok_iff, checkLabel]
  cases checkKey entry.1 with
  | error _ => simp
  | ok _ => cases checkValue entry.2 <;> simp [Except.mapError]

theorem checkLabel_error_iff : checkLabel entry.1 entry.2 = .error fault ↔ FaultOf entry fault := by
  obtain ⟨key, value⟩ := entry
  constructor
  · intro faulty
    unfold checkLabel at faulty
    cases keyed : checkKey key with
    | error e =>
      rw [keyed] at faulty
      cases faulty
      exact .key keyed
    | ok _ =>
      rw [keyed] at faulty
      cases valued : checkValue value with
      | error e =>
        rw [valued] at faulty
        cases faulty
        exact .value (checkKey_ok_iff.mp keyed) valued
      | ok _ =>
        rw [valued] at faulty
        cases faulty
  · intro faulty
    cases faulty with
    | key keyed => simp only [checkLabel, keyed]
    | value keyed valued =>
      simp only [checkLabel, checkKey_ok_iff.mpr keyed, valued, Except.mapError]

theorem checkEntries_ok_iff : checkEntries entries = .ok () ↔ ∀ entry ∈ entries, IsLabel entry := by
  induction entries with
  | nil => simp [checkEntries]
  | cons entry rest ih =>
    rw [List.forall_mem_cons, ← ih, ← checkLabel_ok_iff, checkEntries]
    cases checkLabel entry.1 entry.2 <;> simp

/-- The fault reported is that of the first bad label. -/
theorem checkEntries_error_iff : checkEntries entries = .error fault ↔
    ∃ before entry after, entries = before ++ entry :: after ∧
      (∀ earlier ∈ before, IsLabel earlier) ∧ FaultOf entry fault := by
  induction entries with
  | nil => simp [checkEntries]
  | cons first rest ih =>
    rw [checkEntries]
    cases checked : checkLabel first.1 first.2 with
    | error e =>
      have faulty := checkLabel_error_iff.mp checked
      have bad : ¬ IsLabel first := by
        rw [← checkLabel_ok_iff, checked]
        rintro ⟨⟩
      constructor
      · rintro ⟨⟩
        exact ⟨[], first, rest, rfl, List.forall_mem_nil _, faulty⟩
      · rintro ⟨before, entry, after, whole, good, found⟩
        cases before with
        | nil =>
          cases whole
          rw [← checkLabel_error_iff, checked] at found
          exact found
        | cons earlier before =>
          cases whole
          exact (bad (good first List.mem_cons_self)).elim
    | ok _ =>
      have good := checkLabel_ok_iff.mp checked
      simp only [ih]
      constructor
      · rintro ⟨before, entry, after, rfl, goodBefore, found⟩
        have goodFirst := List.forall_mem_cons.mpr ⟨good, goodBefore⟩
        exact ⟨first :: before, entry, after, rfl, goodFirst, found⟩
      · rintro ⟨before, entry, after, whole, goodBefore, found⟩
        cases before with
        | nil =>
          cases whole
          rw [← checkLabel_error_iff, checked] at found
          cases found
        | cons earlier before =>
          cases whole
          exact ⟨before, entry, after, rfl, (List.forall_mem_cons.mp goodBefore).2, found⟩

end Sets

namespace Labels

/-- The fault reported of a set is that of the bad label whose key has the least bytes. -/
theorem check_error_iff {labels : Labels} {fault : LabelFault} :
    labels.check = .error fault ↔
      ∃ entry ∈ labels.entries, FaultOf entry fault ∧
        ∀ other ∈ labels.entries, Text.bytes other.1 < Text.bytes entry.1 → IsLabel other := by
  simp only [check, checkEntries_error_iff, Text.bytes_strictMono.lt_iff_lt]
  constructor
  · rintro ⟨before, entry, after, whole, good, found⟩
    have ascending := labels.ascending
    rw [whole, List.pairwise_append, List.pairwise_cons] at ascending
    refine ⟨entry, ?_, found, ?_⟩
    · rw [whole]
      exact List.mem_append_right _ List.mem_cons_self
    · intro other mem less
      rw [whole, List.mem_append, List.mem_cons] at mem
      rcases mem with earlier | rfl | later
      · exact good other earlier
      · exact (lt_irrefl _ less).elim
      · exact (lt_asymm less (ascending.2.1.1 other later)).elim
  · rintro ⟨entry, mem, found, good⟩
    obtain ⟨before, after, whole⟩ := List.append_of_mem mem
    have ascending := labels.ascending
    rw [whole, List.pairwise_append] at ascending
    refine ⟨before, entry, after, whole, ?_, found⟩
    intro earlier inBefore
    apply good earlier
    · rw [whole]
      exact List.mem_append_left _ inBefore
    · exact ascending.2.2 earlier inBefore entry List.mem_cons_self

/-- The checks accept exactly the keys and values of the rules.  What they look at are the forms of
two regular expressions.  A set of labels is accepted where all its labels are good, and else the fault
reported is that of its first bad label by the bytes of the keys, of its key before its value. -/
theorem check_agrees_rules :
    (∀ key, checkKey key = .ok () ↔ IsKey key) ∧
    (∀ value, checkValue value = .ok () ↔ IsValue value) ∧
    (∀ cs, (isNameText cs = true ↔ cs ∈ nameLanguage) ∧
      (isDomain cs = true ↔ cs ∈ domainLanguage)) ∧
    ∀ labels : Labels,
      (labels.check = .ok () ↔ ∀ entry ∈ labels.entries, IsLabel entry) ∧
      ∀ fault, labels.check = .error fault ↔
        ∃ entry ∈ labels.entries, FaultOf entry fault ∧
          ∀ other ∈ labels.entries, Text.bytes other.1 < Text.bytes entry.1 → IsLabel other := by
  refine ⟨fun _ => checkKey_ok_iff, fun _ => checkValue_ok_iff, ?_, ?_⟩
  · intro cs
    exact ⟨isNameText_iff_mem_language, isDomain_iff_mem_language⟩
  · intro labels
    exact ⟨checkEntries_ok_iff, fun _ => check_error_iff⟩

example : checkKey "a.b-0/c" = .ok () ∧ checkKey "a..b/c" = .error .prefixMalformed ∧
    checkKey "a/b/c" = .error (.name .malformed) ∧ checkValue "c\n" = .error .malformed := by
  decide

end Labels

end Retention
