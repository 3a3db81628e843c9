import Mathlib
import Retention.Proofs.ByteOrder
import Retention.Proofs.Continuation

/-!
# What a selector demands

A selector is written with nothing escaped, and whoever reads it cuts it at each comma and every
piece at its first `=`, as `Labels.demands?` does.  This gives back the labels that were written
(`demands?_of_selector`) because the rules for labels leave no comma and no `=` in a key or a value.
So labels that pass the check can be told by their selector, and a pass asks its store for objects
with exactly its labels (`selector_demands`).
-/

namespace Retention

variable {σ : Type}

/-! ## Pieces of a text -/

namespace Text

/-- The characters of a text are those of its pieces and separators. -/
theorem mem_split (sep : Char) {c : Char} {cs : List Char} (mem : c ∈ cs) :
    c = sep ∨ ∃ piece ∈ split sep cs, c ∈ piece := by
  induction cs with
  | nil => cases mem
  | cons first rest ih =>
    have later (inRest : c ∈ rest) : c = sep ∨ ∃ piece ∈ split sep (first :: rest), c ∈ piece := by
      refine (ih inRest).imp_right ?_
      rintro ⟨piece, inPieces, inPiece⟩
      unfold split
      split
      · exact ⟨piece, List.mem_cons_of_mem _ inPieces, inPiece⟩
      · split
        next none =>
          rw [none] at inPieces
          cases inPieces
        next head pieces cut =>
          rw [cut] at inPieces
          rcases List.mem_cons.mp inPieces with rfl | inPieces
          · exact ⟨_, List.mem_cons_self, List.mem_cons_of_mem _ inPiece⟩
          · exact ⟨piece, List.mem_cons_of_mem _ inPieces, inPiece⟩
    rcases List.mem_cons.mp mem with rfl | inRest
    · by_cases same : c = sep
      · exact .inl same
      · refine .inr ?_
        rw [split, if_neg same]
        split
        · exact ⟨_, List.mem_cons_self, List.mem_cons_self⟩
        · exact ⟨_, List.mem_cons_self, List.mem_cons_self⟩
    · exact later inRest

theorem intercalate_cons_eq (sep : Char) (first : List Char) (rest : List (List Char)) :
    [sep].intercalate (first :: rest) = first ++ rest.flatMap (sep :: ·) := by
  induction rest generalizing first with
  | nil => simp
  | cons second rest ih =>
    rw [List.intercalate_cons_cons, ih second]
    simp

/-- Texts without `sep`, put one after the other with `sep` between them, are the pieces again. -/
theorem split_intercalate {sep : Char} {pieces : List (List Char)} (some : pieces ≠ [])
    (whole : ∀ piece ∈ pieces, sep ∉ piece) : split sep ([sep].intercalate pieces) = pieces := by
  obtain ⟨first, rest, rfl⟩ := List.exists_cons_of_ne_nil some
  rw [List.forall_mem_cons] at whole
  rw [intercalate_cons_eq, split_flatMap whole.1 whole.2]

theorem split_ne_nil (sep : Char) (cs : List Char) : split sep cs ≠ [] := by
  cases cs with
  | nil => exact List.cons_ne_nil _ _
  | cons c cs =>
    unfold split
    split
    · exact List.cons_ne_nil _ _
    · split
      · exact List.cons_ne_nil _ _
      · exact List.cons_ne_nil _ _

/-- The pieces, put one after the other with `sep` between them, are the text again. -/
theorem intercalate_split (sep : Char) (cs : List Char) :
    [sep].intercalate (split sep cs) = cs := by
  induction cs with
  | nil => rfl
  | cons c cs ih =>
    obtain ⟨piece, pieces, cut⟩ := List.exists_cons_of_ne_nil (split_ne_nil sep cs)
    rw [cut, intercalate_cons_eq] at ih
    rw [split]
    split
    next same =>
      rw [intercalate_cons_eq, cut, List.flatMap_cons, List.nil_append, List.cons_append, ih, same]
    next other =>
      simp only [cut]
      rw [intercalate_cons_eq, List.cons_append, ih]

end Text

/-! ## The characters of labels -/

/-- A character that is a byte, and neither ends a requirement nor cuts it. -/
structure IsLabelChar (c : Char) : Prop where
  ascii : c.val ≤ 127
  ne_comma : c ≠ ','
  ne_equals : c ≠ '='

theorem isLabelChar_slash : IsLabelChar '/' := ⟨by decide, by decide, by decide⟩

theorem isLabelChar_of_isNameChar {c : Char} (allowed : isNameChar c = true) : IsLabelChar c := by
  have ascii : c.val ≤ 127 := by
    simp only [isNameChar, isAlphanumeric, Char.isAlphanum, Char.isAlpha, Char.isUpper,
      Char.isLower, Char.isDigit, Bool.or_eq_true, Bool.and_eq_true, decide_eq_true_eq,
      beq_iff_eq] at allowed
    rcases allowed with ((((upper | lower) | digit) | rfl) | rfl) | rfl
    · exact UInt32.le_trans upper.2 (by decide)
    · exact UInt32.le_trans lower.2 (by decide)
    · exact UInt32.le_trans digit.2 (by decide)
    · decide
    · decide
    · decide
  refine ⟨ascii, ?_, ?_⟩
  · rintro rfl
    revert allowed
    decide
  · rintro rfl
    revert allowed
    decide

theorem isNameChar_of_isLowerAlphanumeric {c : Char} (allowed : isLowerAlphanumeric c = true) :
    isNameChar c = true := by
  simp only [isLowerAlphanumeric, Bool.or_eq_true] at allowed
  rcases allowed with lower | digit
  · simp [isNameChar, isAlphanumeric, Char.isAlphanum, Char.isAlpha, lower]
  · simp [isNameChar, isAlphanumeric, Char.isAlphanum, digit]

section Checks

variable {text key value : String} {c : Char}

theorem isLabelChar_of_checkName (valid : checkName text = .ok ()) (mem : c ∈ text.toList) :
    IsLabelChar c := by
  unfold checkName at valid
  split at valid
  · cases valid
  · split at valid
    · cases valid
    · split at valid
      next form =>
        rw [isNameText, Bool.and_eq_true, List.all_eq_true] at form
        exact isLabelChar_of_isNameChar (form.1 c mem)
      · cases valid

theorem isLabelChar_of_checkNamePart (valid : checkNamePart text = .ok ()) (mem : c ∈ text.toList) :
    IsLabelChar c := by
  cases checked : checkName text with
  | ok _ => exact isLabelChar_of_checkName checked mem
  | error fault =>
    rw [checkNamePart, checked] at valid
    cases valid

theorem isLabelChar_of_isDomain {domain : List Char} (valid : isDomain domain = true)
    (mem : c ∈ domain) : IsLabelChar c := by
  rcases Text.mem_split '.' mem with rfl | ⟨part, inParts, inPart⟩
  · exact isLabelChar_of_isNameChar (by decide)
  · have form := List.all_eq_true.mp valid part inParts
    rw [isDomainPart, Bool.and_eq_true, List.all_eq_true] at form
    have allowed := form.1 c inPart
    rw [Bool.or_eq_true, beq_iff_eq] at allowed
    rcases allowed with lower | rfl
    · exact isLabelChar_of_isNameChar (isNameChar_of_isLowerAlphanumeric lower)
    · exact isLabelChar_of_isNameChar (by decide)

/-- Neither the prefix of a key nor its name, nor the slash between them, can be mistaken for a part
of the selector around it. -/
theorem isLabelChar_of_checkKey (valid : checkKey key = .ok ()) (mem : c ∈ key.toList) :
    IsLabelChar c := by
  unfold checkKey at valid
  split at valid
  · exact isLabelChar_of_checkNamePart valid mem
  next domain name cut =>
    obtain ⟨whole, -⟩ := Text.cutAt?_eq_some_iff.mp cut
    split at valid
    · cases valid
    · split at valid
      · cases valid
      · split at valid
        next form =>
          rw [whole, List.mem_append, List.mem_cons] at mem
          rcases mem with inDomain | rfl | inName
          · exact isLabelChar_of_isDomain form inDomain
          · exact isLabelChar_slash
          · exact isLabelChar_of_checkNamePart valid (by rwa [String.toList_ofList])
        · cases valid

theorem isLabelChar_of_checkValue (valid : checkValue value = .ok ()) (mem : c ∈ value.toList) :
    IsLabelChar c := by
  unfold checkValue at valid
  split at valid
  next empty =>
    rw [String.isEmpty_iff.mp empty] at mem
    cases mem
  · exact isLabelChar_of_checkName valid mem

end Checks

/-! ## Reading a selector -/

namespace Labels

/-- The key and the value that a piece of a selector demands, where it has a first `=`. -/
def readDemand? (piece : List Char) : Option (String × String) :=
  (Text.cutAt? '=' piece).map fun (key, value) => (String.ofList key, String.ofList value)

/-- What a selector demands: its pieces between commas, each cut at its first `=`. -/
def readDemands? (selector : String) : Option (List (String × String)) :=
  (Text.split ',' selector.toList).mapM readDemand?

/-- What a list request demands.  One without a selector demands nothing. -/
def demands? : Option String → Option (List (String × String))
  | none => some []
  | some selector => readDemands? selector

/-- The piece of a selector that demands a label. -/
def piece (entry : String × String) : List Char := entry.1.toList ++ '=' :: entry.2.toList

theorem toList_selector {labels : Labels} {selector : String}
    (written : labels.selector = some selector) :
    labels.entries ≠ [] ∧ selector.toList = [','].intercalate (labels.entries.map piece) := by
  unfold Labels.selector at written
  split at written
  · cases written
  next some =>
    constructor
    · intro none
      simp [TextMap.isEmpty, none] at some
    · rw [← Option.some.inj written, String.toList_intercalate, List.map_map]
      congr 1
      apply List.map_congr_left
      intro entry _
      simp [piece]

/-- What the check of a set of labels says of each of them. -/
theorem checked_entry {entries : List (String × String)} (valid : checkEntries entries = .ok ()) :
    ∀ entry ∈ entries, checkKey entry.1 = .ok () ∧ checkValue entry.2 = .ok () := by
  induction entries with
  | nil => exact List.forall_mem_nil _
  | cons first rest ih =>
    obtain ⟨key, value⟩ := first
    unfold checkEntries checkLabel at valid
    cases keyed : checkKey key with
    | error fault =>
      rw [keyed] at valid
      cases valid
    | ok _ =>
      rw [keyed] at valid
      cases valued : checkValue value with
      | error fault =>
        rw [valued] at valid
        cases valid
      | ok _ =>
        rw [valued] at valid
        exact List.forall_mem_cons.mpr ⟨⟨keyed, valued⟩, ih valid⟩

section Valid

variable {labels : Labels} (valid : labels.check = .ok ())

include valid

theorem comma_notMem_piece {entry : String × String} (mem : entry ∈ labels.entries) :
    ',' ∉ piece entry := by
  obtain ⟨key, value⟩ := checked_entry valid entry mem
  intro comma
  rw [piece, List.mem_append, List.mem_cons] at comma
  rcases comma with inKey | same | inValue
  · exact (isLabelChar_of_checkKey key inKey).ne_comma rfl
  · cases same
  · exact (isLabelChar_of_checkValue value inValue).ne_comma rfl

theorem readDemand?_piece {entry : String × String} (mem : entry ∈ labels.entries) :
    readDemand? (piece entry) = some entry := by
  have uncut : '=' ∉ entry.1.toList := fun inKey =>
    (isLabelChar_of_checkKey (checked_entry valid entry mem).1 inKey).ne_equals rfl
  have cut : Text.cutAt? '=' (piece entry) = some (entry.1.toList, entry.2.toList) :=
    Text.cutAt?_eq_some_iff.mpr ⟨rfl, uncut⟩
  rw [readDemand?, cut]
  simp only [Option.map_some, String.ofList_toList]

/-- A selector demands the labels that it was written for. -/
theorem demands?_of_selector : demands? labels.selector = some labels.entries := by
  cases written : labels.selector with
  | none =>
    unfold selector at written
    split at written
    next none => rw [demands?, List.isEmpty_iff.mp none]
    · cases written
  | some selector =>
    obtain ⟨some, joined⟩ := toList_selector written
    have whole : ∀ cs ∈ labels.entries.map piece, ',' ∉ cs := by
      intro cs mem
      obtain ⟨entry, inEntries, rfl⟩ := List.mem_map.mp mem
      exact comma_notMem_piece valid inEntries
    have read {entries : List (String × String)} (each : ∀ entry ∈ entries, entry ∈ labels.entries) :
        (entries.map piece).mapM readDemand? = Option.some entries := by
      induction entries with
      | nil => rfl
      | cons entry rest ih =>
        rw [List.forall_mem_cons] at each
        rw [List.map_cons, List.mapM_cons, readDemand?_piece valid each.1, ih each.2]
        rfl
    rw [demands?, readDemands?, joined, Text.split_intercalate (by simpa using some) whole]
    exact read fun _ mem => mem

end Valid

/-- The keys come in the order of their bytes. -/
theorem keys_ascending (labels : Labels) :
    labels.entries.Pairwise fun a b => a.1.toUTF8.toList < b.1.toUTF8.toList :=
  labels.ascending.imp Text.toUTF8_lt

end Labels

/-! ## What a pass asks for -/

namespace Pruner

variable {p : Pruner σ} {store : Store σ} {scene : Scene σ} {r : Progress σ (List Object)}
  {request : ListRequest} {answer : Awaited (List Object)}

theorem Listing.request_eq (listing : p.Listing store scene r)
    (mem : (request, answer) ∈ listings r.trace) : request = p.request := by
  cases listing <;> simp at mem
  all_goals exact mem.1

theorem labels_check_of_check (valid : p.check = .ok ()) : p.labels.check = .ok () := by
  have target := (check_ok_iff.mp valid).1
  unfold checkTarget at target
  split at target
  · cases target
  · split at target
    · cases target
    · split at target
      · cases target
      · cases checked : p.labels.check with
        | error fault =>
          rw [checked] at target
          cases target
        | ok _ => rfl

/-- A choice asks the store for what the settings say, and only where they are valid. -/
theorem Choice.request_eq (choice : p.Choice store scene r)
    (mem : (request, answer) ∈ listings r.trace) :
    request = p.request ∧ p.labels.check = .ok () := by
  cases choice with
  | invalid _ => cases mem
  | @unlisted _ _ trace valid listing =>
    have own : (request, answer) ∈ listings trace := by simpa [startedEvent] using mem
    exact ⟨listing.request_eq own, labels_check_of_check valid⟩
  | @unfiltered _ _ _ _ first second valid listing filtering =>
    have filtered : listings second = [] := filtering.listings_eq
    have own : (request, answer) ∈ listings first := by simpa [startedEvent, filtered] using mem
    exact ⟨listing.request_eq own, labels_check_of_check valid⟩
  | @selected _ _ _ _ first second _ valid listing filtering selecting =>
    have filtered : listings second = [] := filtering.listings_eq
    have own : (request, answer) ∈ listings first := by
      simpa [startedEvent, Progress.after, filtered, selecting.listings_eq] using mem
    exact ⟨listing.request_eq own, labels_check_of_check valid⟩

/-- So does a pass. -/
theorem Course.request_eq (course : p.Course store scene r)
    (mem : (request, answer) ∈ listings r.trace) :
    request = p.request ∧ p.labels.check = .ok () := by
  rcases course.continuation with
    ⟨e, after, trace, chosen, rfl⟩ | ⟨selection, middle, first, later, chosen, continued⟩
  · exact (choice_of_run chosen).request_eq mem
  · rw [← listings_inquiries, continued.inquiries_eq, listings_inquiries] at mem
    exact (choice_of_run chosen).request_eq mem

end Pruner

namespace Labels

/-- A selector demands the labels that it was written for, in the order of the bytes of their keys, as
long as these labels pass the check.  So it tells such labels from others, and a pass demands its own
labels of its store. -/
theorem selector_demands (labels : Labels) (valid : labels.check = .ok ()) :
    (labels.selector = none ↔ labels.entries = []) ∧
    (∀ selector, labels.selector = some selector →
      readDemands? selector = some labels.entries) ∧
    (labels.entries.Pairwise fun a b => a.1.toUTF8.toList < b.1.toUTF8.toList) ∧
    (∀ others : Labels, others.check = .ok () → others.selector = labels.selector →
      others = labels) ∧
    ∀ {σ : Type} (p : Pruner σ) (store : Store σ) (scene : Scene σ), p.labels = labels →
      ∀ request answer, (request, answer) ∈ listings ((p.prune store).run scene).trace →
        demands? request.selector = some labels.entries := by
  refine ⟨?_, ?_, labels.keys_ascending, ?_, ?_⟩
  · simp [selector, TextMap.isEmpty]
  · intro selector written
    rw [← demands?_of_selector valid, written, demands?]
  · intro others accepted same
    have demanded := demands?_of_selector accepted
    rw [same, demands?_of_selector valid] at demanded
    exact TextMap.ext (Option.some.inj demanded).symm
  · rintro σ p store scene rfl request answer mem
    obtain ⟨rfl, -⟩ := (Pruner.prune_course store scene).request_eq mem
    exact demands?_of_selector valid

end Labels

/-! ## Rehearsed labels -/

namespace Rehearsed

/-- Two labels: one without a value, and one whose key has a prefix. -/
def twoLabels : Labels := .ofList [("batch.example/run_id", "7"), ("app", "")]

/-- A pruner of the old pods with these labels. -/
def labelledPruner : Pruner Stage := { pruner with labels := twoLabels }

end Rehearsed

namespace Labels

open Rehearsed in
theorem selector_demands_rehearsed :
    twoLabels.check = .ok () ∧ twoLabels.selector = some "app=,batch.example/run_id=7" ∧
      readDemands? "app=,batch.example/run_id=7" =
        some [("app", ""), ("batch.example/run_id", "7")] ∧
      (listings ((labelledPruner.prune Stage.store).run ⟨stage, .quiet⟩).trace).map Prod.fst =
        [⟨.pod, some "app=,batch.example/run_id=7", none⟩] ∧
      ∀ request answer, (request, answer) ∈
          listings ((labelledPruner.prune Stage.store).run ⟨stage, .quiet⟩).trace →
        demands? request.selector = some [("app", ""), ("batch.example/run_id", "7")] := by
  have valid : twoLabels.check = .ok () := by cbv
  have written : twoLabels.selector = some "app=,batch.example/run_id=7" := by decide +kernel
  obtain ⟨-, demanded, -, -, asked⟩ := selector_demands twoLabels valid
  have requests : (listings ((labelledPruner.prune Stage.store).run ⟨stage, .quiet⟩).trace).map
      Prod.fst = [⟨.pod, some "app=,batch.example/run_id=7", none⟩] := by decide +kernel
  exact ⟨valid, written, demanded _ written, requests, asked labelledPruner Stage.store _ rfl⟩

end Labels

end Retention
