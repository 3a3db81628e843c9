import Mathlib.Data.List.Dedup
import Mathlib.Data.List.Forall2
import Retention.Proofs.ReportedType

/-!
# Registrations

What a registry says follows from the registrations that made it.  A `Registration` gives a type a
predicate, over decoded objects or over objects as they are, and `Latest` is the last one of a type
in a history of them.  A registry `Tells` its history where it finds for each type the predicate of
the latest registration; a registration keeps this up (`Tells.enter`), and so do any number of them.
`Obeys` is what can be seen of such a registry from outside.

Registries are also made of others: a program starts with one that is shared and copies it.  `Shelf`
keeps the shared registry and the own ones.  What is done to them is done to their histories alike
(`Shelf.Turns.map_after`), so each own registry obeys the registrations that led to it, and the
shared one stays as it was.
-/

namespace Retention

universe u v

variable {σ : Type}

/-! ## Registrations -/

/-- A predicate and the type that it is registered for. -/
inductive Registration (σ : Type) : Type 1 where
  /-- The predicate is over what objects are decoded to. -/
  | typed {α : Type} (type : TypeIdentifier) (target : String) (decode : Json → Option α)
    (predicate : α → Call σ Verdict)
  | dynamic (type : TypeIdentifier) (predicate : Predicate σ)

namespace Registration

def type : Registration σ → TypeIdentifier
  | typed type _ _ _ => type
  | dynamic type _ => type

/-- The predicate that a registry keeps for a registration. -/
def predicate : Registration σ → Predicate σ
  | typed _ target decode predicate => Registry.typed target decode predicate
  | dynamic _ predicate => predicate

/-- The calls that a registration answers with about an object.  A predicate over decoded objects is
not asked about one that does not decode. -/
inductive Answers (o : Object) : Registration σ → Call σ Verdict → Prop
  | dynamic {t : TypeIdentifier} {predicate : Predicate σ} :
    Answers o (.dynamic t predicate) (predicate o)
  | decoded {α : Type} {t : TypeIdentifier} {target : String} {decode : Json → Option α}
    {predicate : α → Call σ Verdict} {value : α} :
    o.toJson?.bind decode = some value →
    Answers o (.typed t target decode predicate) (predicate value)
  | undecoded {α : Type} {t : TypeIdentifier} {target : String} {decode : Json → Option α}
    {predicate : α → Call σ Verdict} :
    o.toJson?.bind decode = none →
    Answers o (.typed t target decode predicate) (.answer (.error (.conversion o.key target)))

theorem answers_predicate (registration : Registration σ) (o : Object) :
    registration.Answers o (registration.predicate o) := by
  cases registration with
  | dynamic t predicate => exact .dynamic
  | typed t target decode predicate =>
    change Answers o _ (Registry.typed target decode predicate o)
    unfold Registry.typed
    split
    next value decoded => exact .decoded decoded
    next undecoded => exact .undecoded undecoded

end Registration

/-- The last registration of a type in a history. -/
def Latest (history : List (Registration σ)) (t : TypeIdentifier) (registration : Registration σ) :
    Prop :=
  ∃ earlier later, history = earlier ++ registration :: later ∧ registration.type = t ∧
    ∀ other ∈ later, other.type ≠ t

namespace Registry

/-- The registry after a registration. -/
def enter (r : Registry σ) : Registration σ → Registry σ
  | .typed t target decode predicate => r.registerTyped t target decode predicate
  | .dynamic t predicate => r.register t predicate

/-- The registry after registrations, one after the other. -/
def enterAll (r : Registry σ) (history : List (Registration σ)) : Registry σ :=
  history.foldl enter r

/-- The registrations of the built-in predicates. -/
def builtInHistory : List (Registration σ) :=
  [.typed .pod "Pod" Pod.ofJson? fun pod => .answer pod.verdict,
    .typed .job "Job" Job.ofJson? fun job => .answer job.verdict]

theorem enterAll_builtInHistory : (empty : Registry σ).enterAll builtInHistory = builtIn := rfl

/-! ## What a registry finds -/

theorem enter_eq_register (r : Registry σ) (registration : Registration σ) :
    r.enter registration = r.register registration.type registration.predicate := by
  cases registration <;> rfl

theorem lookup_filter_ne {α : Type} {t t' : TypeIdentifier} (other : t' ≠ t)
    (entries : List (TypeIdentifier × α)) :
    (entries.filter fun entry => entry.1 ≠ t).lookup t' = entries.lookup t' := by
  induction entries with
  | nil => rfl
  | cons entry rest ih =>
    by_cases own : entry.1 = t
    · have passed : (t' == entry.1) = false := by simpa [own] using other
      rw [List.filter_cons_of_neg (by simpa using own), List.lookup_cons, passed, ih]
    · rw [List.filter_cons_of_pos (by simpa using own), List.lookup_cons, List.lookup_cons, ih]

/-- A registration changes what is found for its own type and for no other. -/
theorem find?_enter (r : Registry σ) (registration : Registration σ) (t : TypeIdentifier) :
    (r.enter registration).find? t =
      if registration.type = t then some registration.predicate else r.find? t := by
  rw [enter_eq_register, find?, register, List.lookup_cons]
  by_cases own : registration.type = t
  · simp [own]
  · have other : (t == registration.type) = false := by simpa using Ne.symm own
    rw [other, if_neg own]
    exact lookup_filter_ne (Ne.symm own) r.entries

/-- The registry finds for each type the predicate of the latest registration. -/
def Tells (r : Registry σ) (history : List (Registration σ)) : Prop :=
  ∀ t, (∃ registration, Latest history t registration ∧
      r.find? t = some registration.predicate) ∨
    (∀ registration ∈ history, registration.type ≠ t) ∧ r.find? t = none

theorem tells_empty : (empty : Registry σ).Tells [] :=
  fun _ => .inr ⟨List.forall_mem_nil _, rfl⟩

theorem Tells.enter {r : Registry σ} {history : List (Registration σ)} (tells : r.Tells history)
    (registration : Registration σ) : (r.enter registration).Tells (history ++ [registration]) := by
  intro t
  rw [find?_enter]
  by_cases own : registration.type = t
  · exact .inl ⟨registration, ⟨history, [], rfl, own, List.forall_mem_nil _⟩, if_pos own⟩
  -- What is found for another type is what was found before, and its latest registration stays so.
  · rw [if_neg own]
    rcases tells t with ⟨latest, ⟨earlier, later, rfl, type, others⟩, found⟩ | ⟨others, lacks⟩
    · refine .inl ⟨latest, ⟨earlier, later ++ [registration], ?_, type, ?_⟩, found⟩
      · rw [List.append_assoc, List.cons_append]
      · exact List.forall_mem_append.mpr ⟨others, List.forall_mem_singleton.mpr own⟩
    · exact .inr ⟨List.forall_mem_append.mpr ⟨others, List.forall_mem_singleton.mpr own⟩, lacks⟩

theorem Tells.enterAll {r : Registry σ} {history : List (Registration σ)} (tells : r.Tells history)
    (registrations : List (Registration σ)) :
    (r.enterAll registrations).Tells (history ++ registrations) := by
  induction registrations generalizing r history with
  | nil =>
    rw [List.append_nil]
    exact tells
  | cons registration rest ih =>
    rw [List.append_cons]
    exact ih (tells.enter registration)

/-! ## What can be seen of a registry -/

/-- What a registry that came of a history of registrations shows. -/
structure Obeys (r : Registry σ) (history : List (Registration σ)) : Prop where
  /-- An object is judged by the latest registration of its type: the whole call is the one that
  this answers with, so no other predicate is asked.  Where there is none, nothing is asked. -/
  judged : ∀ o types, o.types = some types → types.apiVersion ≠ "" → types.kind ≠ "" →
    ∃ t, o.type? = some t ∧
      ((∃ registration, Latest history t registration ∧ registration.Answers o (r.judge o)) ∨
        (∀ registration ∈ history, registration.type ≠ t) ∧ r.judge o = .answer (.ok ()))
  contains_iff : ∀ t, r.contains t = true ↔ ∃ registration ∈ history, registration.type = t
  size : r.size = (history.map Registration.type).dedup.length
  isEmpty_iff : r.isEmpty = true ↔ r.size = 0
  /-- The text of a registry has the names of its types in ascending order. -/
  debug : ∃ names : List String, names.Pairwise (· ≤ ·) ∧
    names.Perm ((history.map Registration.type).dedup.map TypeIdentifier.display) ∧
    r.debug = "Registry \x7b types: " ++ Text.quotedList names ++ " \x7d"

variable {r : Registry σ} {history : List (Registration σ)}

theorem typeNames_sorted (r : Registry σ) : r.typeNames.Pairwise (· ≤ ·) := by
  have trans (a b c : String) (first : decide (a ≤ b) = true) (second : decide (b ≤ c) = true) :
      decide (a ≤ c) = true :=
    decide_eq_true (String.le_trans (of_decide_eq_true first) (of_decide_eq_true second))
  have total (a b : String) : (decide (a ≤ b) || decide (b ≤ a)) = true := by
    simpa using String.le_total a b
  exact (List.pairwise_mergeSort trans total _).imp of_decide_eq_true

theorem typeNames_perm (r : Registry σ) :
    r.typeNames.Perm ((r.entries.map Prod.fst).map TypeIdentifier.display) := by
  rw [List.map_map]
  exact List.mergeSort_perm _ _

theorem contains_iff_mem {t : TypeIdentifier} :
    r.contains t = true ↔ t ∈ r.entries.map Prod.fst := by
  rw [contains, find?, List.lookup_isSome_iff, List.mem_map]
  refine exists_congr fun entry => and_congr_right fun _ => ?_
  rw [beq_iff_eq, eq_comm]

theorem Tells.contains_iff (tells : r.Tells history) (t : TypeIdentifier) :
    r.contains t = true ↔ ∃ registration ∈ history, registration.type = t := by
  rcases tells t with ⟨registration, ⟨earlier, later, rfl, type, -⟩, found⟩ | ⟨others, lacks⟩
  · simp only [contains, found, Option.isSome_some, true_iff]
    exact ⟨registration, List.mem_append_right _ List.mem_cons_self, type⟩
  · simp only [contains, lacks, Option.isSome_none, Bool.false_eq_true, false_iff]
    rintro ⟨registration, mem, type⟩
    exact others registration mem type

/-- A registry asks the latest registration of the type of an object. -/
theorem Tells.judged (tells : r.Tells history) {o : Object} {t : TypeIdentifier}
    (reported : o.type? = some t) :
    (∃ registration, Latest history t registration ∧ registration.Answers o (r.judge o)) ∨
      (∀ registration ∈ history, registration.type ≠ t) ∧ r.judge o = .answer (.ok ()) := by
  rcases tells t with ⟨registration, latest, found⟩ | ⟨others, lacks⟩
  · rw [judge_of_find? reported found]
    exact .inl ⟨registration, latest, registration.answers_predicate o⟩
  · refine .inr ⟨others, judge_of_not_contains reported ?_⟩
    rw [contains, lacks, Option.isSome_none]

/-- The types with a predicate are those that were registered, each once. -/
theorem Tells.types_perm (tells : r.Tells history) :
    (r.entries.map Prod.fst).Perm (history.map Registration.type).dedup := by
  refine (List.perm_ext_iff_of_nodup r.distinct (List.nodup_dedup _)).mpr fun t => ?_
  rw [← contains_iff_mem, tells.contains_iff t, List.mem_dedup, List.mem_map]

theorem Tells.obeys (tells : r.Tells history) : r.Obeys history := by
  constructor
  case judged =>
    intro o types reported apiVersion kind
    obtain ⟨t, type⟩ : ∃ t, o.type? = some t := by
      simp [Object.type?, reported, apiVersion, kind]
    exact ⟨t, type, tells.judged type⟩
  case contains_iff => exact tells.contains_iff
  case size =>
    rw [← tells.types_perm.length_eq, List.length_map]
    rfl
  case isEmpty_iff => exact List.isEmpty_iff_length_eq_zero
  case debug =>
    exact ⟨r.typeNames, r.typeNames_sorted,
      r.typeNames_perm.trans (tells.types_perm.map TypeIdentifier.display), rfl⟩

/-- Registrations add to those that a registry came of. -/
theorem enterAll_append (r : Registry σ) (earlier later : List (Registration σ)) :
    r.enterAll (earlier ++ later) = (r.enterAll earlier).enterAll later :=
  List.foldl_append

/-- A registry that is made of nothing obeys what is registered in it. -/
theorem obeys_enterAll (history : List (Registration σ)) :
    ((empty : Registry σ).enterAll history).Obeys history :=
  (tells_empty.enterAll history).obeys

end Registry

/-! ## Shared registries -/

/-- What a program keeps of registries: of the one that all its parts share, and of its own ones in
the order in which they were made. -/
structure Shelf (α : Type u) where
  shared : α
  own : List α

namespace Shelf

/-- What a program can do to its registries.  The shared one can only be copied. -/
inductive Step (σ : Type) : Type 1 where
  | create
  | createBuiltIn
  | copyShared
  | copy (place : Nat)
  | enter (place : Nat) (registration : Registration σ)

/-- How something is kept of registries while they are made. -/
structure Keeping (σ : Type) (α : Type u) where
  empty : α
  builtIn : α
  enter : α → Registration σ → α

/-- The registries themselves are kept. -/
def registries : Keeping σ (Registry σ) := ⟨.empty, .builtIn, .enter⟩

/-- The registrations that they came of are kept. -/
def histories : Keeping σ (List (Registration σ)) :=
  ⟨[], Registry.builtInHistory, fun history registration => history ++ [registration]⟩

variable {α : Type u} {β : Type v}

def step (keeping : Keeping σ α) (shelf : Shelf α) : Step σ → Shelf α
  | .create => { shelf with own := shelf.own ++ [keeping.empty] }
  | .createBuiltIn => { shelf with own := shelf.own ++ [keeping.builtIn] }
  | .copyShared => { shelf with own := shelf.own ++ [shelf.shared] }
  | .copy place => { shelf with own := shelf.own ++ shelf.own[place]?.toList }
  | .enter place registration =>
    { shelf with own := shelf.own.modify place (keeping.enter · registration) }

/-- The shelf after steps, from the one that has the shared registry only. -/
def after (keeping : Keeping σ α) (steps : List (Step σ)) : Shelf α :=
  steps.foldl (step keeping) ⟨keeping.builtIn, []⟩

def map (f : α → β) (shelf : Shelf α) : Shelf β := ⟨f shelf.shared, shelf.own.map f⟩

/-- What becomes of each thing that is kept, becomes of what it stands for. -/
structure Turns (f : α → β) (keeping : Keeping σ α) (other : Keeping σ β) : Prop where
  empty : f keeping.empty = other.empty
  builtIn : f keeping.builtIn = other.builtIn
  enter : ∀ a registration, f (keeping.enter a registration) = other.enter (f a) registration

variable {f : α → β} {keeping : Keeping σ α} {other : Keeping σ β}

theorem Turns.map_modify (turns : Turns f keeping other) (registration : Registration σ)
    (place : Nat) (own : List α) :
    (own.modify place (keeping.enter · registration)).map f =
      (own.map f).modify place (other.enter · registration) := by
  apply List.ext_getElem?
  intro i
  simp only [List.getElem?_map, List.getElem?_modify]
  cases own[i]? with
  | none => rfl
  | some a =>
    by_cases here : place = i
    · simp [here, turns.enter]
    · simp [here]

theorem Turns.map_step (turns : Turns f keeping other) (shelf : Shelf α) (step : Step σ) :
    (shelf.step keeping step).map f = (shelf.map f).step other step := by
  cases step with
  | create => simp [Shelf.step, map, turns.empty]
  | createBuiltIn => simp [Shelf.step, map, turns.builtIn]
  | copyShared => simp [Shelf.step, map]
  | copy place => simp [Shelf.step, map, Option.toList_map]
  | enter place registration => simp only [Shelf.step, map, turns.map_modify]

theorem Turns.map_after (turns : Turns f keeping other) (steps : List (Step σ)) :
    (after keeping steps).map f = after other steps := by
  have run (shelf : Shelf α) :
      (steps.foldl (step keeping) shelf).map f = steps.foldl (step other) (shelf.map f) := by
    induction steps generalizing shelf with
    | nil => rfl
    | cons first rest ih => rw [List.foldl_cons, List.foldl_cons, ih, turns.map_step]
  rw [after, run, map, turns.builtIn]
  rfl

/-- Registries turn as their histories do. -/
theorem turns_enterAll : Turns (Registry.empty : Registry σ).enterAll histories registries where
  empty := rfl
  builtIn := Registry.enterAll_builtInHistory
  enter history registration := Registry.enterAll_append _ history [registration]

theorem shared_step (keeping : Keeping σ α) (shelf : Shelf α) (step : Step σ) :
    (shelf.step keeping step).shared = shelf.shared := by
  cases step <;> rfl

/-- Nothing that a program can do changes the shared registry. -/
theorem shared_after (keeping : Keeping σ α) (steps : List (Step σ)) :
    (after keeping steps).shared = keeping.builtIn := by
  have run (shelf : Shelf α) : (steps.foldl (step keeping) shelf).shared = shelf.shared := by
    induction steps generalizing shelf with
    | nil => rfl
    | cons first rest ih => rw [List.foldl_cons, ih, shared_step]
  rw [after, run]

end Shelf

/-- A registry obeys the registrations that led to it: those in a registry made of nothing, those in
one with the built-in predicates after the built-in ones, and, of the registries of a program, those
in each and in what it was copied from.  The one that is shared stays as it was. -/
theorem Registry.history_told (σ : Type) :
    (∀ history : List (Registration σ), (empty.enterAll history).Obeys history) ∧
      (∀ history : List (Registration σ),
        (builtIn.enterAll history).Obeys (builtInHistory ++ history)) ∧
      ∀ steps : List (Shelf.Step σ),
        (Shelf.after Shelf.registries steps).shared = builtIn ∧
          List.Forall₂ Obeys (Shelf.after Shelf.registries steps).own
            (Shelf.after Shelf.histories steps).own := by
  refine ⟨obeys_enterAll, fun history => ?_, fun steps => ⟨Shelf.shared_after _ steps, ?_⟩⟩
  · rw [← enterAll_builtInHistory, ← enterAll_append]
    exact obeys_enterAll _
  · rw [← Shelf.turns_enterAll.map_after, Shelf.map, List.forall₂_map_left_iff, List.forall₂_same]
    exact fun history _ => obeys_enterAll history

end Retention
