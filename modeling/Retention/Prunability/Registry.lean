import Retention.Prunability.Workload
import Retention.Surroundings

/-!
# The prunability registry

A registry maps resource types to predicates, which decide whether a single object may be removed at
all, whatever the limits say.  A type without a predicate is always prunable.  Registering a
predicate for a type replaces the one it had.

A predicate may be registered over a type of its own: the object is then decoded first, and an
object that does not decode is an error that the predicate never sees.
-/

namespace Retention

/-- Decides whether an object may be removed. -/
abbrev Predicate (σ : Type) := Object → Call σ Verdict

/-- A map from resource types to predicates, each type once. -/
structure Registry (σ : Type) where
  entries : List (TypeIdentifier × Predicate σ)
  distinct : (entries.map Prod.fst).Nodup

namespace Registry

variable {σ α : Type}

def empty : Registry σ := ⟨[], .nil⟩

/-- Gives a type a predicate, in place of the one it may have. -/
def register (r : Registry σ) (t : TypeIdentifier) (predicate : Predicate σ) : Registry σ where
  entries := (t, predicate) :: r.entries.filter fun entry => entry.1 ≠ t
  distinct := by
    refine List.nodup_cons.mpr ⟨?_, ?_⟩
    · simp
    · exact (List.filter_sublist.map Prod.fst).nodup r.distinct

/-- A predicate over decoded objects, as one over objects: what does not decode is in error. -/
def typed (target : String) (decode : Json → Option α) (predicate : α → Call σ Verdict) :
    Predicate σ := fun object =>
  match object.toJson?.bind decode with
  | some value => predicate value
  | none => .answer (.error (.conversion object.key target))

/-- Gives a type a predicate over decoded objects. -/
def registerTyped (r : Registry σ) (t : TypeIdentifier) (target : String)
    (decode : Json → Option α) (predicate : α → Call σ Verdict) : Registry σ :=
  r.register t (typed target decode predicate)

def registration (t : TypeIdentifier) : LogRecord :=
  ⟨.debug, "Registering prunability predicate", [("type_id", t.display)]⟩

def podPredicate : Predicate σ :=
  typed "Pod" Pod.ofJson? fun pod => .answer pod.verdict

def jobPredicate : Predicate σ :=
  typed "Job" Job.ofJson? fun job => .answer job.verdict

def builtIn : Registry σ :=
  (empty.register .pod podPredicate).register .job jobPredicate

/-- The log records of the registrations that make the registry with the built-in predicates. -/
def builtInRegistrations : List LogRecord := [registration .pod, registration .job]

def find? (r : Registry σ) (t : TypeIdentifier) : Option (Predicate σ) :=
  r.entries.lookup t

def contains (r : Registry σ) (t : TypeIdentifier) : Bool :=
  (r.find? t).isSome

def size (r : Registry σ) : Nat := r.entries.length

def isEmpty (r : Registry σ) : Bool := r.entries.isEmpty

/-- Asks the predicate of an object's own type; an object of another type passes, and one that does
not say its type is in error. -/
def judge (r : Registry σ) (object : Object) : Call σ Verdict :=
  match object.type? with
  | none => .answer (.error (.missingTypeMeta object.key))
  | some t =>
    match r.find? t with
    | some predicate => predicate object
    | none => .answer (.ok ())

/-- The names of the types with a predicate, in ascending order. -/
def typeNames (r : Registry σ) : List String :=
  (r.entries.map fun entry => entry.1.display).mergeSort fun a b => a ≤ b

def debug (r : Registry σ) : String :=
  "Registry \x7b types: " ++ Text.quotedList r.typeNames ++ " \x7d"

end Registry

end Retention
