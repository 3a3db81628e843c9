import Retention.Pruner.Prune

/-!
# Views of a trace

What can be read off the trace of a pass: the calls by which it finds out what to remove
(`inquiries`), those that remove something or come right before (`removals`), and what these calls
were about.  A view is taken event by event and keeps the order of the trace, so the view of two
traces put one after the other is the two views put one after the other.  What others note in the
log is in no view.
-/

namespace Retention

/-! ## Events -/

/-- A deletion that a store was asked for, and its answer. -/
structure Deletion where
  type : TypeIdentifier
  object : Object
  answer : Awaited Unit

/-- The key of the object of a deletion, where the store says that it is gone. -/
@[simp]
def Deletion.goneKey? : Deletion → Option ResourceKey
  | ⟨_, o, some (.ok ())⟩ => some o.key
  | _ => none

namespace Event

/-- The event, where it is a call by which a pass finds out what to remove. -/
@[simp]
def inquiry? : Event → Option Event
  | listed request answer => some (listed request answer)
  | judged o verdict => some (judged o verdict)
  | selected candidates answer => some (selected candidates answer)
  | _ => none

/-- The event, where it is a call of the hook or a deletion. -/
@[simp]
def removal? : Event → Option Event
  | hooked o answer => some (hooked o answer)
  | deleted type o answer => some (deleted type o answer)
  | _ => none

/-- The object that an event hands to the hook or to the store. -/
@[simp]
def handed? : Event → Option Object
  | hooked o _ => some o
  | deleted _ o _ => some o
  | _ => none

@[simp]
def deletion? : Event → Option Deletion
  | deleted type o answer => some ⟨type, o, answer⟩
  | _ => none

@[simp]
def listing? : Event → Option (ListRequest × Awaited (List Object))
  | listed request answer => some (request, answer)
  | _ => none

@[simp]
def prunable? : Event → Option Object
  | judged o (.ok ()) => some o
  | _ => none

@[simp]
def judgement? : Event → Option (Object × Verdict)
  | judged o verdict => some (o, verdict)
  | _ => none

@[simp]
def strategyAnswer? : Event → Option (Except StrategyError (List Object))
  | selected _ answer => some answer
  | _ => none

/-- The event, where it is a call of the store or the hook that does not end well. -/
@[simp]
def failure? : Event → Option Event
  | listed _ (some (.ok _)) | hooked _ (.ok ()) | deleted _ _ (some (.ok ())) => none
  | listed request answer => some (listed request answer)
  | hooked o answer => some (hooked o answer)
  | deleted type o answer => some (deleted type o answer)
  | _ => none

@[simp]
def selection? : Event → Option (List Object)
  | selected _ (.ok selection) => some selection
  | _ => none

end Event

/-! ## Views -/

/-- What can be seen of a trace, event by event. -/
def viewed {α : Type} (see : Event → Option α) (trace : List Event) : List α :=
  trace.filterMap see

section Laws

variable {α : Type} {see : Event → Option α} {trace : List Event}

@[simp]
theorem viewed_nil : viewed see [] = [] := rfl

@[simp]
theorem viewed_cons (event : Event) (trace : List Event) :
    viewed see (event :: trace) = (see event).toList ++ viewed see trace := by
  cases seen : see event <;> simp [viewed, seen]

@[simp]
theorem viewed_append (earlier later : List Event) :
    viewed see (earlier ++ later) = viewed see earlier ++ viewed see later :=
  List.filterMap_append

/-- Notes in the log are not seen where none of them is. -/
theorem viewed_noted (blind : ∀ record, see (.noted record) = none) (log : List LogRecord) :
    viewed see (log.map .noted) = [] := by
  simp [viewed, List.filterMap_map, blind]

theorem mem_viewed {a : α} : a ∈ viewed see trace ↔ ∃ event ∈ trace, see event = some a :=
  List.mem_filterMap

end Laws

/-- The calls by which a pass finds out what to remove. -/
abbrev inquiries (trace : List Event) : List Event := viewed Event.inquiry? trace

/-- The calls of the hook and the deletions. -/
abbrev removals (trace : List Event) : List Event := viewed Event.removal? trace

/-- The objects that were handed to the hook or to the store. -/
abbrev handedObjects (trace : List Event) : List Object := viewed Event.handed? trace

/-- The deletions that the store was asked for. -/
abbrev deletions (trace : List Event) : List Deletion := viewed Event.deletion? trace

/-- The keys of the objects that are gone, in the order in which they went. -/
abbrev goneKeys (trace : List Event) : List ResourceKey :=
  (deletions trace).filterMap Deletion.goneKey?

/-- What the store was asked to list, with its answers. -/
abbrev listings (trace : List Event) : List (ListRequest × Awaited (List Object)) :=
  viewed Event.listing? trace

/-- The objects that were found prunable. -/
abbrev prunableObjects (trace : List Event) : List Object := viewed Event.prunable? trace

/-- The objects that the registry was asked about, with its verdicts. -/
abbrev judgements (trace : List Event) : List (Object × Verdict) :=
  viewed Event.judgement? trace

/-- The answers of the strategy. -/
abbrev strategyAnswers (trace : List Event) : List (Except StrategyError (List Object)) :=
  viewed Event.strategyAnswer? trace

/-- The calls of the store and the hook that did not end well. -/
abbrev failures (trace : List Event) : List Event := viewed Event.failure? trace

/-- What the strategy selected. -/
abbrev selections (trace : List Event) : List (List Object) := viewed Event.selection? trace

theorem mem_judgements {o : Object} {verdict : Verdict} {trace : List Event} :
    (o, verdict) ∈ judgements trace ↔ .judged o verdict ∈ trace := by
  rw [mem_viewed]
  constructor
  · rintro ⟨event, mem, sees⟩
    cases event with
    | judged x v =>
      cases sees
      exact mem
    | _ => cases sees
  · exact fun mem => ⟨_, mem, rfl⟩

section Notes

variable (log : List LogRecord)

@[simp]
theorem inquiries_noted : inquiries (log.map .noted) = [] := viewed_noted (fun _ => rfl) log

@[simp]
theorem removals_noted : removals (log.map .noted) = [] := viewed_noted (fun _ => rfl) log

@[simp]
theorem handedObjects_noted : handedObjects (log.map .noted) = [] := viewed_noted (fun _ => rfl) log

@[simp]
theorem deletions_noted : deletions (log.map .noted) = [] := viewed_noted (fun _ => rfl) log

@[simp]
theorem listings_noted : listings (log.map .noted) = [] := viewed_noted (fun _ => rfl) log

@[simp]
theorem prunableObjects_noted : prunableObjects (log.map .noted) = [] :=
  viewed_noted (fun _ => rfl) log

@[simp]
theorem judgements_noted : judgements (log.map .noted) = [] := viewed_noted (fun _ => rfl) log

@[simp]
theorem strategyAnswers_noted : strategyAnswers (log.map .noted) = [] :=
  viewed_noted (fun _ => rfl) log

@[simp]
theorem failures_noted : failures (log.map .noted) = [] := viewed_noted (fun _ => rfl) log

@[simp]
theorem selections_noted : selections (log.map .noted) = [] := viewed_noted (fun _ => rfl) log

end Notes

section Factors

variable (trace : List Event)

/-- What can be seen of a view can be seen of the trace. -/
theorem viewed_viewed {α : Type} {see : Event → Option α} {through : Event → Option Event}
    (factors : ∀ event, (through event).bind see = see event) :
    viewed see (viewed through trace) = viewed see trace := by
  rw [viewed, viewed, List.filterMap_filterMap, viewed]
  exact congrArg (List.filterMap · trace) (funext factors)

theorem selections_inquiries : selections (inquiries trace) = selections trace :=
  viewed_viewed trace fun event => by cases event <;> rfl

theorem listings_inquiries : listings (inquiries trace) = listings trace :=
  viewed_viewed trace fun event => by cases event <;> rfl

theorem prunableObjects_inquiries : prunableObjects (inquiries trace) = prunableObjects trace :=
  viewed_viewed trace fun event => by cases event <;> rfl

theorem judgements_inquiries : judgements (inquiries trace) = judgements trace :=
  viewed_viewed trace fun event => by cases event <;> rfl

theorem strategyAnswers_inquiries : strategyAnswers (inquiries trace) = strategyAnswers trace :=
  viewed_viewed trace fun event => by cases event <;> rfl

theorem deletions_removals : deletions (removals trace) = deletions trace :=
  viewed_viewed trace fun event => by cases event <;> rfl

end Factors

end Retention
