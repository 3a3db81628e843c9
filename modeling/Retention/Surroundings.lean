/-!
# Calls on the surroundings

The library runs amid surroundings it knows nothing about: a store of objects, and code that its
user supplies.  All of them share a state of some type `σ`, and a call on them is a function on that
state.  So a call may answer by what has been called before, and the next call sees what this one
changed.

A call can also fire the cancellation token of the pass that makes it, and it can write to the log.
`Reply` holds all of this, and calls follow one another as a monad: states are handed on, the token
has fired if either call fired it, and logs are put one after the other.

A call that waits for something outside answers with an option.  It answers with nothing when the
token fires before what it waits for arrives, and is then given up.
-/

namespace Retention

/-! ## The log -/

inductive Level where
  | debug
  | info
  | warn
  | error
  deriving DecidableEq, Repr

def Level.name : Level → String
  | debug => "DEBUG"
  | info => "INFO"
  | warn => "WARN"
  | error => "ERROR"

/-- A line of the log: a message and the named values that go with it. -/
structure LogRecord where
  level : Level
  message : String
  fields : List (String × String)
  deriving DecidableEq, Repr

def LogRecord.line (r : LogRecord) : String :=
  " ".intercalate <|
    r.level.name :: r.message :: r.fields.map fun field => field.1 ++ "=" ++ field.2

/-! ## Calls -/

/-- What comes back from a call: its answer, the state of the surroundings after it, whether the
token fired while it ran, and what it wrote to the log. -/
structure Reply (σ α : Type) where
  answer : α
  state : σ
  fired : Bool
  log : List LogRecord

/-- A call on surroundings with a state of type `σ`. -/
def Call (σ α : Type) : Type := σ → Reply σ α

namespace Call

variable {σ α β : Type}

def run (call : Call σ α) (state : σ) : Reply σ α := call state

/-- Answers and does nothing. -/
def answer (a : α) : Call σ α := fun state => ⟨a, state, false, []⟩

def andThen (call : Call σ α) (next : α → Call σ β) : Call σ β := fun state =>
  let first := call.run state
  let second := (next first.answer).run first.state
  ⟨second.answer, second.state, first.fired || second.fired, first.log ++ second.log⟩

/-- The answer of two calls is that of the second one, in the state that the first one leaves. -/
theorem answer_andThen (call : Call σ α) (next : α → Call σ β) (state : σ) :
    ((call.andThen next).run state).answer =
      ((next (call.run state).answer).run (call.run state).state).answer := rfl

instance : Monad (Call σ) where
  pure := answer
  bind := andThen

def change (f : σ → σ) : Call σ Unit := fun state => ⟨(), f state, false, []⟩

def read (f : σ → α) : Call σ α := fun state => ⟨f state, state, false, []⟩

def fire : Call σ Unit := fun state => ⟨(), state, true, []⟩

def note (record : LogRecord) : Call σ Unit := fun state => ⟨(), state, false, [record]⟩

end Call

end Retention
