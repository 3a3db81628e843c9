import Retention.Pruner.Event

/-!
# Parts of a pass

A part of a pass runs amid surroundings whose token may have fired.  It ends with a value or with
the error that stops the pass, and leaves a trace.  Parts follow one another as a monad: the second
runs where the first ended with a value, and the traces are put one after the other.

The token can be fired by a call that the pass makes, and by somebody else between two calls.  A
pass notices only when it looks, so a token is held as the count of the looks that still find it
quiet.
-/

namespace Retention

/-! ## Surroundings and their token -/

/-- A token, as the count of the looks that still find that it has not fired.  Without a count, all
of them do unless a call fires it. -/
structure Token where
  quietLooks : Option Nat
  deriving DecidableEq, Repr

namespace Token

def fired : Token := ⟨some 0⟩

/-- The token that nobody but a call can fire. -/
def quiet : Token := ⟨none⟩

/-- Whether a look finds that the token has fired. -/
def hasFired (t : Token) : Bool := t.quietLooks = some 0

def looked (t : Token) : Token := ⟨t.quietLooks.map Nat.pred⟩

/-- The token after a call that may have fired it. -/
def afterCall (t : Token) (called : Bool) : Token := if called then fired else t

/-- A token of which it is known whether it has fired, and that nobody but a call can fire. -/
def ofFired (fired : Bool) : Token := quiet.afterCall fired

instance : Coe Bool Token := ⟨ofFired⟩

end Token

/-- The surroundings of a pass: their state and the token. -/
structure Scene (σ : Type) where
  state : σ
  token : Token

namespace Scene

variable {σ α : Type}

def looked (scene : Scene σ) : Scene σ := ⟨scene.state, scene.token.looked⟩

/-- The surroundings after a call that comes to its end. -/
def called (scene : Scene σ) (reply : Reply σ α) : Scene σ :=
  ⟨reply.state, scene.token.afterCall reply.fired⟩

/-- The surroundings after a call that is given up when the token fires. -/
def awaited (scene : Scene σ) (reply : Reply σ (Option α)) : Scene σ :=
  ⟨reply.state, scene.token.looked.afterCall (reply.fired || reply.answer.isNone)⟩

end Scene

/-! ## Parts and how they follow one another -/

/-- How far a part of a pass came. -/
structure Progress (σ α : Type) where
  outcome : Except PruneError α
  scene : Scene σ
  trace : List Event

/-- What a part of a pass comes to, with the trace of what was before it. -/
def Progress.after {σ α : Type} (earlier : List Event) (r : Progress σ α) : Progress σ α :=
  ⟨r.outcome, r.scene, earlier ++ r.trace⟩

/-- A part of a pass that ends with an `α`. -/
def Pass (σ α : Type) : Type := Scene σ → Progress σ α

namespace Pass

variable {σ α β : Type}

def run (pass : Pass σ α) (scene : Scene σ) : Progress σ α := pass scene

def done (a : α) : Pass σ α := fun scene => ⟨.ok a, scene, []⟩

def stop (error : PruneError) : Pass σ α := fun scene => ⟨.error error, scene, []⟩

def andThen (pass : Pass σ α) (next : α → Pass σ β) : Pass σ β := fun scene =>
  let first := pass.run scene
  match first.outcome with
  | .error error => ⟨.error error, first.scene, first.trace⟩
  | .ok a =>
    ((next a).run first.scene).after first.trace

instance : Monad (Pass σ) where
  pure := done
  bind := andThen

section Following

variable {pass : Pass σ α} {next : α → Pass σ β} {scene middle : Scene σ} {trace : List Event}

/-- A part that ends with a value is followed by the next one. -/
theorem run_bind_of_ok {a : α} (first : pass.run scene = ⟨.ok a, middle, trace⟩) :
    (pass >>= next).run scene = ((next a).run middle).after trace := by
  change (pass.andThen next).run scene = _
  simp only [run, andThen] at first ⊢
  rw [first]

/-- A part that stops the pass is the last one. -/
theorem run_bind_of_error {e : PruneError} (first : pass.run scene = ⟨.error e, middle, trace⟩) :
    (pass >>= next).run scene = ⟨.error e, middle, trace⟩ := by
  change (pass.andThen next).run scene = _
  simp only [run, andThen] at first ⊢
  rw [first]

end Following

def report (notice : Notice) : Pass σ Unit := fun scene => ⟨.ok (), scene, [.reported notice]⟩

def reportStop (notice : Notice) (error : PruneError) : Pass σ α := fun scene =>
  ⟨.error error, scene, [.reported notice]⟩

/-- Reads something off the state of the surroundings. -/
def read (f : σ → α) : Pass σ α := fun scene => ⟨.ok (f scene.state), scene, []⟩

def fired : Pass σ Bool := fun scene => ⟨.ok scene.token.hasFired, scene.looked, []⟩

/-- Makes a call on the surroundings that comes to its end. -/
def call (event : α → Event) (call : Call σ α) : Pass σ α := fun scene =>
  let reply := call.run scene.state
  ⟨.ok reply.answer, scene.called reply, event reply.answer :: reply.log.map .noted⟩

/-- Makes a call on the surroundings that is given up when the token fires.  It is not made where
the token has fired before. -/
def await (event : Option α → Event) (call : Call σ (Option α)) : Pass σ (Option α) := fun scene =>
  if scene.token.hasFired then ⟨.ok none, scene, []⟩
  else
    let reply := call.run scene.state
    ⟨.ok reply.answer, scene.awaited reply, event reply.answer :: reply.log.map .noted⟩

theorem run_call {event : α → Event} {call : Call σ α} {scene : Scene σ} {reply : Reply σ α}
    (called : call.run scene.state = reply) :
    (Pass.call event call).run scene =
      ⟨.ok reply.answer, scene.called reply, event reply.answer :: reply.log.map .noted⟩ := by
  subst called
  rfl

/-- A call that is given up when the token fires is not made after that. -/
theorem run_await_of_hasFired {event : Option α → Event} {call : Call σ (Option α)}
    {scene : Scene σ} (fired : scene.token.hasFired = true) :
    (await event call).run scene = ⟨.ok none, scene, []⟩ := by
  simp [run, await, fired]

theorem run_await_of_quiet {event : Option α → Event} {call : Call σ (Option α)}
    {scene : Scene σ} {reply : Reply σ (Option α)} (quiet : scene.token.hasFired = false)
    (called : call.run scene.state = reply) :
    (await event call).run scene =
      ⟨.ok reply.answer, scene.awaited reply,
        event reply.answer :: reply.log.map .noted⟩ := by
  simp [run, await, quiet, called]

end Pass

end Retention
