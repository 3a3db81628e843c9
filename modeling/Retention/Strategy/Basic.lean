import Retention.Config.Error
import Retention.Duration.Reader
import Retention.Instant.Writer
import Retention.Resource.Object
import Retention.Surroundings
import Retention.Text.Quoted

/-!
# Strategies

A strategy decides which of the objects that may be removed are removed: those in excess of a
count, those over an age, those created before an instant, or what a function of the user selects.
This module has their settings and the check of them, which needs no object.
-/

namespace Retention

/-- A function that selects objects from a list, or fails with a text. -/
abbrev Selector (σ : Type) := List Object → Call σ (Except String (List Object))

/-- A policy for the removal of objects. -/
inductive Strategy (σ : Type) where
  /-- Keep at most this many objects and remove the oldest beyond it. -/
  | maxCount (count : Int64)
  /-- Remove the objects created more than this long ago. -/
  | maxAge (age : String)
  /-- Remove the objects created before this instant. -/
  | olderThan (cutoff : Instant)
  /-- Leave the selection to a function, which may still have to be given. -/
  | custom (selector : Option (Selector σ))

/-- Why a strategy selects nothing. -/
inductive StrategyError where
  | config (error : ConfigError)
  | custom (text : String)
  /-- The age reaches back past the start of the calendar. -/
  | beforeCalendar
  deriving DecidableEq

def StrategyError.message : StrategyError → String
  | config error => error.message
  | custom text => "Custom strategy failed: " ++ text
  | beforeCalendar => "the age reaches back past the start of the calendar"

/-- The greatest age that a text sets, in nanoseconds. -/
def readMaxAge (age : String) : Except ConfigError Nat :=
  match Duration.read age with
  | .error e => .error (.invalidMaxAge age (.unreadable e))
  | .ok d => if d.nanos < 0 then .error (.invalidMaxAge age .negative) else .ok d.nanos.toNat

namespace Strategy

variable {σ : Type}

def mode : Strategy σ → String
  | maxCount _ => "maxCount"
  | maxAge _ => "maxAge"
  | olderThan _ => "olderThan"
  | custom _ => "custom"

def check : Strategy σ → Except ConfigError Unit
  | maxCount count => if count < 0 then .error (.negativeMaxCount count) else .ok ()
  | maxAge age => (readMaxAge age).map fun _ => ()
  | olderThan _ => .ok ()
  | custom none => .error .missingCustomStrategy
  | custom (some _) => .ok ()

def debug : Strategy σ → String
  | maxCount count => "MaxCount(" ++ toString count.toInt ++ ")"
  | maxAge age => "MaxAge(" ++ Text.quoted age ++ ")"
  | olderThan cutoff => "OlderThan(" ++ cutoff.write ++ ")"
  | custom none => "Custom(None)"
  | custom (some _) => "Custom(Some(" ++ Text.quoted "<fn>" ++ "))"

end Strategy

end Retention
