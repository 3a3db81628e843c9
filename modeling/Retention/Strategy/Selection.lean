import Retention.Strategy.Basic

/-!
# Selection

What the strategies select.  Selection by count sorts the candidates by `Object.precedes` and takes
the surplus from the front; candidates that tie stay in their order.  Selection by age keeps the
order of the candidates and compares instants strictly: an object exactly at the limit stays.
-/

namespace Retention

/-- The oldest candidates beyond the `keep` newest, oldest first. -/
def surplus (keep : Nat) (candidates : List Object) : List Object :=
  (candidates.mergeSort Object.precedes).take (candidates.length - keep)

def selectByMaxCount (candidates : List Object) (count : Int64) :
    Except StrategyError (List Object) :=
  if count < 0 then .error (.config (.negativeMaxCount count))
  else .ok (surplus count.toInt.toNat candidates)

def Object.isOlderThan (cutoff : Instant) (o : Object) : Bool :=
  match o.metadata.createdAt with
  | some t => t < cutoff
  | none => false

/-- The candidates created before an instant. -/
def selectOlderThan (candidates : List Object) (cutoff : Instant) : List Object :=
  candidates.filter (Object.isOlderThan cutoff)

/-- The candidates that are older than an age at the instant `now`. -/
def selectByMaxAge (candidates : List Object) (age : String) (now : Instant) :
    Except StrategyError (List Object) :=
  match readMaxAge age with
  | .error e => .error (.config e)
  | .ok nanos =>
    match now.back nanos with
    | none => .error .beforeCalendar
    | some cutoff => .ok (selectOlderThan candidates cutoff)

/-- The candidates that a strategy removes at the instant `now`. -/
def Strategy.select {σ : Type} (strategy : Strategy σ) (candidates : List Object) (now : Instant) :
    Call σ (Except StrategyError (List Object)) :=
  match strategy with
  | maxCount count => .answer (selectByMaxCount candidates count)
  | maxAge age => .answer (selectByMaxAge candidates age now)
  | olderThan cutoff => .answer (.ok (selectOlderThan candidates cutoff))
  | custom (some selector) => do
    let selected ← selector candidates
    return selected.mapError .custom
  | custom none => .answer (.error (.config .missingCustomStrategy))

end Retention
