import Retention.Config.Basic
import Retention.Instant.Reader

/-!
# Reading the settings of a strategy

The settings of a strategy are named members, or a list of values; in both a mode comes with them
that says which kind of strategy they are for.  Each kind but the custom one has a single value.
Its member is found by its name or by the number 0, and may not be there twice; other members do
not count, but each needs a name or a number.  A list holds the value and nothing else.

The values are taken as they are: a count is an integer, an age or an instant is a text.
-/

namespace Retention

/-- A value among the settings of a strategy, or the name of a member. -/
inductive Setting where
  | integer (value : Int)
  | text (value : String)
  | other
  deriving DecidableEq, Repr

/-- What comes with the mode of a strategy. -/
inductive Settings where
  | members (entries : List (Setting × Setting))
  | values (items : List Setting)
  deriving DecidableEq, Repr

namespace Settings

/-- Whether a name stands for the single value called `field`; none where it is no name. -/
def isFor? (field : String) : Setting → Option Bool
  | .text name => some (name = field)
  | .integer n => if 0 ≤ n then some (n = 0) else none
  | .other => none

/-- The single value, which is called `field`. -/
def single? (field : String) : Settings → Option Setting
  | members entries => do
    let marked ← entries.mapM fun entry => (isFor? field entry.1).map fun isFor => (isFor, entry.2)
    match marked.filter Prod.fst with
    | [(_, value)] => some value
    | _ => none
  | values [value] => some value
  | values _ => none

end Settings

namespace Setting

def count? : Setting → Option Int64
  | integer n =>
    if Int64.minValue.toInt ≤ n ∧ n ≤ Int64.maxValue.toInt then some (.ofInt n) else none
  | _ => none

def text? : Setting → Option String
  | text value => some value
  | _ => none

end Setting

def StrategySettings.read? (mode : String) (settings : Settings) : Option StrategySettings :=
  if mode = "maxCount" then (settings.single? "maxCount").bind (·.count?) |>.map .maxCount
  else if mode = "maxAge" then (settings.single? "maxAge").bind (·.text?) |>.map .maxAge
  else if mode = "olderThan" then
    (settings.single? "cutoff").bind (·.text?) |>.bind Instant.read? |>.map .olderThan
  else if mode = "custom" then
    match settings with
    | .members _ => some .custom
    | .values [] => some .custom
    | .values _ => none
  else none

end Retention
