import Retention.Pruner.Basic

/-!
# Configurations

A configuration holds those settings of a pruner that can be written down: all but the registry, the
hook, the clock, and the function of a custom strategy.  `Config.check` finds every error that can
be found without that function, and `Config.pruner` makes the pruner.
-/

namespace Retention

/-- The settings of a strategy that can be written down. -/
inductive StrategySettings where
  | maxCount (count : Int64)
  | maxAge (age : String)
  | olderThan (cutoff : Instant)
  | custom
  deriving DecidableEq

namespace StrategySettings

/-- The strategy with these settings; one with a function lacks it. -/
def strategy {σ : Type} : StrategySettings → Strategy σ
  | maxCount count => .maxCount count
  | maxAge age => .maxAge age
  | olderThan cutoff => .olderThan cutoff
  | custom => .custom none

def mode (s : StrategySettings) : String :=
  (s.strategy : Strategy Unit).mode

/-- Checks the settings, the function of a custom strategy aside. -/
def check : StrategySettings → Except ConfigError Unit
  | custom => .ok ()
  | s => (s.strategy : Strategy Unit).check

end StrategySettings

/-- The settings of a pruner that can be written down. -/
structure Config where
  type : TypeIdentifier
  strategy : StrategySettings
  labels : Labels
  ns : Option String
  dryRun : Bool
  respectPreserve : Bool
  deriving DecidableEq

namespace Config

/-- Checks the target and then the strategy of a configuration. -/
def check (c : Config) : Except ConfigError Unit :=
  match checkTarget c.type c.ns c.labels with
  | .error e => .error e
  | .ok () => c.strategy.check

/-- The pruner with these settings and otherwise standard ones. -/
def pruner {σ : Type} (c : Config) (clock : σ → Instant) : Pruner σ :=
  { Pruner.ofStrategy c.strategy.strategy clock with
    type := c.type
    labels := c.labels
    dryRun := c.dryRun
    respectPreserve := c.respectPreserve
    ns := c.ns }

end Config

end Retention
