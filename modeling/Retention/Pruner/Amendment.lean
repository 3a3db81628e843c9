import Retention.Pruner.Basic

/-!
# Amendments

A pruner is put together from a strategy and a clock by changes of its settings, one after the other.
Each change replaces what was set before; only a single label is added to the others.
-/

namespace Retention

variable {σ : Type}

/-- A change of the settings of a pruner. -/
inductive Amendment (σ : Type) where
  | type (type : TypeIdentifier)
  | strategy (strategy : Strategy σ)
  /-- The selection is left to a function, whatever the strategy was. -/
  | selector (selector : Selector σ)
  | registry (registry : Registry σ)
  | labels (labels : Labels)
  /-- One label more is asked for. -/
  | label (key value : String)
  | ns (ns : String)
  | dryRun (dryRun : Bool)
  | respectPreserve (respect : Bool)
  | hook (hook : Hook σ)
  | clock (clock : σ → Instant)

namespace Pruner

/-- The pruner after a change of its settings. -/
def amend (p : Pruner σ) : Amendment σ → Pruner σ
  | .type type => { p with type := type }
  | .strategy strategy => { p with strategy := strategy }
  | .selector selector => { p with strategy := .custom (some selector) }
  | .registry registry => { p with registry := registry }
  | .labels labels => { p with labels := labels }
  | .label key value => p.addLabel key value
  | .ns ns => { p with ns := some ns }
  | .dryRun dryRun => { p with dryRun := dryRun }
  | .respectPreserve respect => { p with respectPreserve := respect }
  | .hook hook => { p with hook := some hook }
  | .clock clock => { p with clock := clock }

/-- The pruner with a strategy and a clock after changes of its settings, one after the other. -/
def ofAmendments (strategy : Strategy σ) (clock : σ → Instant) (amendments : List (Amendment σ)) :
    Pruner σ :=
  amendments.foldl amend (ofStrategy strategy clock)

end Pruner

end Retention
