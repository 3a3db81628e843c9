import Retention.Prunability.Error
import Retention.Store.Basic
import Retention.Strategy.Basic

/-!
# Pass errors

Why a pass stops.  An error met while objects are deleted carries the keys of those deleted before
it, because deletions are not taken back.
-/

namespace Retention

/-- Why a pass stops. -/
inductive PruneError where
  | config (error : ConfigError)
  | list (type : TypeIdentifier) (source : StoreError)
  /-- A listed object reports another type. -/
  | convert (resource : ResourceKey) (type : TypeIdentifier) (reported : TypeMeta)
  /-- Whether an object may be removed cannot be decided. -/
  | predicate (resource : ResourceKey) (source : PredicateError)
  | strategy (source : StrategyError)
  | preDelete (resource : ResourceKey) (deleted : List ResourceKey) (text : String)
  | delete (resource : ResourceKey) (deleted : List ResourceKey) (source : StoreError)
  | cancelled (deleted : List ResourceKey)
  deriving DecidableEq

namespace PruneError

/-- The keys of the objects deleted before the pass stopped. -/
def deleted : PruneError → List ResourceKey
  | preDelete _ deleted _ | delete _ deleted _ | cancelled deleted => deleted
  | _ => []

/-- Whether the settings are at fault, so that another pass would fail as well. -/
def isConfigError : PruneError → Bool
  | config _ | strategy (.config _) => true
  | _ => false

/-- The key of the object that an error is about. -/
def resource? : PruneError → Option ResourceKey
  | convert resource _ _ | predicate resource _ | preDelete resource _ _ | delete resource _ _ =>
    some resource
  | _ => none

def reportedMessage (reported : TypeMeta) : String :=
  "object reports apiVersion '" ++ reported.apiVersion ++ "' and kind '" ++ reported.kind ++ "'"

def message : PruneError → String
  | config error => "Invalid pruner configuration: " ++ error.message
  | list type source => "Failed to list " ++ type.display ++ ": " ++ source.message
  | convert resource type reported =>
    "Failed to convert " ++ resource.display ++ " into " ++ type.display ++ ": " ++
      reportedMessage reported
  | predicate resource source =>
    "Prunability check failed for " ++ resource.display ++ ": " ++ source.message
  | strategy source => "Strategy failed: " ++ source.message
  | preDelete resource _ text => "Pre-delete hook failed for " ++ resource.display ++ ": " ++ text
  | delete resource _ source => "Failed to delete " ++ resource.display ++ ": " ++ source.message
  | cancelled _ => "Pruning was cancelled"

end PruneError

end Retention
