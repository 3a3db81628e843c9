import Retention.Cluster.Error
import Retention.Resource.Object
import Retention.Surroundings

/-!
# Stores

A store holds the objects that a pass lists and deletes.  Both calls wait for the store, so they can
be given up when the token fires: they then answer with nothing.
-/

namespace Retention

/-- Why a store fails. -/
inductive StoreError where
  | cluster (error : Cluster.Error)
  /-- The cluster does not make a type known. -/
  | discovery (type : TypeIdentifier) (error : Cluster.Error)
  | other (text : String)
  deriving DecidableEq

def StoreError.message : StoreError → String
  | cluster error => "Kubernetes API error: " ++ error.message
  | discovery type error =>
    "Failed to discover API resource for " ++ type.display ++ ": " ++ error.message
  | other text => text

/-- Which objects to list: those of a type, with the labels of a selector, in a namespace. -/
structure ListRequest where
  type : TypeIdentifier
  selector : Option String
  ns : Option String
  deriving DecidableEq, Repr

/-- The answer of a call that may be given up. -/
abbrev Awaited (α : Type) := Option (Except StoreError α)

structure Store (σ : Type) where
  list : ListRequest → Call σ (Awaited (List Object))
  delete : TypeIdentifier → Object → Call σ (Awaited Unit)

end Retention
