import Retention.Resource.TypeIdentifier

/-!
# Resources of the cluster

A cluster tells, for a group and version of types, the resources that it serves.  From such a list
an `ApiResource` is made: what has to be known to address the objects of a type.
-/

namespace Retention.Cluster

/-- A resource in the list that the cluster gives of a group and version. -/
structure ListedResource where
  name : String
  kind : String
  namespaced : Bool
  group : Option String
  deriving DecidableEq, Repr

/-- The resources that the cluster serves for a group and version. -/
structure ResourceList where
  groupVersion : String
  resources : List ListedResource
  deriving DecidableEq, Repr

/-- How the objects of a type are addressed. -/
structure ApiResource where
  group : String
  apiVersion : String
  plural : String
  namespaced : Bool
  deriving DecidableEq, Repr

/-- Whether a resource is a part of another, which its name shows by a slash. -/
def ListedResource.isPart (r : ListedResource) : Bool := r.name.toList.contains '/'

/-- The resource of a kind: the first of that kind that is no part of another.  It belongs to a
namespace if the first resource of its name does. -/
def ResourceList.resource? (list : ResourceList) (kind : String) : Option ApiResource := do
  let resource ← list.resources.find? fun r => r.kind = kind && !r.isPart
  let named ← list.resources.find? fun r => r.name = resource.name
  let parts := TypeIdentifier.splitApiVersion list.groupVersion
  some {
    group := resource.group.getD parts.1
    apiVersion := Text.qualified '/' parts.1 parts.2
    plural := resource.name
    namespaced := named.namespaced }

end Retention.Cluster
