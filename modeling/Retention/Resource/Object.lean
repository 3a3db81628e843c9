import Retention.Resource.Metadata
import Retention.Resource.TypeIdentifier

/-!
# Objects

An object of the cluster as it is listed: its type, which the cluster may leave out of lists, its
metadata, and all else as JSON.  A key names an object among those of its type.

`Object.precedes` is the order in which surplus objects are removed: oldest first, objects without
a creation time last, and the keys decide between objects created at one instant.
-/

namespace Retention

/-- Namespace and name of an object.  An object of the whole cluster has no namespace. -/
structure ResourceKey where
  ns : Option String
  name : String
  deriving DecidableEq, Repr

namespace ResourceKey

def display (k : ResourceKey) : String :=
  match k.ns with
  | some ns => ns ++ "/" ++ k.name
  | none => k.name

/-- Keys are ordered by namespace, absent before present, and then by name. -/
def le (a b : ResourceKey) : Bool :=
  match a.ns, b.ns with
  | none, none => a.name ≤ b.name
  | none, some _ => true
  | some _, none => false
  | some m, some n => m < n || (m = n && a.name ≤ b.name)

end ResourceKey

/-- The type that an object reports, as the two texts it carries. -/
structure TypeMeta where
  apiVersion : String
  kind : String
  deriving DecidableEq, Repr

namespace TypeMeta

/-- The texts that objects of a type carry. -/
def ofType (t : TypeIdentifier) : TypeMeta := ⟨t.apiVersion, t.kind⟩

def isBlank (m : TypeMeta) : Bool := m.apiVersion.isEmpty && m.kind.isEmpty

end TypeMeta

structure Object where
  types : Option TypeMeta
  metadata : Metadata
  data : Json
  deriving DecidableEq

namespace Object

/-- The key of an object; a missing name is empty. -/
def key (o : Object) : ResourceKey :=
  ⟨o.metadata.ns, o.metadata.name.getD ""⟩

/-- The type of an object, where it reports a version and a kind. -/
def type? (o : Object) : Option TypeIdentifier :=
  o.types.bind fun types =>
    if types.apiVersion.isEmpty || types.kind.isEmpty then none
    else
      let parts := TypeIdentifier.splitApiVersion types.apiVersion
      some ⟨parts.1, parts.2, types.kind⟩

/-- Whether `a` is removed before `b`, or they tie: the order of the instants of creation, then of
the keys, with objects without an instant at the end. -/
def precedes (a b : Object) : Bool :=
  match a.metadata.createdAt, b.metadata.createdAt with
  | some s, some t => s < t || (s = t && a.key.le b.key)
  | some _, none => true
  | none, some _ => false
  | none, none => a.key.le b.key

/-! ## JSON -/

/-- The members that name the type of an object, where it reports one. -/
def typeMembers (o : Object) : List (String × Json) :=
  match o.types with
  | some types => [("apiVersion", .string types.apiVersion), ("kind", .string types.kind)]
  | none => []

/-- An object as one JSON object: type, metadata and then the members of its data, of which a later
one takes the place of an earlier one with the same name.  None where the data has no members to
give. -/
def toJson? (o : Object) : Option Json :=
  let members := o.typeMembers ++ [("metadata", o.metadata.toJson)]
  match o.data with
  | .null => some (Json.ofMap (TextMap.ofList members))
  | .object data => some (Json.ofMap (TextMap.ofList (members ++ data)))
  | _ => none

end Object

end Retention
