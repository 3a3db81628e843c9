import Retention.Json.Basic
import Retention.Text.Basic
import Retention.Text.Quoted

/-!
# Resource types

A resource type is named by its API group, version and kind.  Objects carry the first two as one
text, their `apiVersion`: the version alone in the core group, whose name is empty, and
`group/version` elsewhere.
-/

namespace Retention

/-- The name of a resource type. -/
structure TypeIdentifier where
  group : String
  version : String
  kind : String
  deriving DecidableEq, Repr

namespace TypeIdentifier

/-- The type of pods, in the core group. -/
def pod : TypeIdentifier := ⟨"", "v1", "Pod"⟩

/-- The type of jobs. -/
def job : TypeIdentifier := ⟨"batch", "v1", "Job"⟩

instance : Inhabited TypeIdentifier := ⟨pod⟩

/-- The `apiVersion` that objects of a type carry. -/
def apiVersion (t : TypeIdentifier) : String :=
  Text.qualified '/' t.group t.version

def display (t : TypeIdentifier) : String :=
  t.apiVersion ++ "/" ++ t.kind

/-- The name of a type with its parts apart. -/
def debug (t : TypeIdentifier) : String :=
  "TypeIdentifier \x7b group: " ++ Text.quoted t.group ++ ", version: " ++ Text.quoted t.version ++
    ", kind: " ++ Text.quoted t.kind ++ " \x7d"

/-- Types are ordered by group, then version, then kind. -/
def le (a b : TypeIdentifier) : Bool :=
  a.group < b.group ||
    (a.group = b.group && (a.version < b.version || (a.version = b.version && a.kind ≤ b.kind)))

/-- The group and version that an `apiVersion` joins: cut at its first slash, with an empty group
where it has none. -/
def splitApiVersion (apiVersion : String) : String × String :=
  match Text.cutAt? '/' apiVersion.toList with
  | some (group, version) => (String.ofList group, String.ofList version)
  | none => ("", apiVersion)

/-! ## JSON -/

def toJson (t : TypeIdentifier) : Json :=
  .object [("group", .string t.group), ("version", .string t.version), ("kind", .string t.kind)]

/-- The type that a JSON value stands for: an object, in which the group may be left out and other
members do not count, or an array of the three parts in order. -/
def ofJson? (json : Json) : Option TypeIdentifier :=
  match json with
  | .array [group, version, kind] => do
    some ⟨← group.string?, ← version.string?, ← kind.string?⟩
  | .object _ => do
    let group ← match json.member? "group" with
      | some group => group.string?
      | none => some ""
    let version ← json.member? "version"
    let kind ← json.member? "kind"
    some ⟨group, ← version.string?, ← kind.string?⟩
  | _ => none

end TypeIdentifier

end Retention
