import Retention.Instant.Reader
import Retention.Instant.Writer
import Retention.Json.Shape

/-!
# Object metadata

What is read of an object's metadata: its name and namespace, when it was created, and the maps of
its annotations and labels.  The JSON form leaves out what is absent; null stands for absent, and
unknown members do not count.  Members that are known and of which nothing is read have to be of
their kinds all the same.
-/

namespace Retention

structure Metadata where
  name : Option String
  ns : Option String
  createdAt : Option Instant
  annotations : Option (TextMap String)
  labels : Option (TextMap String)
  deriving DecidableEq

namespace Metadata

/-- The metadata of an object about which nothing is said. -/
def blank : Metadata := ⟨none, none, none, none, none⟩

instance : Inhabited Metadata := ⟨blank⟩

/-- Reads a member that may be absent or null. -/
def readMember? {α : Type} (json : Json) (name : String) (read : Json → Option α) :
    Option (Option α) :=
  match json.member? name with
  | none => some none
  | some .null => some none
  | some value => (read value).map some

def readInstant? (json : Json) : Option Instant :=
  json.string?.bind Instant.read?

/-- The map of a JSON object in which every member is a string. -/
def readTexts? (json : Json) : Option (TextMap String) := do
  let members ← json.members?
  let entries ← members.mapM fun member => member.2.string?.map fun text => (member.1, text)
  some (TextMap.ofList entries)

def isInstant (value : Json) : Bool := (readInstant? value).isSome

/-- Whether a value tells an owner of an object. -/
def isOwner : Json → Bool :=
  MemberKinds.fit <| MemberKinds.optional
    [("apiVersion", isText), ("blockOwnerDeletion", isTruth), ("controller", isTruth),
      ("kind", isText), ("name", isText), ("uid", isText)]

/-- Whether a value tells who manages members of an object. -/
def isManagement : Json → Bool :=
  MemberKinds.fit <| MemberKinds.optional
    [("apiVersion", isText), ("fieldsType", isText), ("manager", isText), ("operation", isText),
      ("subresource", isText), ("time", isInstant)]

/-- The kinds of the members of metadata. -/
def memberKinds : MemberKinds :=
  MemberKinds.optional
    [("annotations", isMapOf isText), ("creationTimestamp", isInstant),
      ("deletionGracePeriodSeconds", isLongInteger), ("deletionTimestamp", isInstant),
      ("finalizers", isArrayOf isText), ("generateName", isText), ("generation", isLongInteger),
      ("labels", isMapOf isText), ("managedFields", isArrayOf isManagement), ("name", isText),
      ("namespace", isText), ("ownerReferences", isArrayOf isOwner), ("resourceVersion", isText),
      ("selfLink", isText), ("uid", isText)]

/-- The metadata that a JSON object stands for.  Of a member that is repeated the last counts. -/
def ofJson? (json : Json) : Option Metadata :=
  if memberKinds.fit json then do
    let json := json.settled
    some {
      name := ← readMember? json "name" Json.string?
      ns := ← readMember? json "namespace" Json.string?
      createdAt := ← readMember? json "creationTimestamp" readInstant?
      annotations := ← readMember? json "annotations" readTexts?
      labels := ← readMember? json "labels" readTexts? }
  else none

/-- A member that is left out where its value is absent. -/
def writtenMember (name : String) (value : Option Json) : List (String × Json) :=
  match value with
  | some value => [(name, value)]
  | none => []

def textsToJson (texts : TextMap String) : Json :=
  .object (texts.entries.map fun entry => (entry.1, .string entry.2))

/-- Metadata as a JSON object.  Instants are written with whole seconds. -/
def toJson (m : Metadata) : Json :=
  .object <|
    writtenMember "annotations" (m.annotations.map textsToJson) ++
    writtenMember "creationTimestamp" (m.createdAt.map fun t => .string t.writeWhole) ++
    writtenMember "labels" (m.labels.map textsToJson) ++
    writtenMember "name" (m.name.map .string) ++
    writtenMember "namespace" (m.ns.map .string)

end Metadata

end Retention
