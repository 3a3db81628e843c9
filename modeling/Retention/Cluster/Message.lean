import Retention.Cluster.Error
import Retention.Cluster.Resource
import Retention.Json.Reader
import Retention.Resource.Object

/-!
# What the cluster answers

A response is a status and a text.  Statuses from 400 to 599 are failures, and their text tells
which; where it does not, the status itself does.  The text of any other response is JSON of the
form that the request asks for.

How responses are read is a parameter of all that follows: a `Decoding` says what a text stands for,
and nothing is asked of it.  `Decoding.json` reads texts in the forms above.
-/

namespace Retention.Cluster

/-! ## Requests and responses -/

inductive Method where
  | get
  | delete
  deriving DecidableEq, Repr

def Method.name : Method → String
  | get => "GET"
  | delete => "DELETE"

structure Request where
  method : Method
  path : String
  query : Option String
  body : Option Json
  deriving DecidableEq

structure Response where
  status : Nat
  text : String
  deriving DecidableEq, Repr

/-! ## Failures -/

/-- The phrases that go with the statuses of failures. -/
def statusPhrases : List (Nat × String) :=
  [(400, "Bad Request"), (401, "Unauthorized"), (402, "Payment Required"), (403, "Forbidden"),
    (404, "Not Found"), (405, "Method Not Allowed"), (406, "Not Acceptable"),
    (407, "Proxy Authentication Required"), (408, "Request Timeout"), (409, "Conflict"),
    (410, "Gone"), (411, "Length Required"), (412, "Precondition Failed"),
    (413, "Payload Too Large"), (414, "URI Too Long"), (415, "Unsupported Media Type"),
    (416, "Range Not Satisfiable"), (417, "Expectation Failed"), (418, "I'm a teapot"),
    (421, "Misdirected Request"), (422, "Unprocessable Entity"), (423, "Locked"),
    (424, "Failed Dependency"), (425, "Too Early"), (426, "Upgrade Required"),
    (428, "Precondition Required"), (429, "Too Many Requests"),
    (431, "Request Header Fields Too Large"), (451, "Unavailable For Legal Reasons"),
    (500, "Internal Server Error"), (501, "Not Implemented"), (502, "Bad Gateway"),
    (503, "Service Unavailable"), (504, "Gateway Timeout"), (505, "HTTP Version Not Supported"),
    (506, "Variant Also Negotiates"), (507, "Insufficient Storage"), (508, "Loop Detected"),
    (510, "Not Extended"), (511, "Network Authentication Required")]

def statusText (status : Nat) : String :=
  toString status ++ " " ++ (statusPhrases.lookup status).getD "<unknown status code>"

/-- The integer from 0 to 65535 that a value is. -/
def smallNatural? (value : Json) : Option Nat :=
  value.integer?.bind fun n => if 0 ≤ n ∧ n < UInt16.size then some n.toNat else none

/-- A string member, empty where it is left out. -/
def textMember? (json : Json) (name : String) : Option String :=
  match json.member? name with
  | some value => value.string?
  | none => some ""

/-- The failure that a value tells: an object with a status and a code and perhaps a message and a
reason, or an array of the four. -/
def ApiFailure.ofJson? (json : Json) : Option ApiFailure :=
  match json with
  | .array [status, message, reason, code] => do
    some ⟨← status.string?, ← message.string?, ← reason.string?, ← smallNatural? code⟩
  | .object members =>
    if ["status", "message", "reason", "code"].any (isRepeated · members) then none
    else do
      let status ← json.member? "status"
      let code ← json.member? "code"
      some ⟨← status.string?, ← textMember? json "message", ← textMember? json "reason",
        ← smallNatural? code⟩
  | _ => none

/-- The failure of a response, told by its text or else by its status. -/
def Response.failure (r : Response) : ApiFailure :=
  match (Json.read? r.text).bind ApiFailure.ofJson? with
  | some failure => failure
  | none => ⟨statusText r.status, Text.quoted r.text, "Failed to parse error data", r.status⟩

/-! ## Lists of resources -/

/-- A text member that may be left out or null. -/
def readText? (json : Json) (name : String) : Option String :=
  (json.member? name).bind Json.string?

/-- The kinds of the members of a listed resource. -/
def ListedResource.memberKinds : MemberKinds :=
  MemberKinds.optional
    [("categories", isArrayOf isText), ("group", isText), ("kind", isText), ("name", isText),
      ("namespaced", isTruth), ("shortNames", isArrayOf isText), ("singularName", isText),
      ("storageVersionHash", isText), ("verbs", isArrayOf isText), ("version", isText)]

/-- A listed resource whose members are of their kinds.  Those that are left out or null are empty or
false. -/
def ListedResource.ofMembers (json : Json) : ListedResource where
  name := (readText? json "name").getD ""
  kind := (readText? json "kind").getD ""
  namespaced := ((json.member? "namespaced").bind Json.bool?).getD false
  group := readText? json "group"

/-- The kinds of the members of a list of resources.  Its type has to be the right one. -/
def ResourceList.memberKinds : MemberKinds :=
  [("apiVersion", (· == .string "v1")), ("kind", (· == .string "APIResourceList"))] ++
    MemberKinds.optional
      [("groupVersion", isText), ("resources", isArrayOf ListedResource.memberKinds.fit)]

def ResourceList.ofJson? (json : Json) : Option ResourceList :=
  if memberKinds.fit json then
    let json := json.settled
    let resources := ((json.member? "resources").bind Json.items?).getD []
    some ⟨(readText? json "groupVersion").getD "", resources.map ListedResource.ofMembers⟩
  else none

/-! ## Lists of objects -/

/-- The members that tell the type of an object. -/
def isTypeMember (member : String × Json) : Bool :=
  member.1 = "apiVersion" || member.1 = "kind"

/-- The type that members tell, and the members without it.  Both texts have to be there.  Where
the first of them is no text, the second stays among the other members. -/
def takeTypes (members : List (String × Json)) : Option TypeMeta × List (String × Json) :=
  match members.find? isTypeMember with
  | some (name, .string _) =>
    let types := do
      let apiVersion ← members.lookup "apiVersion"
      let kind ← members.lookup "kind"
      some (⟨← apiVersion.string?, ← kind.string?⟩ : TypeMeta)
    let rest := members.filter fun member => !isTypeMember member
    (if isRepeated name members then none else types, rest)
  | some (name, _) => (none, members.filter fun member => member.1 ≠ name)
  | none => (none, members)

/-- An object of the cluster: its type, its metadata, and the other members as its data. -/
def objectOfJson? (json : Json) : Option Object := do
  let members ← json.members?
  if isRepeated "metadata" members then none
  else
    let metadata ← match members.lookup "metadata" with
      | some metadata => Metadata.ofJson? metadata
      | none => some .blank
    let (types, rest) := takeTypes (members.filter fun member => member.1 ≠ "metadata")
    some ⟨types, metadata, (Json.object rest).settled⟩

/-- One page of a list: its objects, and the token that it gives for the next page. -/
structure Page where
  items : List Object
  token : Option String
  deriving DecidableEq

namespace Page

/-- The token for the next page, where there is one: an empty token ends the list as a missing one
does. -/
def next? (page : Page) : Option String := page.token.filter fun token => !token.isEmpty

/-- The kinds of the members of the metadata of a list. -/
def metadataKinds : MemberKinds :=
  MemberKinds.optional
    [("continue", isText), ("remainingItemCount", isLongInteger), ("resourceVersion", isText),
      ("selfLink", isText)]

/-- The token of the metadata of a list. -/
def token? (metadata : Json) : Option (Option String) :=
  if metadataKinds.fit metadata then some (readText? metadata.settled "continue") else none

def ofJson? (json : Json) : Option Page := do
  let members ← json.members?
  if isRepeated "metadata" members || isRepeated "items" members then none
  else
    let token ← match members.lookup "metadata" with
      | some metadata => token? metadata
      | none => some none
    let items ← match ← members.lookup "items" with
      | .null => some []
      | items => items.items?.bind fun items => items.mapM objectOfJson?
    some ⟨items, token⟩

end Page

/-! ## Answers to deletions -/

/-- Whether a value tells that a request had success, or that it failed. -/
def isSummary (value : Json) : Bool :=
  [Json.string "Success", .string "Failure", .object [("Success", .null)],
    .object [("Failure", .null)]].contains value

def isStatusCause : Json → Bool :=
  MemberKinds.fitRecord [("reason", isText), ("message", isText), ("field", isText)]

def isStatusDetails : Json → Bool :=
  MemberKinds.fitRecord
    [("name", isText), ("group", isText), ("kind", isText), ("uid", isText),
      ("causes", isArrayOf isStatusCause), ("retryAfterSeconds", isIntegerFrom 0 (UInt32.size - 1))]

/-- Whether a value is a status: of success or failure, where it says which. -/
def isStatus : Json → Bool :=
  MemberKinds.fitRecord
    [("status", nullOr isSummary), ("code", isIntegerFrom 0 (UInt16.size - 1)), ("message", isText),
      ("reason", isText), ("details", nullOr isStatusDetails)]

/-- Whether a value is an answer to a deletion: a status, or the object as it was. -/
def isDeletion (json : Json) : Bool :=
  if json.settled.member? "kind" = some (.string "Status") then isStatus json
  else (objectOfJson? json).isSome

/-! ## How responses are read -/

/-- How responses are read.  One with the status of a failure tells a failure.  The text of any other
one stands for what its request asks for, or for nothing. -/
structure Decoding where
  failure : Response → ApiFailure
  resources? : String → Option ResourceList
  page? : String → Option Page
  isDeletion : String → Bool

namespace Decoding

/-- Texts are read as JSON, in the forms above. -/
def json : Decoding where
  failure := Response.failure
  resources? text := (Json.read? text).bind ResourceList.ofJson?
  page? text := (Json.read? text).bind Page.ofJson?
  isDeletion text := (Json.read? text).any Cluster.isDeletion

variable (decoding : Decoding)

/-- The text of a response that is no failure. -/
def content (response : Response) : Except Error String :=
  if 400 ≤ response.status ∧ response.status < 600 then .error (.api (decoding.failure response))
  else .ok response.text

/-- The resource of a kind in a list of resources. -/
def findResource (kind : String) (response : Response) : Except Error ApiResource := do
  match decoding.resources? (← decoding.content response) with
  | none => .error .undecodable
  | some list =>
    match list.resource? kind with
    | none => .error .unknownKind
    | some resource => .ok resource

def readPage (response : Response) : Except Error Page := do
  match decoding.page? (← decoding.content response) with
  | none => .error .undecodable
  | some page => .ok page

def readDeletion (response : Response) : Except Error Unit := do
  if decoding.isDeletion (← decoding.content response) then .ok () else .error .undecodable

end Decoding

end Retention.Cluster
