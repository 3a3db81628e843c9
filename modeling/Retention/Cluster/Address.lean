import Retention.Cluster.Resource

/-!
# Addresses

The addresses of requests to the cluster.  An address is put together from parts that are not
escaped, so a part with a character that an address cannot hold spoils it, and one with `?` or `#`
moves the place where the path ends.  The query of a list is escaped as forms are.
-/

namespace Retention.Cluster

/-! ## Form encoding -/

/-- The bytes that a form keeps as they are. -/
def isFormByte (b : UInt8) : Bool :=
  let c := Char.ofNat b.toNat
  b < 0x80 && (c.isAlphanum || c == '*' || c == '-' || c == '.' || c == '_')

def upperHexDigit (n : Nat) : Char :=
  (Nat.digitChar n).toUpper

/-- A byte as a form has it. -/
def formByte (b : UInt8) : List Char :=
  if b = 0x20 then ['+']
  else if isFormByte b then [Char.ofNat b.toNat]
  else ['%', upperHexDigit (b.toNat / 16), upperHexDigit (b.toNat % 16)]

/-- A text as a form has it. -/
def formEncode (text : String) : String :=
  String.ofList (text.toUTF8.toList.flatMap formByte)

/-- Named values as a form has them, each after `&`. -/
def formPairs (pairs : List (String × String)) : String :=
  String.join (pairs.map fun pair => "&" ++ formEncode pair.1 ++ "=" ++ formEncode pair.2)

/-! ## Addresses -/

/-- Path and query of a request. -/
structure Address where
  path : String
  query : Option String
  deriving DecidableEq, Repr

def isPathChar (c : Char) : Bool :=
  let n := c.toNat
  0x21 ≤ n && n ≠ 0x3C && n ≠ 0x3E && n ≠ 0x60

def isQueryChar (c : Char) : Bool :=
  let n := c.toNat
  0x21 ≤ n && n ≠ 0x22 && n ≠ 0x3C && n ≠ 0x3E

/-- The greatest length of an address in bytes. -/
def maxAddressLength : Nat := 65534

/-- The address that a text writes: the path up to `?`, and the query up to `#`. -/
def Address.ofText? (text : String) : Option Address :=
  let shown := text.toList.takeWhile (· ≠ '#')
  let parts : List Char × Option (List Char) := match Text.cutAt? '?' shown with
    | some (path, query) => (path, some query)
    | none => (shown, none)
  if text.utf8ByteSize ≤ maxAddressLength && parts.1.all isPathChar &&
      (parts.2.getD []).all isQueryChar then
    some ⟨String.ofList parts.1, parts.2.map String.ofList⟩
  else none

/-- The text of the address that tells the resources of the group and version of a type. -/
def discoveryText (t : TypeIdentifier) : String :=
  if t.group.isEmpty then "/api/" ++ t.version else "/apis/" ++ t.apiVersion

namespace ApiResource

/-- The path of the objects of a resource, in a namespace or in the whole cluster. -/
def pathText (r : ApiResource) (ns : Option String) : String :=
  (if r.group.isEmpty then "/api/" else "/apis/") ++ r.apiVersion ++
    (match ns with
      | some ns => "/namespaces/" ++ ns
      | none => "") ++
    "/" ++ r.plural

def pageSize : Nat := 500

/-- The text of the address of one page of a list. -/
def listText (r : ApiResource) (ns selector token : Option String) : String :=
  r.pathText ns ++ "?" ++ formPairs
    ((selector.toList.map fun selector => ("labelSelector", selector)) ++
      [("limit", toString pageSize)] ++ token.toList.map fun token => ("continue", token))

def objectText (r : ApiResource) (ns : Option String) (name : String) : String :=
  r.pathText ns ++ "/" ++ name ++ "?"

/-- The namespace in which objects of a resource are addressed: none for those of the whole
cluster. -/
def inScope (r : ApiResource) (ns : Option String) : Option String :=
  if r.namespaced then ns else none

end ApiResource

end Retention.Cluster
