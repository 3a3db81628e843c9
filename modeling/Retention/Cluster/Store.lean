import Retention.Cluster.Address
import Retention.Cluster.Message
import Retention.Store.Basic

/-!
# The cluster as a store

A store that keeps its objects in a cluster, reached through a service that answers requests.  The
resource of a type is discovered once, at the first call that needs it, and then remembered; a
discovery that fails is not.  Lists come in pages, and each page but the last names the next.
-/

namespace Retention.Cluster

/-- A service that answers requests, or fails with a text, and how its responses are read.  It
answers with nothing where a request is given up. -/
structure Service (σ : Type) where
  respond : Request → Call σ (Option (Except String Response))
  decoding : Decoding

instance {σ : Type} :
    CoeFun (Service σ) fun _ => Request → Call σ (Option (Except String Response)) :=
  ⟨Service.respond⟩

/-- The state of the store: the resources discovered so far, and the state of the service. -/
structure State (σ : Type) where
  resources : List (TypeIdentifier × ApiResource)
  outside : σ

/-! ## Exchanges -/

/-- A call that exchanges messages with the cluster.  It may fail, and may be given up. -/
def Exchange (σ α : Type) : Type := Call (State σ) (Option (Except Error α))

namespace Exchange

variable {σ α β : Type}

def toCall (exchange : Exchange σ α) : Call (State σ) (Option (Except Error α)) := exchange

def done (a : α) : Exchange σ α := Call.answer (some (.ok a))

def fail (error : Error) : Exchange σ α := Call.answer (some (.error error))

/-- Waits for what never comes. -/
def giveUp : Exchange σ α := Call.answer none

def andThen (exchange : Exchange σ α) (next : α → Exchange σ β) : Exchange σ β :=
  Call.andThen exchange.toCall fun
    | none => giveUp
    | some (.error error) => fail error
    | some (.ok a) => next a

instance : Monad (Exchange σ) where
  pure := done
  bind := andThen

def ofExcept : Except Error α → Exchange σ α
  | .ok a => done a
  | .error error => fail error

def note (record : LogRecord) : Exchange σ Unit :=
  Call.andThen (Call.note record) fun _ => done ()

end Exchange

variable {σ : Type}

/-- Sends a request. -/
def send (service : Service σ) (request : Request) : Exchange σ Response := fun state =>
  let reply := (service request).run state.outside
  ⟨reply.answer.map (·.mapError .service), { state with outside := reply.state }, reply.fired,
    reply.log⟩

/-- Sends a request to the address that a text writes; `refusal` is the error where it writes
none. -/
def sendTo (service : Service σ) (method : Method) (text : String) (body : Option Json)
    (refusal : Error) : Exchange σ Response :=
  match Address.ofText? text with
  | none => .fail refusal
  | some address => send service ⟨method, address.path, address.query, body⟩

/-! ## Discovery -/

def discover (service : Service σ) (t : TypeIdentifier) : Exchange σ ApiResource := do
  let response ← sendTo service .get (discoveryText t) none .malformedAddress
  .ofExcept (service.decoding.findResource t.kind response)

def remember (t : TypeIdentifier) (resource : ApiResource) : Exchange σ Unit := fun state =>
  ⟨some (.ok ()), { state with resources := (t, resource) :: state.resources }, false, []⟩

def discovered (t : TypeIdentifier) (resource : ApiResource) : LogRecord :=
  ⟨.debug, "Discovered API resource", [("type_id", t.display), ("plural", resource.plural)]⟩

/-- The resource of a type, remembered or discovered. -/
def resolve (service : Service σ) (t : TypeIdentifier) : Exchange σ ApiResource := fun state =>
  match state.resources.lookup t with
  | some resource => (Exchange.done resource).toCall.run state
  | none =>
    let found : Exchange σ ApiResource := do
      let resource ← discover service t
      Exchange.note (discovered t resource)
      remember t resource
      return resource
    found.toCall.run state

/-! ## Lists -/

def page (service : Service σ) (resource : ApiResource) (ns selector token : Option String) :
    Exchange σ Page := do
  let response ← sendTo service .get (resource.listText ns selector token) none .unbuildable
  .ofExcept (service.decoding.readPage response)

/-- The objects of all pages of a list, from the one that `token` names.  A list that has not come
to its end after `limit` pages is waited for in vain. -/
def pages (service : Service σ) (resource : ApiResource) (ns selector : Option String) :
    (limit : Nat) → (token : Option String) → Exchange σ (List Object)
  | 0, _ => .giveUp
  | limit + 1, token => do
    let page ← page service resource ns selector token
    match page.next? with
    | none => .done page.items
    | some token => do
      let others ← pages service resource ns selector limit (some token)
      .done (page.items ++ others)

/-! ## The store -/

/-- An exchange as a call of a store, with its error put as `wrap` says. -/
def Exchange.awaited {α : Type} (exchange : Exchange σ α) (wrap : Error → StoreError) :
    Call (State σ) (Awaited α) :=
  Call.andThen exchange.toCall fun answer => .answer (answer.map (·.mapError wrap))

/-- A call of a store that first finds the resource of a type. -/
def withResource {α : Type} (service : Service σ) (t : TypeIdentifier)
    (next : ApiResource → Exchange σ α) : Call (State σ) (Awaited α) :=
  Call.andThen ((resolve service t).awaited (.discovery t)) fun
    | none => .answer none
    | some (.error error) => .answer (some (.error error))
    | some (.ok resource) => (next resource).awaited .cluster

def list (service : Service σ) (limit : Nat) (request : ListRequest) :
    Call (State σ) (Awaited (List Object)) :=
  withResource service request.type fun resource => do
    let objects ← pages service resource (resource.inScope request.ns) request.selector limit none
    Exchange.note ⟨.debug, "Listed resources",
      [("type_id", request.type.display), ("count", toString objects.length)]⟩
    return objects

/-- What goes with a deletion: dependents are deleted later. -/
def deletionBody : Json := .object [("propagationPolicy", .string "Background")]

/-- Sends the deletion of an object.  An object has to have a name. -/
def sendDeletion (service : Service σ) (resource : ApiResource) (key : ResourceKey) :
    Exchange σ Unit :=
  if key.name.isEmpty then .fail .unbuildable
  else do
    let response ← sendTo service .delete
      (resource.objectText (resource.inScope key.ns) key.name) (some deletionBody) .unbuildable
    .ofExcept (service.decoding.readDeletion response)

/-- Takes an object that is gone already for a deleted one. -/
def acceptGone (key : ResourceKey) (deletion : Exchange σ Unit) : Exchange σ Unit :=
  Call.andThen deletion.toCall fun
    | none => Exchange.giveUp
    | some (.ok ()) => Exchange.done ()
    | some (.error (.api failure)) =>
      if failure.code = 404 then
        Exchange.note ⟨.debug, "Resource already gone", [("resource", key.display)]⟩
      else Exchange.fail (.api failure)
    | some (.error error) => Exchange.fail error

def delete (service : Service σ) (t : TypeIdentifier) (object : Object) :
    Call (State σ) (Awaited Unit) :=
  withResource service t fun resource =>
    acceptGone object.key (sendDeletion service resource object.key)

/-- The cluster behind a service as a store that lists at most `limit` pages at a time. -/
def store (service : Service σ) (limit : Nat) : Store (State σ) where
  list := list service limit
  delete := delete service

end Retention.Cluster
