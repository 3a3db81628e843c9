import Retention.Cluster.Store
import Retention.Json.Writer

/-!
# Lists in pages

A cluster gives a list in pages, and each but the last names the next.  `Paged` says which pages a
service gives from a token on, and `Cluster.list_of_paged` that the store puts them together, however
the list is split.  So a store can come by its objects in one answer or in many, which `Supply` says
in one.
-/

namespace Retention

variable {σ : Type}

namespace Cluster

/-! ## Exchanges -/

namespace Exchange

variable {α β : Type} {exchange : Exchange σ α} {next : α → Exchange σ β} {state : State σ} {a : α}

/-- An exchange that comes to its end with a value is followed by the next one. -/
theorem answer_bind (ok : (exchange.toCall.run state).answer = some (.ok a)) :
    ((exchange >>= next).toCall.run state).answer =
      ((next a).toCall.run (exchange.toCall.run state).state).answer := by
  change ((exchange.andThen next).run state).answer = _
  rw [andThen, Call.answer_andThen, ok]
  rfl

/-- What a call of the store answers where its exchange comes to its end with a value. -/
theorem answer_awaited {wrap : Error → StoreError}
    (ok : (exchange.toCall.run state).answer = some (.ok a)) :
    ((exchange.awaited wrap).run state).answer = some (.ok a) := by
  rw [awaited, Call.answer_andThen, ok]
  rfl

end Exchange

/-! ## Pages -/

section Paging

variable {service : Service σ} {resource : ApiResource} {ns selector : Option String}

/-- The pages that a service gives, one request after the other, from the one that a token names to
the last. -/
inductive Paged (service : Service σ) (resource : ApiResource) (ns selector : Option String) :
    Option String → State σ → List (List Object) → Prop
  | last {token : Option String} {state : State σ} {read : Page} :
    ((page service resource ns selector token).toCall.run state).answer = some (.ok read) →
    read.next? = none →
    Paged service resource ns selector token state [read.items]
  | next {token : Option String} {following : String} {state : State σ} {read : Page}
    {parts : List (List Object)} :
    ((page service resource ns selector token).toCall.run state).answer = some (.ok read) →
    read.next? = some following →
    Paged service resource ns selector (some following)
      ((page service resource ns selector token).toCall.run state).state parts →
    Paged service resource ns selector token state (read.items :: parts)

/-- The objects of all pages are put together, where there are not too many pages. -/
theorem Paged.answer_pages {token : Option String} {state : State σ} {parts : List (List Object)}
    (paged : Paged service resource ns selector token state parts) {limit : Nat}
    (le : parts.length ≤ limit) :
    ((pages service resource ns selector limit token).toCall.run state).answer =
      some (.ok parts.flatten) := by
  induction paged generalizing limit with
  | last answer ends =>
    cases limit with
    | zero => cases le
    | succ limit =>
      rw [pages, Exchange.answer_bind answer, ends, List.flatten_singleton]
      rfl
  | next answer goesOn _ ih =>
    rw [List.length_cons] at le
    cases limit with
    | zero => cases le
    | succ limit =>
      have others := ih (Nat.le_of_succ_le_succ le)
      rw [pages, Exchange.answer_bind answer, goesOn]
      simp only
      rw [Exchange.answer_bind others, List.flatten_cons]
      rfl

end Paging

/-- A call that needs the resource of a type goes on once this is found. -/
theorem answer_withResource {α : Type} {service : Service σ} {t : TypeIdentifier}
    {next : ApiResource → Exchange σ α} {resource : ApiResource} {state : State σ}
    (resolved : ((resolve service t).toCall.run state).answer = some (.ok resource)) :
    ((withResource service t next).run state).answer =
      (((next resource).awaited .cluster).run
        ((resolve service t).toCall.run state).state).answer := by
  rw [withResource, Call.answer_andThen, Exchange.answer_awaited resolved]
  rfl

/-- A list that comes in pages is answered with the objects of all of them. -/
theorem list_of_paged {service : Service σ} {resource : ApiResource} {request : ListRequest}
    {state : State σ} {parts : List (List Object)} {limit : Nat}
    (resolved : ((resolve service request.type).toCall.run state).answer = some (.ok resource))
    (paged : Paged service resource (resource.inScope request.ns) request.selector none
      ((resolve service request.type).toCall.run state).state parts)
    (le : parts.length ≤ limit) :
    ((list service limit request).run state).answer = some (.ok parts.flatten) := by
  rw [list, answer_withResource resolved]
  apply Exchange.answer_awaited
  rw [Exchange.answer_bind (paged.answer_pages le)]
  rfl

end Cluster

/-! ## What a store has to list -/

/-- Objects that a store answers a request with in a state: in one answer, or, where it is a cluster,
split into pages. -/
inductive Supply : {σ : Type} → Store σ → ListRequest → σ → List Object → Prop
  | whole {σ : Type} {store : Store σ} {request : ListRequest} {state : σ} {objects : List Object} :
    ((store.list request).run state).answer = some (.ok objects) →
    Supply store request state objects
  | paged {σ : Type} {service : Cluster.Service σ} {resource : Cluster.ApiResource}
    {request : ListRequest} {state : Cluster.State σ} {parts : List (List Object)} {limit : Nat} :
    ((Cluster.resolve service request.type).toCall.run state).answer = some (.ok resource) →
    Cluster.Paged service resource (resource.inScope request.ns) request.selector none
      ((Cluster.resolve service request.type).toCall.run state).state parts →
    parts.length ≤ limit →
    Supply (Cluster.store service limit) request state parts.flatten

theorem Supply.answer {store : Store σ} {request : ListRequest} {state : σ} {objects : List Object}
    (supply : Supply store request state objects) :
    ((store.list request).run state).answer = some (.ok objects) := by
  cases supply with
  | whole answer => exact answer
  | paged resolved paged le => exact Cluster.list_of_paged resolved paged le

/-! ## Pages in writing -/

namespace Rehearsed

/-- The text of one page of a list, with the token for the next one. -/
def pageText (page : Cluster.Page) : String :=
  (Json.object
    [("metadata", .object (page.token.toList.map fun token => ("continue", .string token))),
      ("items", .array (page.items.filterMap Object.toJson?))]).write

/-- The answer with a page. -/
def givingPage (page : Cluster.Page) : Except String Cluster.Response :=
  .ok ⟨200, pageText page⟩

end Rehearsed

end Retention
