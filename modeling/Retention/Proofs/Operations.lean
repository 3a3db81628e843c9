import Retention.Proofs.Dispatches

/-!
# Operations on a cluster

The ways in which the parts of a store's calls can go, each with its answer, the state it leaves and
what it sends: `Resolving` for the resource of a type, `Paging` for the pages of a list, and `Asking`
for a deletion.  An `Operation` is a call of the store, and `Operating` puts its parts together:
it first has the resource of its type, and sends everything else to this resource.
-/

namespace Retention.Cluster

variable {σ α : Type}

/-! ## The resource of a type -/

/-- The request that discovers the resource of a type. -/
def discoveryRequest? (t : TypeIdentifier) : Option Request :=
  requestTo? .get (discoveryText t) none

/-- The ways in which the resource of a type can be asked for. -/
abbrev AskingResource (service : Service σ) (t : TypeIdentifier) :=
  Asking service (discoveryRequest? t) .malformedAddress (service.decoding.findResource t.kind)

/-- The state in which the resource of a type is remembered. -/
def State.remembering (s : State σ) (t : TypeIdentifier) (r : ApiResource) : State σ :=
  { s with resources := (t, r) :: s.resources }

/-- The ways to the resource of a type. -/
inductive Resolving (service : Service σ) (t : TypeIdentifier) (s : State (Recording σ)) :
    Option (Except Error ApiResource) → State (Recording σ) → List Dispatch → Prop
  | remembered {r : ApiResource} :
    s.resources.lookup t = some r → Resolving service t s (some (.ok r)) s []
  | discovered {r : ApiResource} {after : State (Recording σ)} {sent : List Dispatch} :
    s.resources.lookup t = none →
    AskingResource service t s (some (.ok r)) after sent →
    Resolving service t s (some (.ok r)) (after.remembering t r) sent
  | failed {e : Error} {after : State (Recording σ)} {sent : List Dispatch} :
    s.resources.lookup t = none →
    AskingResource service t s (some (.error e)) after sent →
    Resolving service t s (some (.error e)) after sent
  | givenUp {after : State (Recording σ)} {sent : List Dispatch} :
    s.resources.lookup t = none →
    AskingResource service t s none after sent →
    Resolving service t s none after sent

/-- Keeps a resource that was discovered. -/
def keep (t : TypeIdentifier) (r : ApiResource) : Exchange σ ApiResource := do
  Exchange.note (discovered t r)
  remember t r
  Exchange.done r

theorem run_resolve_of_known {service : Service σ} {t : TypeIdentifier} {s : State σ}
    {r : ApiResource} (known : s.resources.lookup t = some r) :
    (resolve service t).toCall.run s = (Exchange.done r).toCall.run s := by
  simp only [Exchange.toCall, Call.run, resolve, known]

theorem run_resolve_of_unknown {service : Service σ} {t : TypeIdentifier} {s : State σ}
    (unknown : s.resources.lookup t = none) :
    (resolve service t).toCall.run s =
      (ask service .get (discoveryText t) none .malformedAddress
        (service.decoding.findResource t.kind) >>= keep t).toCall.run s := by
  simp only [Exchange.toCall, Call.run, resolve, unknown]
  rfl

/-- The resource of a type is come by in one of the ways of `Resolving`. -/
theorem resolve_resolving (service : Service σ) (t : TypeIdentifier) (s : State (Recording σ)) :
    ∃ answer after sent, Sends (resolve service.recorded t).toCall s answer after sent ∧
      Resolving service t s answer after sent := by
  cases known : s.resources.lookup t with
  | some r =>
    have done : Sends (Exchange.done r : Exchange (Recording σ) ApiResource).toCall s
        (some (.ok r)) s [] := .nothing rfl rfl
    exact ⟨_, _, _, done.of_run_eq (run_resolve_of_known known), .remembered known⟩
  | none =>
    have found : (resolve service.recorded t).toCall.run s = _ := run_resolve_of_unknown known
    obtain ⟨answer, after, sent, sends, asking⟩ := ask_asking service .get (discoveryText t) none
      .malformedAddress (service.decoding.findResource t.kind) s
    match answer with
    | none => exact ⟨_, _, _, sends.bind_none.of_run_eq found, .givenUp known asking⟩
    | some (.error e) => exact ⟨_, _, _, sends.bind_error.of_run_eq found, .failed known asking⟩
    | some (.ok r) =>
      have kept : Sends (keep t r : Exchange (Recording σ) ApiResource).toCall after (some (.ok r))
          (after.remembering t r) [] := ⟨rfl, rfl, (List.append_nil _).symm⟩
      have all := sends.bind_ok kept
      rw [List.append_nil] at all
      exact ⟨_, _, _, all.of_run_eq found, .discovered known asking⟩

/-! ## Pages -/

/-- The request for the page that a token names. -/
def listRequest? (r : ApiResource) (ns selector token : Option String) : Option Request :=
  requestTo? .get (r.listText ns selector token) none

/-- The ways in which the page that a token names can be asked for. -/
abbrev AskingPage (service : Service σ) (r : ApiResource) (ns selector token : Option String) :=
  Asking service (listRequest? r ns selector token) .unbuildable service.decoding.readPage

/-- The ways in which at most so many pages of a list can be asked for, from the one that a token
names. -/
inductive Paging (service : Service σ) (r : ApiResource) (ns selector : Option String) :
    Nat → Option String → State (Recording σ) → Option (Except Error (List Object)) →
    State (Recording σ) → List Dispatch → Prop
  | exhausted {token : Option String} {s : State (Recording σ)} :
    Paging service r ns selector 0 token s none s []
  | givenUp {limit : Nat} {token : Option String} {s after : State (Recording σ)}
    {sent : List Dispatch} :
    AskingPage service r ns selector token s none after sent →
    Paging service r ns selector (limit + 1) token s none after sent
  | failed {limit : Nat} {token : Option String} {s after : State (Recording σ)}
    {sent : List Dispatch} {e : Error} :
    AskingPage service r ns selector token s (some (.error e)) after sent →
    Paging service r ns selector (limit + 1) token s (some (.error e)) after sent
  | last {limit : Nat} {token : Option String} {s after : State (Recording σ)}
    {sent : List Dispatch} {page : Page} :
    AskingPage service r ns selector token s (some (.ok page)) after sent → page.next? = none →
    Paging service r ns selector (limit + 1) token s (some (.ok page.items)) after sent
  | next {limit : Nat} {token : Option String} {following : String}
    {s middle after : State (Recording σ)} {sent later : List Dispatch} {page : Page}
    {answer : Option (Except Error (List Object))} :
    AskingPage service r ns selector token s (some (.ok page)) middle sent →
    page.next? = some following →
    Paging service r ns selector limit (some following) middle answer after later →
    Paging service r ns selector (limit + 1) token s (answer.map (·.map (page.items ++ ·))) after
      (sent ++ later)

theorem page_asking (service : Service σ) (r : ApiResource) (ns selector token : Option String)
    (s : State (Recording σ)) :
    ∃ answer after sent,
      Sends (page service.recorded r ns selector token).toCall s answer after sent ∧
      AskingPage service r ns selector token s answer after sent :=
  ask_asking service .get (r.listText ns selector token) none .unbuildable
    service.decoding.readPage s

/-- The pages of a list are asked for in one of the ways of `Paging`. -/
theorem pages_paging (service : Service σ) (r : ApiResource) (ns selector : Option String)
    (limit : Nat) (token : Option String) (s : State (Recording σ)) :
    ∃ answer after sent,
      Sends (pages service.recorded r ns selector limit token).toCall s answer after sent ∧
      Paging service r ns selector limit token s answer after sent := by
  induction limit generalizing token s with
  | zero => exact ⟨_, _, _, .nothing rfl rfl, .exhausted⟩
  | succ limit ih =>
    obtain ⟨answer, middle, sent, sends, asking⟩ := page_asking service r ns selector token s
    unfold pages
    match answer with
    | none => exact ⟨_, _, _, sends.bind_none, .givenUp asking⟩
    | some (.error e) => exact ⟨_, _, _, sends.bind_error, .failed asking⟩
    | some (.ok page) =>
      cases next : page.next? with
      | none =>
        refine ⟨some (.ok page.items), middle, sent ++ [], sends.bind_ok ?_, ?_⟩
        · rw [next]
          exact .nothing rfl rfl
        · rw [List.append_nil]
          exact .last asking next
      | some following =>
        obtain ⟨answer, after, later, others, paging⟩ := ih (some following) middle
        refine ⟨answer.map (·.map (page.items ++ ·)), after, sent ++ later, sends.bind_ok ?_,
          .next asking next paging⟩
        rw [next]
        exact others.map (page.items ++ ·)

/-- The objects of all pages are what a list ends with, after a note that sends nothing. -/
theorem Sends.listed {pages : Exchange (Recording σ) (List Object)} {s after : State (Recording σ)}
    {answer : Option (Except Error (List Object))} {sent : List Dispatch}
    (sends : Sends pages.toCall s answer after sent) (note : List Object → LogRecord) :
    Sends (do
      let objects ← pages
      Exchange.note (note objects)
      return objects : Exchange (Recording σ) (List Object)).toCall s answer after sent := by
  match answer with
  | none => exact sends.bind_none
  | some (.error _) => exact sends.bind_error
  | some (.ok objects) =>
    rw [← List.append_nil sent]
    exact sends.bind_ok (.nothing rfl rfl)

/-! ## Deletions -/

/-- The request that deletes the object with a key; there is none without a name. -/
def deletionRequest? (r : ApiResource) (key : ResourceKey) : Option Request :=
  if key.name.isEmpty then none
  else requestTo? .delete (r.objectText (r.inScope key.ns) key.name) (some deletionBody)

/-- The ways in which the deletion of an object can be asked for. -/
abbrev AskingDeletion (service : Service σ) (r : ApiResource) (key : ResourceKey) :=
  Asking service (deletionRequest? r key) .unbuildable service.decoding.readDeletion

/-- The answer to a deletion where an object that is gone already counts as deleted. -/
def accepted : Option (Except Error Unit) → Option (Except Error Unit)
  | some (.error (.api failure)) =>
    if failure.code = 404 then some (.ok ()) else some (.error (.api failure))
  | answer => answer

theorem sendDeletion_eq_ask {service : Service σ} {r : ApiResource} {key : ResourceKey}
    (named : key.name.isEmpty = false) :
    sendDeletion service r key =
      ask service .delete (r.objectText (r.inScope key.ns) key.name) (some deletionBody) .unbuildable
        service.decoding.readDeletion := by
  unfold sendDeletion ask
  rw [named, if_neg Bool.false_ne_true]

theorem sendDeletion_asking (service : Service σ) (r : ApiResource) (key : ResourceKey)
    (s : State (Recording σ)) :
    ∃ answer after sent, Sends (sendDeletion service.recorded r key).toCall s answer after sent ∧
      AskingDeletion service r key s answer after sent := by
  unfold AskingDeletion deletionRequest?
  cases named : key.name.isEmpty with
  | true =>
    have refused : Sends (sendDeletion service.recorded r key).toCall s
        (some (.error .unbuildable)) s [] := by
      unfold sendDeletion
      rw [named]
      exact .nothing rfl rfl
    exact ⟨_, _, _, refused, .refused rfl⟩
  | false =>
    rw [sendDeletion_eq_ask named]
    exact ask_asking service .delete _ _ .unbuildable service.decoding.readDeletion s

/-- What comes after the answer to a deletion sends nothing. -/
theorem Sends.acceptGone {deletion : Exchange (Recording σ) Unit} {s after : State (Recording σ)}
    {answer : Option (Except Error Unit)} {sent : List Dispatch}
    (sends : Sends deletion.toCall s answer after sent) (key : ResourceKey) :
    Sends (acceptGone key deletion).toCall s (accepted answer) after sent := by
  unfold Cluster.acceptGone
  rw [← List.append_nil sent]
  refine Sends.andThen sends ?_
  match answer with
  | none => exact .nothing rfl rfl
  | some (.ok ()) => exact .nothing rfl rfl
  | some (.error (.api failure)) =>
    by_cases gone : failure.code = 404
    · simp only [accepted, gone, if_true]
      exact .nothing rfl rfl
    · simp only [accepted, gone, if_false]
      exact .nothing rfl rfl
  | some (.error .undecodable) | some (.error .unbuildable) | some (.error (.service _))
  | some (.error .unknownKind) | some (.error .malformedAddress) => exact .nothing rfl rfl

/-! ## Operations -/

/-- A call of the store. -/
inductive Operation where
  | list (request : ListRequest)
  | delete (type : TypeIdentifier) (object : Object)

namespace Operation

/-- The type of the objects that an operation is about. -/
def type : Operation → TypeIdentifier
  | list request => request.type
  | delete type _ => type

/-- An operation as a call of the store.  A deletion answers with no objects. -/
def call (service : Service σ) (limit : Nat) : Operation → Call (State σ) (Awaited (List Object))
  | list request => Cluster.list service limit request
  | delete type o =>
    Call.andThen (Cluster.delete service type o) fun answer =>
      .answer (answer.map (·.map fun _ => []))

end Operation

/-- The ways in which an operation can use the resource of its type. -/
inductive Exchanging (service : Service σ) (limit : Nat) (r : ApiResource)
    (s : State (Recording σ)) :
    Operation → Option (Except Error (List Object)) → State (Recording σ) → List Dispatch → Prop
  | list {request : ListRequest} {answer : Option (Except Error (List Object))}
    {after : State (Recording σ)} {sent : List Dispatch} :
    Paging service r (r.inScope request.ns) request.selector limit none s answer after sent →
    Exchanging service limit r s (.list request) answer after sent
  | delete {type : TypeIdentifier} {o : Object} {answer : Option (Except Error Unit)}
    {after : State (Recording σ)} {sent : List Dispatch} :
    AskingDeletion service r o.key s answer after sent →
    Exchanging service limit r s (.delete type o) ((accepted answer).map (·.map fun _ => [])) after
      sent

/-- The ways in which an operation can go: its answer, the state it leaves, and what it sends to
discover its resource and after that. -/
inductive Operating (service : Service σ) (limit : Nat) (operation : Operation)
    (s : State (Recording σ)) :
    Awaited (List Object) → State (Recording σ) → (discovery others : List Dispatch) → Prop
  | abandoned {after : State (Recording σ)} {discovery : List Dispatch} :
    Resolving service operation.type s none after discovery →
    Operating service limit operation s none after discovery []
  | unresolved {e : Error} {after : State (Recording σ)} {discovery : List Dispatch} :
    Resolving service operation.type s (some (.error e)) after discovery →
    Operating service limit operation s (some (.error (.discovery operation.type e))) after discovery
      []
  | resolved {r : ApiResource} {known after : State (Recording σ)} {discovery others : List Dispatch}
    {answer : Option (Except Error (List Object))} :
    Resolving service operation.type s (some (.ok r)) known discovery →
    Exchanging service limit r known operation answer after others →
    Operating service limit operation s (answer.map (·.mapError .cluster)) after discovery others

section Ways

variable {service : Service σ} {t : TypeIdentifier} {next : ApiResource → Exchange (Recording σ) α}
  {s known after : State (Recording σ)} {discovery others : List Dispatch}

theorem Sends.withResource_ok {r : ApiResource} {answer : Option (Except Error α)}
    (resolved : Sends (resolve service.recorded t).toCall s (some (.ok r)) known discovery)
    (exchanged : Sends (next r).toCall known answer after others) :
    Sends (withResource service.recorded t next) s (answer.map (·.mapError .cluster)) after
      (discovery ++ others) :=
  (resolved.awaited (.discovery t)).andThen (exchanged.awaited .cluster)

theorem Sends.withResource_error {e : Error}
    (unresolved : Sends (resolve service.recorded t).toCall s (some (.error e)) known discovery) :
    Sends (withResource service.recorded t next) s (some (.error (.discovery t e))) known
      discovery := by
  rw [← List.append_nil discovery]
  exact (unresolved.awaited (.discovery t)).andThen (.nothing rfl rfl)

theorem Sends.withResource_none
    (abandoned : Sends (resolve service.recorded t).toCall s none known discovery) :
    Sends (withResource service.recorded t next) s none known discovery := by
  rw [← List.append_nil discovery]
  exact (abandoned.awaited (.discovery t)).andThen (.nothing rfl rfl)

end Ways

/-- An operation goes one of the ways of `Operating`, and what it sends first is what it takes to
come by its resource. -/
theorem Operation.operating (service : Service σ) (limit : Nat) (operation : Operation)
    (s : State (Recording σ)) :
    ∃ answer after discovery others,
      Sends (operation.call service.recorded limit) s answer after (discovery ++ others) ∧
      (∃ found known,
        Sends (resolve service.recorded operation.type).toCall s found known discovery) ∧
      Operating service limit operation s answer after discovery others := by
  obtain ⟨found, known, discovery, resolved, resolving⟩ :=
    resolve_resolving service operation.type s
  match found with
  | none =>
    refine ⟨none, _, discovery, [], ?_, ⟨_, _, resolved⟩, .abandoned resolving⟩
    rw [List.append_nil]
    cases operation with
    | list request => exact resolved.withResource_none
    | delete type o => exact resolved.withResource_none.turned _
  | some (.error e) =>
    refine ⟨some (.error (.discovery operation.type e)), _, discovery, [], ?_, ⟨_, _, resolved⟩,
      .unresolved resolving⟩
    rw [List.append_nil]
    cases operation with
    | list request => exact resolved.withResource_error
    | delete type o => exact resolved.withResource_error.turned _
  | some (.ok r) =>
    cases operation with
    | list request =>
      obtain ⟨answer, after, others, sends, paging⟩ :=
        pages_paging service r (r.inScope request.ns) request.selector limit none known
      exact ⟨_, _, _, _, resolved.withResource_ok (sends.listed _), ⟨_, _, resolved⟩,
        .resolved resolving (.list paging)⟩
    | delete type o =>
      obtain ⟨answer, after, others, sends, asking⟩ := sendDeletion_asking service r o.key known
      have deleted : Sends (Cluster.delete service.recorded type o) s
          ((accepted answer).map (·.mapError .cluster)) after (discovery ++ others) :=
        resolved.withResource_ok (sends.acceptGone o.key)
      have turned := deleted.turned (Option.map (·.map fun _ => ([] : List Object)))
      have same : ((accepted answer).map (·.mapError StoreError.cluster)).map (·.map fun _ => []) =
          ((accepted answer).map (·.map fun _ => ([] : List Object))).map (·.mapError .cluster) := by
        match accepted answer with
        | none | some (.error _) | some (.ok _) => rfl
      rw [same] at turned
      exact ⟨_, _, _, _, turned, ⟨_, _, resolved⟩, .resolved resolving (.delete asking)⟩

end Retention.Cluster
