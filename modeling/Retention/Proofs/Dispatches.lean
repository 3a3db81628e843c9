import Retention.Cluster.Store

/-!
# Dispatches

What a store in a cluster sends can be read off a record.  `Service.recorded` is a service that keeps
one and is the same in all else: a store over it answers as the store over the service itself does
and leaves the same state, once the record is forgotten (`mirrors_list`, `mirrors_delete`).  So a
statement about the record of any service is one about what its store sends.

`Sends` says of a call what it answers, which state it leaves, and what it adds to the record.  All
that a store sends, it sends by `ask`: one request at most, whose answer is read in one way or
another.
-/

namespace Retention

/-- The reply with another view of the state. -/
def Reply.mapState {σ τ α : Type} (f : σ → τ) (r : Reply σ α) : Reply τ α :=
  ⟨r.answer, f r.state, r.fired, r.log⟩

namespace Cluster

variable {σ α β : Type}

/-! ## Recorded services -/

/-- A request that was sent, and the answer of the service.  There is none where the request was
given up. -/
structure Dispatch where
  request : Request
  answer : Option (Except String Response)

/-- The state of a service, with a record of what it was sent. -/
structure Recording (σ : Type) where
  inner : σ
  dispatches : List Dispatch

/-- The service that keeps a record. -/
def Service.recorded (service : Service σ) : Service (Recording σ) where
  respond request recording :=
    let reply := (service request).run recording.inner
    reply.mapState fun inner => ⟨inner, recording.dispatches ++ [⟨request, reply.answer⟩]⟩
  decoding := service.decoding

namespace State

/-- The state without the record. -/
def forget (state : State (Recording σ)) : State σ := ⟨state.resources, state.outside.inner⟩

/-- What was sent so far. -/
abbrev dispatches (state : State (Recording σ)) : List Dispatch := state.outside.dispatches

end State

/-! ## Exchanges that follow one another -/

/-- What follows an exchange that has answered so. -/
def Exchange.following (next : α → Exchange σ β) : Option (Except Error α) → Exchange σ β
  | none => giveUp
  | some (.error error) => fail error
  | some (.ok a) => next a

theorem Exchange.toCall_bind (exchange : Exchange σ α) (next : α → Exchange σ β) :
    (exchange >>= next).toCall = exchange.toCall.andThen (following next) := rfl

/-! ## The record makes no difference -/

/-- A call on a recorded cluster is, but for the record, another one on the cluster itself. -/
def Mirrors (recorded : Call (State (Recording σ)) α) (plain : Call (State σ) α) : Prop :=
  ∀ state : State (Recording σ),
    plain.run state.forget = (recorded.run state).mapState State.forget

namespace Mirrors

theorem andThen {recorded : Call (State (Recording σ)) α} {plain : Call (State σ) α}
    {next : α → Call (State (Recording σ)) β} {next' : α → Call (State σ) β}
    (first : Mirrors recorded plain) (later : ∀ a, Mirrors (next a) (next' a)) :
    Mirrors (recorded.andThen next) (plain.andThen next') := by
  intro state
  have second := later (recorded.run state).answer (recorded.run state).state
  simp only [Call.run, Call.andThen] at second ⊢
  have start := first state
  simp only [Call.run] at start
  simp only [start, Reply.mapState, second]

theorem bind {recorded : Exchange (Recording σ) α} {plain : Exchange σ α}
    {next : α → Exchange (Recording σ) β} {next' : α → Exchange σ β}
    (first : Mirrors recorded.toCall plain.toCall)
    (later : ∀ a, Mirrors (next a).toCall (next' a).toCall) :
    Mirrors (recorded >>= next).toCall (plain >>= next').toCall := by
  rw [Exchange.toCall_bind, Exchange.toCall_bind]
  refine andThen first fun answer => ?_
  match answer with
  | none => exact fun _ => rfl
  | some (.error e) => exact fun _ => rfl
  | some (.ok a) => exact later a

theorem done (a : α) :
    Mirrors (σ := σ) (Exchange.done a).toCall (Exchange.done a).toCall := fun _ => rfl

theorem ofExcept (result : Except Error α) :
    Mirrors (σ := σ) (Exchange.ofExcept result).toCall (Exchange.ofExcept result).toCall := by
  cases result with
  | error _ => exact fun _ => rfl
  | ok _ => exact fun _ => rfl

theorem note (record : LogRecord) :
    Mirrors (σ := σ) (Exchange.note record).toCall (Exchange.note record).toCall := fun _ => rfl

theorem turned {recorded : Call (State (Recording σ)) α} {plain : Call (State σ) α}
    (mirrors : Mirrors recorded plain) (f : α → β) :
    Mirrors (recorded.andThen fun a => .answer (f a)) (plain.andThen fun a => .answer (f a)) :=
  mirrors.andThen fun _ _ => rfl

theorem awaited {recorded : Exchange (Recording σ) α} {plain : Exchange σ α}
    (mirrors : Mirrors recorded.toCall plain.toCall) (wrap : Error → StoreError) :
    Mirrors (recorded.awaited wrap) (plain.awaited wrap) :=
  mirrors.turned (Option.map (·.mapError wrap))

end Mirrors

section Transparency

variable (service : Service σ)

theorem mirrors_send (request : Request) :
    Mirrors (send service.recorded request).toCall (send service request).toCall := fun _ => rfl

theorem mirrors_sendTo (method : Method) (text : String) (body : Option Json) (refusal : Error) :
    Mirrors (sendTo service.recorded method text body refusal).toCall
      (sendTo service method text body refusal).toCall := by
  unfold sendTo
  cases Address.ofText? text with
  | none => exact fun _ => rfl
  | some address => exact mirrors_send service _

theorem mirrors_resolve (t : TypeIdentifier) :
    Mirrors (resolve service.recorded t).toCall (resolve service t).toCall := by
  intro state
  simp only [Exchange.toCall, Call.run, resolve, State.forget]
  cases state.resources.lookup t with
  | some resource => rfl
  | none =>
    have discovered : Mirrors (discover service.recorded t).toCall (discover service t).toCall :=
      .bind (mirrors_sendTo service _ _ _ _) fun _ => .ofExcept _
    have remembered (resource : ApiResource) :
        Mirrors (σ := σ) (remember t resource).toCall (remember t resource).toCall := fun _ => rfl
    have found := Mirrors.bind discovered fun resource =>
      .bind (.note (Cluster.discovered t resource)) fun _ =>
        .bind (remembered resource) fun _ => .done resource
    exact found state

theorem mirrors_page (resource : ApiResource) (ns selector token : Option String) :
    Mirrors (page service.recorded resource ns selector token).toCall
      (page service resource ns selector token).toCall :=
  .bind (mirrors_sendTo service _ _ _ _) fun _ => .ofExcept _

theorem mirrors_pages (resource : ApiResource) (ns selector : Option String) (limit : Nat)
    (token : Option String) :
    Mirrors (pages service.recorded resource ns selector limit token).toCall
      (pages service resource ns selector limit token).toCall := by
  induction limit generalizing token with
  | zero => exact fun _ => rfl
  | succ limit ih =>
    refine .bind (mirrors_page service resource ns selector token) fun page => ?_
    cases page.next? with
    | none => exact .done page.items
    | some following => exact .bind (ih (some following)) fun others => .done (page.items ++ others)

theorem mirrors_withResource {next : ApiResource → Exchange (Recording σ) α}
    {next' : ApiResource → Exchange σ α} (t : TypeIdentifier)
    (later : ∀ resource, Mirrors (next resource).toCall (next' resource).toCall) :
    Mirrors (withResource service.recorded t next) (withResource service t next') := by
  refine .andThen ((mirrors_resolve service t).awaited _) fun answer => ?_
  match answer with
  | none => exact fun _ => rfl
  | some (.error e) => exact fun _ => rfl
  | some (.ok resource) => exact (later resource).awaited _

/-- A store lists as it does without a record. -/
theorem mirrors_list (limit : Nat) (request : ListRequest) :
    Mirrors (list service.recorded limit request) (list service limit request) :=
  mirrors_withResource service _ fun resource =>
    .bind (mirrors_pages service resource _ _ limit none) fun _ =>
      .bind (.note _) fun _ => .done _

/-- A store deletes as it does without a record. -/
theorem mirrors_delete (t : TypeIdentifier) (o : Object) :
    Mirrors (delete service.recorded t o) (delete service t o) := by
  refine mirrors_withResource service t fun resource => ?_
  have sent : Mirrors (sendDeletion service.recorded resource o.key).toCall
      (sendDeletion service resource o.key).toCall := by
    unfold sendDeletion
    split
    · exact fun _ => rfl
    · exact .bind (mirrors_sendTo service _ _ _ _) fun _ => .ofExcept _
  unfold acceptGone
  refine Mirrors.andThen sent fun answer => ?_
  match answer with
  | none => exact fun _ => rfl
  | some (.ok ()) => exact fun _ => rfl
  | some (.error (.api failure)) =>
    by_cases gone : failure.code = 404
    · simp only [gone]
      exact fun _ => rfl
    · simp only [gone]
      exact fun _ => rfl
  | some (.error .undecodable) | some (.error .unbuildable) | some (.error (.service _))
  | some (.error .unknownKind) | some (.error .malformedAddress) => exact fun _ => rfl

end Transparency

/-! ## What a call sends -/

/-- A call answers so, leaves this state, and adds these dispatches to the record. -/
structure Sends (call : Call (State (Recording σ)) α) (s : State (Recording σ)) (a : α)
    (after : State (Recording σ)) (sent : List Dispatch) : Prop where
  answer : (call.run s).answer = a
  state : (call.run s).state = after
  dispatches : after.dispatches = s.dispatches ++ sent

namespace Sends

variable {s middle after : State (Recording σ)} {sent later : List Dispatch}

theorem andThen {call : Call (State (Recording σ)) α} {next : α → Call (State (Recording σ)) β}
    {a : α} {b : β} (first : Sends call s a middle sent)
    (second : Sends (next a) middle b after later) :
    Sends (call.andThen next) s b after (sent ++ later) := by
  obtain ⟨rfl, rfl, recorded⟩ := first
  refine ⟨second.answer, second.state, ?_⟩
  rw [second.dispatches, recorded, List.append_assoc]

theorem of_run_eq {call other : Call (State (Recording σ)) α} {a : α}
    (sends : Sends other s a after sent)
    (same : call.run s = other.run s) : Sends call s a after sent := by
  obtain ⟨answer, state, recorded⟩ := sends
  exact ⟨same ▸ answer, same ▸ state, recorded⟩

/-- What a call sends, answers and leaves is determined. -/
theorem unique {call : Call (State (Recording σ)) α} {a b : α} {other : State (Recording σ)}
    (sends : Sends call s a after sent) (again : Sends call s b other later) :
    b = a ∧ other = after ∧ later = sent := by
  obtain ⟨rfl, rfl, recorded⟩ := sends
  obtain ⟨rfl, rfl, same⟩ := again
  rw [recorded] at same
  exact ⟨rfl, rfl, (List.append_cancel_left same).symm⟩

/-- A call that leaves the state alone sends nothing. -/
theorem nothing {call : Call (State (Recording σ)) α} {a : α}
    (answer : (call.run s).answer = a) (state : (call.run s).state = s) : Sends call s a s [] :=
  ⟨answer, state, (List.append_nil _).symm⟩

/-- What a call answers is turned into another answer, and nothing more is sent. -/
theorem turned {call : Call (State (Recording σ)) α} {a : α} (sends : Sends call s a after sent)
    (f : α → β) : Sends (call.andThen fun a => .answer (f a)) s (f a) after sent := by
  rw [← List.append_nil sent]
  refine sends.andThen ?_
  exact .nothing rfl rfl

variable {exchange : Exchange (Recording σ) α} {next : α → Exchange (Recording σ) β}

/-- An exchange that ends with a value is followed by the next one. -/
theorem bind_ok {a : α} {answer : Option (Except Error β)}
    (first : Sends exchange.toCall s (some (.ok a)) middle sent)
    (second : Sends (next a).toCall middle answer after later) :
    Sends (exchange >>= next).toCall s answer after (sent ++ later) := by
  rw [Exchange.toCall_bind]
  exact first.andThen second

/-- An exchange that fails is the last one. -/
theorem bind_error {e : Error} (first : Sends exchange.toCall s (some (.error e)) middle sent) :
    Sends (exchange >>= next).toCall s (some (.error e)) middle sent := by
  have ended : Sends (Exchange.following next (some (.error e))) middle (some (.error e)) middle [] :=
    nothing rfl rfl
  rw [Exchange.toCall_bind, ← List.append_nil sent]
  exact first.andThen ended

/-- An exchange that is given up is the last one. -/
theorem bind_none (first : Sends exchange.toCall s none middle sent) :
    Sends (exchange >>= next).toCall s none middle sent := by
  have ended : Sends (Exchange.following next none) middle none middle [] := nothing rfl rfl
  rw [Exchange.toCall_bind, ← List.append_nil sent]
  exact first.andThen ended

/-- What an exchange ends with is turned into another value, and nothing more is sent. -/
theorem map {answer : Option (Except Error α)} (sends : Sends exchange.toCall s answer after sent)
    (f : α → β) :
    Sends (exchange >>= fun a => Exchange.done (f a)).toCall s (answer.map (·.map f)) after sent := by
  have ended : Sends (Exchange.following (fun a => Exchange.done (f a)) answer) after
      (answer.map (·.map f)) after [] := by
    match answer with
    | none => exact .nothing rfl rfl
    | some (.error _) => exact .nothing rfl rfl
    | some (.ok _) => exact .nothing rfl rfl
  rw [Exchange.toCall_bind, ← List.append_nil sent]
  exact sends.andThen ended

theorem awaited {answer : Option (Except Error α)}
    (sends : Sends exchange.toCall s answer after sent) (wrap : Error → StoreError) :
    Sends (exchange.awaited wrap) s (answer.map (·.mapError wrap)) after sent :=
  sends.turned (Option.map (·.mapError wrap))

end Sends

/-! ## One request -/

/-- What a reader makes of the answer to a request. -/
def Dispatch.reading (d : Dispatch) (read : Response → Except Error α) :
    Option (Except Error α) :=
  d.answer.map fun
    | .error text => .error (.service text)
    | .ok response => read response

/-- The request to the address that a text writes, where it writes one. -/
def requestTo? (method : Method) (text : String) (body : Option Json) : Option Request :=
  (Address.ofText? text).map fun address => ⟨method, address.path, address.query, body⟩

/-- Sends a request to the address that a text writes, and reads the answer. -/
def ask (service : Service σ) (method : Method) (text : String) (body : Option Json)
    (refusal : Error) (read : Response → Except Error α) : Exchange σ α := do
  let answer ← sendTo service method text body refusal
  .ofExcept (read answer)

/-- The dispatch that a request comes to in a state. -/
def State.dispatch (s : State (Recording σ)) (service : Service σ) (request : Request) : Dispatch :=
  ⟨request, ((service request).run s.outside.inner).answer⟩

/-- The state after a request. -/
def State.asked (s : State (Recording σ)) (service : Service σ) (request : Request) :
    State (Recording σ) :=
  { s with outside :=
    ⟨((service request).run s.outside.inner).state, s.dispatches ++ [s.dispatch service request]⟩ }

/-- The ways in which a request can go that stands for `request?`: it cannot be put together, or it is
sent and its answer is read. -/
inductive Asking (service : Service σ) (request? : Option Request) (refusal : Error)
    (read : Response → Except Error α) (s : State (Recording σ)) :
    Option (Except Error α) → State (Recording σ) → List Dispatch → Prop
  | refused : request? = none → Asking service request? refusal read s (some (.error refusal)) s []
  | asked {request : Request} : request? = some request →
    Asking service request? refusal read s ((s.dispatch service request).reading read)
      (s.asked service request) [s.dispatch service request]

section Asked

variable {service : Service σ} {request? : Option Request} {refusal : Error}
  {read : Response → Except Error α} {s after : State (Recording σ)} {sent : List Dispatch}
  {answer : Option (Except Error α)}

/-- What is sent is the request, where there is one. -/
theorem Asking.requests_eq (asking : Asking service request? refusal read s answer after sent) :
    sent.map Dispatch.request = request?.toList := by
  cases asking with
  | refused none => rw [none, List.map_nil, Option.toList_none]
  | asked some => rw [some, List.map_singleton, Option.toList_some, State.dispatch]

theorem Asking.request_of_mem (asking : Asking service request? refusal read s answer after sent)
    {d : Dispatch} (mem : d ∈ sent) : request? = some d.request := by
  have own : d.request ∈ sent.map Dispatch.request := List.mem_map_of_mem mem
  rw [asking.requests_eq] at own
  exact Option.mem_toList.mp own

theorem Asking.resources_eq (asking : Asking service request? refusal read s answer after sent) :
    after.resources = s.resources := by
  cases asking <;> rfl

/-- An answer that is no error is read off what the service answers. -/
theorem Asking.reading_of_ok {a : α}
    (asking : Asking service request? refusal read s (some (.ok a)) after sent) :
    ∃ d, sent = [d] ∧ d.reading read = some (.ok a) := by
  generalize ended : some (Except.ok a) = answer at asking
  cases asking with
  | refused _ => cases ended
  | asked _ => exact ⟨_, rfl, rfl⟩

end Asked

theorem sends_ofExcept (result : Except Error α) (s : State (Recording σ)) :
    Sends (Exchange.ofExcept result).toCall s (some result) s [] := by
  cases result with
  | error _ => exact .nothing rfl rfl
  | ok _ => exact .nothing rfl rfl

/-- A request is sent, and its answer is read. -/
theorem sends_send (service : Service σ) (request : Request) (read : Response → Except Error α)
    (s : State (Recording σ)) :
    Sends (send service.recorded request >>= fun response => .ofExcept (read response)).toCall s
      ((s.dispatch service request).reading read) (s.asked service request)
      [s.dispatch service request] := by
  have sent : Sends (send service.recorded request).toCall s
      ((s.dispatch service request).answer.map (·.mapError .service))
      (s.asked service request) [s.dispatch service request] := ⟨rfl, rfl, rfl⟩
  unfold Dispatch.reading
  cases answered : (s.dispatch service request).answer with
  | none =>
    rw [answered] at sent
    exact sent.bind_none
  | some answer =>
    rw [answered] at sent
    cases answer with
    | error text => exact sent.bind_error
    | ok response => exact sent.bind_ok (sends_ofExcept (read response) _)

/-- A request goes one of the ways of `Asking`. -/
theorem ask_asking (service : Service σ) (method : Method) (text : String) (body : Option Json)
    (refusal : Error) (read : Response → Except Error α) (s : State (Recording σ)) :
    ∃ answer after sent, Sends (ask service.recorded method text body refusal read).toCall s answer
        after sent ∧
      Asking service (requestTo? method text body) refusal read s answer after sent := by
  unfold ask sendTo requestTo?
  cases Address.ofText? text with
  | none =>
    have refused : Sends (Exchange.fail refusal : Exchange (Recording σ) Response).toCall s
        (some (.error refusal)) s [] := .nothing rfl rfl
    exact ⟨_, _, _, refused.bind_error, .refused rfl⟩
  | some address => exact ⟨_, _, _, sends_send service _ read s, .asked rfl⟩

end Cluster

end Retention
