import Retention.Proofs.Discovery
import Retention.Proofs.Phases

/-!
# What counts as deleted

An object that the cluster says is not there counts as deleted, and nothing else does that fails.
`SaysGone` and `Refuses` classify the answers to the request that deletes an object, and a
`Departure` is a deletion that a store was asked for, with what it sent.  `Departure.Settled` says
when its answer is well, and which error it is otherwise: one of the discovery, where no deletion is
sent, or one of the deletion itself.
-/

namespace Retention

namespace Cluster

variable {σ : Type}

/-! ## Answers to a deletion -/

section Answers

variable (decoding : Decoding)

/-- The answers to a deletion after which the object is gone. -/
inductive SaysGone : Option (Except String Response) → Prop
  /-- The cluster has deleted it. -/
  | deleted {response : Response} :
    ¬(400 ≤ response.status ∧ response.status < 600) → decoding.isDeletion response.text = true →
    SaysGone (some (.ok response))
  /-- The cluster does not have it. -/
  | missing {response : Response} :
    400 ≤ response.status ∧ response.status < 600 → (decoding.failure response).code = 404 →
    SaysGone (some (.ok response))

/-- The answers to a deletion that are in error. -/
inductive Refuses : Option (Except String Response) → Error → Prop
  | service {text : String} : Refuses (some (.error text)) (.service text)
  | api {response : Response} :
    400 ≤ response.status ∧ response.status < 600 → (decoding.failure response).code ≠ 404 →
    Refuses (some (.ok response)) (.api (decoding.failure response))
  | undecodable {response : Response} :
    ¬(400 ≤ response.status ∧ response.status < 600) → decoding.isDeletion response.text = false →
    Refuses (some (.ok response)) .undecodable

end Answers

section Classified

variable {decoding : Decoding}

theorem SaysGone.not_refuses {answer : Option (Except String Response)} {e : Error}
    (gone : SaysGone decoding answer) : ¬Refuses decoding answer e := by
  intro refuses
  cases gone with
  | deleted succeeded decoded =>
    cases refuses with
    | api failing _ => exact succeeded failing
    | undecodable _ undecoded =>
      rw [decoded] at undecoded
      cases undecoded
  | missing failing missing =>
    cases refuses with
    | api _ other => exact other missing
    | undecodable succeeded _ => exact succeeded failing

theorem Refuses.unique {answer : Option (Except String Response)} {e f : Error}
    (refuses : Refuses decoding answer e) (again : Refuses decoding answer f) : e = f := by
  cases refuses with
  | service => cases again; rfl
  | api failing _ =>
    cases again with
    | api _ _ => rfl
    | undecodable succeeded _ => exact (succeeded failing).elim
  | undecodable succeeded _ =>
    cases again with
    | api failing _ => exact (succeeded failing).elim
    | undecodable _ _ => rfl

variable (decoding) (d : Dispatch)

/-- An answer to a deletion is missing, says that the object is gone, or refuses the deletion. -/
theorem accepted_reading :
    d.answer = none ∧ accepted (d.reading decoding.readDeletion) = none ∨
      SaysGone decoding d.answer ∧ accepted (d.reading decoding.readDeletion) = some (.ok ()) ∨
      ∃ e, Refuses decoding d.answer e ∧
        accepted (d.reading decoding.readDeletion) = some (.error e) := by
  unfold Dispatch.reading
  match d.answer with
  | none => exact .inl ⟨rfl, rfl⟩
  | some (.error text) => exact .inr (.inr ⟨_, .service, rfl⟩)
  | some (.ok response) =>
    by_cases failing : 400 ≤ response.status ∧ response.status < 600
    · have read : decoding.readDeletion response = .error (.api (decoding.failure response)) := by
        rw [Decoding.readDeletion, Decoding.content, if_pos failing]
        rfl
      simp only [Option.map_some, read, accepted]
      by_cases missing : (decoding.failure response).code = 404
      · rw [if_pos missing]
        exact .inr (.inl ⟨.missing failing missing, rfl⟩)
      · rw [if_neg missing]
        exact .inr (.inr ⟨_, .api failing missing, rfl⟩)
    · have read : decoding.readDeletion response =
          if decoding.isDeletion response.text then .ok () else .error .undecodable := by
        rw [Decoding.readDeletion, Decoding.content, if_neg failing]
        rfl
      simp only [Option.map_some, read]
      cases decoded : decoding.isDeletion response.text with
      | true => exact .inr (.inl ⟨.deleted failing decoded, rfl⟩)
      | false => exact .inr (.inr ⟨_, .undecodable failing decoded, rfl⟩)

theorem accepted_ok_iff :
    accepted (d.reading decoding.readDeletion) = some (.ok ()) ↔ SaysGone decoding d.answer := by
  rcases accepted_reading decoding d with ⟨unanswered, same⟩ | ⟨gone, same⟩ | ⟨e, refuses, same⟩
  · rw [same, unanswered]
    exact ⟨nofun, nofun⟩
  · exact ⟨fun _ => gone, fun _ => same⟩
  · rw [same]
    exact ⟨nofun, fun gone => (gone.not_refuses refuses).elim⟩

theorem accepted_error_iff (e : Error) :
    accepted (d.reading decoding.readDeletion) = some (.error e) ↔
      Refuses decoding d.answer e := by
  rcases accepted_reading decoding d with ⟨unanswered, same⟩ | ⟨gone, same⟩ | ⟨f, refuses, same⟩
  · rw [same, unanswered]
    exact ⟨nofun, nofun⟩
  · rw [same]
    exact ⟨nofun, fun refuses => (gone.not_refuses refuses).elim⟩
  · rw [same]
    constructor
    · rintro ⟨⟩
      exact refuses
    · intro again
      rw [refuses.unique again]

theorem accepted_none_iff :
    accepted (d.reading decoding.readDeletion) = none ↔ d.answer = none := by
  rcases accepted_reading decoding d with ⟨unanswered, same⟩ | ⟨gone, same⟩ | ⟨e, refuses, same⟩
  · exact ⟨fun _ => unanswered, fun _ => same⟩
  · rw [same]
    refine ⟨nofun, fun unanswered => ?_⟩
    rw [unanswered] at gone
    cases gone
  · rw [same]
    refine ⟨nofun, fun unanswered => ?_⟩
    rw [unanswered] at refuses
    cases refuses

end Classified

/-! ## Departures -/

/-- The state with a record in which nothing was sent yet. -/
def State.recording (s : State σ) : State (Recording σ) := ⟨s.resources, ⟨s.outside, []⟩⟩

/-- A discovery that fails. -/
inductive Undiscovered (decoding : Decoding) (t : TypeIdentifier) : List Dispatch → Error → Prop
  /-- The type has no address. -/
  | unsent : discoveryRequest? t = none → Undiscovered decoding t [] .malformedAddress
  | failed {d : Dispatch} {e : Error} :
    d.reading (decoding.findResource t.kind) = some (.error e) → Undiscovered decoding t [d] e

/-- A deletion that a store is asked for in a state: what it sends to discover the resource of the
object and to delete it, and its answer. -/
structure Departure (σ : Type) where
  object : Object
  before : State σ
  discovery : List Dispatch
  deletion : List Dispatch
  answer : Awaited Unit

namespace Departure

/-- The resource that the objects of a type are found under. -/
def resource? (d : Departure σ) (decoding : Decoding) (t : TypeIdentifier) : Option ApiResource :=
  (d.before.resources.lookup t).or (foundIn decoding t d.discovery)

/-- The resource is known or discovered, and the one request that is sent to delete the object is
answered in a way that says that it is gone. -/
def Gone (d : Departure σ) (decoding : Decoding) (t : TypeIdentifier) : Prop :=
  ∃ r sent, d.resource? decoding t = some r ∧
    deletionRequest? r d.object.key = some sent.request ∧ d.deletion = [sent] ∧
    SaysGone decoding sent.answer

/-- The resource is known or discovered, and its deletion is in error: there is no such request, or
the one that is sent is refused. -/
def Refused (d : Departure σ) (decoding : Decoding) (t : TypeIdentifier) (e : Error) : Prop :=
  ∃ r, d.resource? decoding t = some r ∧
    (deletionRequest? r d.object.key = none ∧ d.deletion = [] ∧ e = .unbuildable ∨
      ∃ sent, deletionRequest? r d.object.key = some sent.request ∧ d.deletion = [sent] ∧
        Refuses decoding sent.answer e)

/-- A departure is what a store of a service does, and its answer tells what the service said. -/
structure Settled (service : Service σ) (t : TypeIdentifier) (d : Departure σ) : Prop where
  answered : ((delete service t d.object).run d.before).answer = d.answer
  sent : ((delete service.recorded t d.object).run d.before.recording).state.dispatches =
    d.discovery ++ d.deletion
  /-- The resource of the type is discovered where it is not known. -/
  discovers : d.discovery.map Dispatch.request =
    if (d.before.resources.lookup t).isSome then [] else (discoveryRequest? t).toList
  /-- One request at most is sent to delete the object, and none without a resource. -/
  deletes : d.deletion.map Dispatch.request =
    ((d.resource? service.decoding t).bind fun r => deletionRequest? r d.object.key).toList
  ok_iff : d.answer = some (.ok ()) ↔ d.Gone service.decoding t
  discovery_iff : ∀ t' e, d.answer = some (.error (.discovery t' e)) ↔
    t' = t ∧ d.before.resources.lookup t = none ∧ Undiscovered service.decoding t d.discovery e
  /-- After a failed discovery, whatever its code, no deletion is sent. -/
  unsent : ∀ t' e, d.answer = some (.error (.discovery t' e)) → d.deletion = []
  cluster_iff : ∀ e, d.answer = some (.error (.cluster e)) ↔ d.Refused service.decoding t e
  not_other : ∀ text, d.answer ≠ some (.error (.other text))
  /-- It waits for ever only where the service does not answer. -/
  none_iff : d.answer = none ↔ ∃ sent ∈ d.discovery ++ d.deletion, sent.answer = none

end Departure

section Resolving

variable {service : Service σ} {t : TypeIdentifier} {s known : State (Recording σ)}
  {found : Option (Except Error ApiResource)} {discovery : List Dispatch}

theorem Asking.none_iff {α : Type} {request? : Option Request} {refusal : Error}
    {read : Response → Except Error α} {answer : Option (Except Error α)} {sent : List Dispatch}
    (asking : Asking service request? refusal read s answer known sent) :
    answer = none ↔ ∃ d ∈ sent, d.answer = none := by
  cases asking with
  | refused _ => simp
  | asked _ => simp [Dispatch.reading]

theorem Asking.undiscovered_iff
    (asking : AskingResource service t s found known discovery) (e : Error) :
    found = some (.error e) ↔ Undiscovered service.decoding t discovery e := by
  cases asking with
  | refused none =>
    constructor
    · rintro ⟨⟩
      exact .unsent none
    · rintro ⟨⟩
      rfl
  | asked _ =>
    constructor
    · exact .failed
    · rintro (_ | failed)
      exact failed

variable (resolving : Resolving service t s found known discovery)

include resolving

/-- The resource that comes out was known, or is what the discovery found. -/
theorem Resolving.resource?_eq :
    (s.resources.lookup t).or (foundIn service.decoding t discovery) = found.bind Except.toOption := by
  rw [← resolving.lookup_self, resolving.lookup_eq t, if_pos rfl]

theorem Resolving.error_iff (e : Error) :
    found = some (.error e) ↔
      s.resources.lookup t = none ∧ Undiscovered service.decoding t discovery e := by
  cases resolving with
  | remembered known => simp [known]
  | discovered unknown asking | failed unknown asking | givenUp unknown asking =>
    rw [asking.undiscovered_iff e, and_iff_right unknown]

theorem Resolving.none_iff : found = none ↔ ∃ d ∈ discovery, d.answer = none := by
  cases resolving with
  | remembered known => simp
  | discovered unknown asking | failed unknown asking | givenUp unknown asking =>
    exact asking.none_iff

end Resolving

/-! ## How a departure is settled -/

section Deleting

variable {service : Service σ} {r : ApiResource} {key : ResourceKey}
  {s after : State (Recording σ)} {answer : Option (Except Error Unit)} {deletion : List Dispatch}
  (asking : AskingDeletion service r key s answer after deletion)

include asking

theorem Asking.gone_iff :
    accepted answer = some (.ok ()) ↔ ∃ sent, deletionRequest? r key = some sent.request ∧
      deletion = [sent] ∧ SaysGone service.decoding sent.answer := by
  cases asking with
  | refused _ => exact ⟨nofun, nofun⟩
  | asked requested =>
    rw [accepted_ok_iff]
    constructor
    · exact fun gone => ⟨_, requested, rfl, gone⟩
    · rintro ⟨sent, -, same, gone⟩
      cases same
      exact gone

theorem Asking.refused_iff (e : Error) :
    accepted answer = some (.error e) ↔
      deletionRequest? r key = none ∧ deletion = [] ∧ e = .unbuildable ∨
        ∃ sent, deletionRequest? r key = some sent.request ∧ deletion = [sent] ∧
          Refuses service.decoding sent.answer e := by
  cases asking with
  | refused unbuildable =>
    constructor
    · rintro ⟨⟩
      exact .inl ⟨unbuildable, rfl, rfl⟩
    · rintro (⟨-, -, rfl⟩ | ⟨sent, -, same, -⟩)
      · rfl
      · cases same
  | asked requested =>
    rw [accepted_error_iff]
    constructor
    · exact fun refuses => .inr ⟨_, requested, rfl, refuses⟩
    · rintro (⟨-, none, -⟩ | ⟨sent, -, same, refuses⟩)
      · cases none
      · cases same
        exact refuses

theorem Asking.accepted_none_iff :
    accepted answer = none ↔ ∃ sent ∈ deletion, sent.answer = none := by
  cases asking with
  | refused _ => exact ⟨nofun, nofun⟩
  | asked _ =>
    rw [Cluster.accepted_none_iff]
    simp

end Deleting

section Wrapped

variable {answer : Option (Except Error Unit)}

theorem wrapped_ok_iff :
    answer.map (·.mapError StoreError.cluster) = some (.ok ()) ↔ answer = some (.ok ()) := by
  match answer with
  | none | some (.error _) => exact ⟨nofun, nofun⟩
  | some (.ok ()) => exact ⟨fun _ => rfl, fun _ => rfl⟩

theorem wrapped_error_iff {source : StoreError} :
    answer.map (·.mapError StoreError.cluster) = some (.error source) ↔
      ∃ e, answer = some (.error e) ∧ source = .cluster e := by
  match answer with
  | none | some (.ok ()) => simp [Except.mapError]
  | some (.error e) => simp [Except.mapError, eq_comm]

end Wrapped

section Settling

variable {service : Service σ} {t : TypeIdentifier} {d : Departure σ}
  {known after : State (Recording σ)}

theorem Departure.gone_iff {r : ApiResource}
    (found : d.resource? service.decoding t = some r) :
    d.Gone service.decoding t ↔ ∃ sent, deletionRequest? r d.object.key = some sent.request ∧
      d.deletion = [sent] ∧ SaysGone service.decoding sent.answer := by
  simp [Gone, found]

theorem Departure.refused_iff {r : ApiResource}
    (found : d.resource? service.decoding t = some r) (e : Error) :
    d.Refused service.decoding t e ↔
      deletionRequest? r d.object.key = none ∧ d.deletion = [] ∧ e = .unbuildable ∨
      ∃ sent, deletionRequest? r d.object.key = some sent.request ∧ d.deletion = [sent] ∧
        Refuses service.decoding sent.answer e := by
  simp [Refused, found]

theorem Departure.answered_of_sends
    (sends : Sends (delete service.recorded t d.object) d.before.recording d.answer after
      (d.discovery ++ d.deletion)) :
    ((delete service t d.object).run d.before).answer = d.answer := by
  have plain := congrArg Reply.answer (mirrors_delete service t d.object d.before.recording)
  exact plain.trans sends.answer

theorem Departure.sent_of_sends
    (sends : Sends (delete service.recorded t d.object) d.before.recording d.answer after
      (d.discovery ++ d.deletion)) :
    ((delete service.recorded t d.object).run d.before.recording).state.dispatches =
      d.discovery ++ d.deletion := by
  rw [sends.state]
  exact sends.dispatches

/-- A departure whose resource is not found sends no deletion. -/
theorem Departure.settled_of_unresolved {found : Option (Except Error ApiResource)}
    (sends : Sends (delete service.recorded t d.object) d.before.recording d.answer after
      (d.discovery ++ d.deletion))
    (resolving : Resolving service t d.before.recording found known d.discovery)
    (unresolved : found.bind Except.toOption = none) (unsent : d.deletion = [])
    (answer : d.answer = found.map fun result => (result.mapError (.discovery t)).map fun _ => ()) :
    d.Settled service t := by
  have lost : d.resource? service.decoding t = none := resolving.resource?_eq.trans unresolved
  constructor
  case answered => exact answered_of_sends sends
  case sent => exact sent_of_sends sends
  case discovers => exact resolving.requests_eq
  case deletes => rw [lost, unsent]; rfl
  case ok_iff =>
    constructor
    · intro ok
      rw [answer] at ok
      match found with
      | some (.ok _) => cases unresolved
    · rintro ⟨r, _, found, -⟩
      cases lost.symm.trans found
  case discovery_iff =>
    intro t' e
    have failing : found = some (.error e) ↔
        d.before.resources.lookup t = none ∧ Undiscovered service.decoding t d.discovery e :=
      resolving.error_iff e
    rw [← failing, answer]
    match found with
    | none => simp
    | some (.error f) => simp [Except.mapError, Except.map, eq_comm]
    | some (.ok _) => cases unresolved
  case unsent => exact fun _ _ _ => unsent
  case cluster_iff =>
    intro e
    constructor
    · intro failed
      rw [answer] at failed
      match found with
      | some (.ok _) => cases unresolved
    · rintro ⟨r, found, -⟩
      cases lost.symm.trans found
  case not_other =>
    intro text failed
    rw [answer] at failed
    match found with
    | some (.ok _) => cases unresolved
  case none_iff =>
    rw [answer, unsent, List.append_nil, Option.map_eq_none_iff]
    exact resolving.none_iff

/-- The answer of a departure whose resource is found is that to its deletion. -/
theorem Departure.settled_of_resolved {r : ApiResource} {answer : Option (Except Error Unit)}
    (sends : Sends (delete service.recorded t d.object) d.before.recording d.answer after
      (d.discovery ++ d.deletion))
    (resolving : Resolving service t d.before.recording (some (.ok r)) known d.discovery)
    (asking : AskingDeletion service r d.object.key known answer after d.deletion)
    (settled : d.answer = (accepted answer).map (·.mapError .cluster)) :
    d.Settled service t := by
  have found : d.resource? service.decoding t = some r := resolving.resource?_eq
  constructor
  case answered => exact answered_of_sends sends
  case sent => exact sent_of_sends sends
  case discovers => exact resolving.requests_eq
  case deletes => rw [found]; exact asking.requests_eq
  case ok_iff => rw [gone_iff found, ← asking.gone_iff, settled, wrapped_ok_iff]
  case discovery_iff =>
    intro t' e
    have discovered : ¬(d.before.resources.lookup t = none ∧
        Undiscovered service.decoding t d.discovery e) :=
      mt (resolving.error_iff e).mpr nofun
    rw [iff_false_right (fun failed => discovered failed.2), settled, wrapped_error_iff]
    rintro ⟨_, _, ⟨⟩⟩
  case unsent =>
    intro t' e failed
    obtain ⟨_, _, ⟨⟩⟩ := wrapped_error_iff.mp (settled.symm.trans failed)
  case cluster_iff =>
    intro e
    rw [refused_iff found, ← asking.refused_iff, settled, wrapped_error_iff]
    constructor
    · rintro ⟨_, failed, ⟨⟩⟩
      exact failed
    · exact fun failed => ⟨e, failed, rfl⟩
  case not_other =>
    intro text
    rw [settled, Ne, wrapped_error_iff]
    rintro ⟨_, _, ⟨⟩⟩
  case none_iff =>
    have discovered : ¬∃ sent ∈ d.discovery, sent.answer = none := mt resolving.none_iff.mpr nofun
    rw [settled, Option.map_eq_none_iff, asking.accepted_none_iff]
    simp only [List.mem_append, or_and_right, exists_or, discovered, false_or]

end Settling

/-- Every deletion that a store is asked for is a departure that is settled. -/
theorem exists_settled (service : Service σ) (t : TypeIdentifier) (o : Object) (s : State σ) :
    ∃ d : Departure σ, d.object = o ∧ d.before = s ∧ d.Settled service t := by
  obtain ⟨found, known, discovery, resolved, resolving⟩ :=
    resolve_resolving service t s.recording
  match found with
  | none =>
    have sends : Sends (delete service.recorded t o) s.recording none known (discovery ++ []) := by
      rw [List.append_nil]
      exact resolved.withResource_none
    exact ⟨⟨o, s, discovery, [], none⟩, rfl, rfl,
      Departure.settled_of_unresolved sends resolving rfl rfl rfl⟩
  | some (.error e) =>
    have sends : Sends (delete service.recorded t o) s.recording
        (some (.error (.discovery t e))) known (discovery ++ []) := by
      rw [List.append_nil]
      exact resolved.withResource_error
    exact ⟨⟨o, s, discovery, [], _⟩, rfl, rfl,
      Departure.settled_of_unresolved sends resolving rfl rfl rfl⟩
  | some (.ok r) =>
    obtain ⟨answer, after, deletion, sending, asking⟩ := sendDeletion_asking service r o.key known
    have sends : Sends (delete service.recorded t o) s.recording
        ((accepted answer).map (·.mapError .cluster)) after (discovery ++ deletion) :=
      resolved.withResource_ok (sending.acceptGone o.key)
    exact ⟨⟨o, s, discovery, deletion, _⟩, rfl, rfl,
      Departure.settled_of_resolved sends resolving asking rfl⟩

end Cluster

end Retention
