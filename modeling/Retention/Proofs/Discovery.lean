import Retention.Proofs.Operations

/-!
# What a store remembers

A store makes operations one after the other, and remembers the resources that it discovers.  A
`Turn` is an operation that was made, and `History` a run of them, with what is done between them in
a relation.  As long as nothing makes the store forget (`Recalls`), a resource that is known is not
discovered again, and everything else is sent to it (`History.demands`).

Where others may change the cluster but leave the store alone (`Aside`), what the store knows of a
type is what the first successful discovery found (`History.lookup_eq`), and an operation discovers
only what is not known yet, before it sends anything else (`History.follows`).  `Remembers` puts this
together for a whole history.
-/

namespace Retention.Cluster

variable {σ : Type}

/-! ## The way to a resource -/

/-- The resource that answers to discoveries make known, if they do. -/
def foundIn (decoding : Decoding) (t : TypeIdentifier) (discovery : List Dispatch) :
    Option ApiResource :=
  discovery.findSome? fun d => (d.reading (decoding.findResource t.kind)).bind Except.toOption

section Resolving

variable {service : Service σ} {t : TypeIdentifier} {s known : State (Recording σ)}
  {found : Option (Except Error ApiResource)} {discovery : List Dispatch}

theorem Asking.foundIn_eq
    (asking : AskingResource service t s found known discovery) :
    foundIn service.decoding t discovery = found.bind Except.toOption := by
  cases asking with
  | refused _ => rfl
  | asked _ =>
    rw [foundIn, List.findSome?_cons]
    cases (s.dispatch service _).reading (service.decoding.findResource t.kind) with
    | none => rfl
    | some answer => cases answer <;> rfl

theorem lookup_remembering (s : State σ) (t t' : TypeIdentifier) (r : ApiResource) :
    (s.remembering t r).resources.lookup t' = if t = t' then some r else s.resources.lookup t' := by
  rw [State.remembering, List.lookup_cons]
  by_cases same : t = t'
  · simp [same]
  · have other : (t' == t) = false := by simpa using Ne.symm same
    rw [other, if_neg same]

variable (resolving : Resolving service t s found known discovery)

include resolving

/-- A type that is known is not discovered, and one that is not known is. -/
theorem Resolving.requests_eq :
    discovery.map Dispatch.request =
      if (s.resources.lookup t).isSome then [] else (discoveryRequest? t).toList := by
  cases resolving with
  | remembered known => rw [known, Option.isSome_some, if_pos rfl, List.map_nil]
  | discovered unknown asking | failed unknown asking | givenUp unknown asking =>
    rw [unknown, Option.isSome_none, if_neg Bool.false_ne_true]
    exact asking.requests_eq

/-- What was found is known afterwards, and nothing else changes. -/
theorem Resolving.lookup_eq (t' : TypeIdentifier) :
    known.resources.lookup t' =
      (s.resources.lookup t').or
        (if t = t' then foundIn service.decoding t discovery else none) := by
  cases resolving with
  | remembered known =>
    simp [foundIn]
  | discovered unknown asking =>
    rw [lookup_remembering, asking.resources_eq, asking.foundIn_eq]
    by_cases same : t = t'
    · subst same
      simp [unknown, Except.toOption]
    · simp [same]
  | failed unknown asking | givenUp unknown asking =>
    rw [asking.resources_eq, asking.foundIn_eq]
    simp [Except.toOption]

/-- The resource that comes out is the one that is known afterwards. -/
theorem Resolving.lookup_self : known.resources.lookup t = found.bind Except.toOption := by
  cases resolving with
  | remembered known => exact known
  | discovered unknown asking =>
    rw [lookup_remembering, if_pos rfl]
    rfl
  | failed unknown asking | givenUp unknown asking =>
    rw [asking.resources_eq, unknown]
    rfl

end Resolving

/-- A way to a resource that is given up waits for an answer in vain. -/
theorem Resolving.unanswered {service : Service σ} {t : TypeIdentifier}
    {s known : State (Recording σ)} {discovery : List Dispatch}
    (resolving : Resolving service t s none known discovery) : ∃ d ∈ discovery, d.answer = none := by
  cases resolving with
  | givenUp unknown asking =>
    generalize ended : (none : Option (Except Error ApiResource)) = answer at asking
    cases asking with
    | refused _ => cases ended
    | asked _ =>
      have silent := Option.map_eq_none_iff.mp ended.symm
      exact ⟨_, List.mem_singleton_self _, silent⟩

/-! ## Operations that were made -/

/-- An operation that was made: what it sent to discover its resource and after that, and its
answer. -/
structure Turn where
  operation : Operation
  discovery : List Dispatch
  others : List Dispatch
  answer : Awaited (List Object)

namespace Turn

def type (turn : Turn) : TypeIdentifier := turn.operation.type

/-- What was sent, in order. -/
def sent (turn : Turn) : List Dispatch := turn.discovery ++ turn.others

/-- The resource that the service made known when it was asked for it. -/
def found? (turn : Turn) (decoding : Decoding) : Option ApiResource :=
  foundIn decoding turn.type turn.discovery

end Turn

/-- An operation was made in a state.  What it sent first is what it takes to come by its
resource. -/
structure Made (service : Service σ) (limit : Nat) (turn : Turn)
    (before after : State (Recording σ)) : Prop where
  sends : Sends (turn.operation.call service.recorded limit) before turn.answer after turn.sent
  resolves : ∃ found known,
    Sends (resolve service.recorded turn.type).toCall before found known turn.discovery

theorem Operation.exists_made (service : Service σ) (limit : Nat) (operation : Operation)
    (s : State (Recording σ)) :
    ∃ turn, turn.operation = operation ∧
      Made service limit turn s ((operation.call service.recorded limit).run s).state := by
  obtain ⟨answer, after, discovery, others, sends, resolves, -⟩ :=
    operation.operating service limit s
  have left := sends.state
  refine ⟨⟨operation, discovery, others, answer⟩, rfl, ?_, resolves⟩
  rw [left]
  exact sends

/-! ## One operation -/

section Operating

variable {service : Service σ} {limit : Nat} {turn : Turn} {t : TypeIdentifier} {r : ApiResource}
  {before after : State (Recording σ)} {sent : List Dispatch}

theorem Made.operating (made : Made service limit turn before after) :
    Operating service limit turn.operation before turn.answer after turn.discovery turn.others := by
  obtain ⟨answer, left, discovery, others, sends, ⟨_, _, resolves⟩, operating⟩ :=
    turn.operation.operating service limit before
  obtain ⟨_, _, own⟩ := made.resolves
  obtain ⟨-, -, first⟩ := own.unique resolves
  obtain ⟨rfl, rfl, all⟩ := made.sends.unique sends
  rw [first, Turn.sent] at all
  rw [← first, ← List.append_cancel_left all]
  exact operating

theorem Paging.resources_eq {ns selector token : Option String}
    {answer : Option (Except Error (List Object))}
    (paging : Paging service r ns selector limit token before answer after sent) :
    after.resources = before.resources := by
  induction paging with
  | exhausted => rfl
  | givenUp asking => exact asking.resources_eq
  | failed asking => exact asking.resources_eq
  | last asking _ => exact asking.resources_eq
  | next asking _ _ ih => exact ih.trans asking.resources_eq

theorem Exchanging.resources_eq {operation : Operation}
    {answer : Option (Except Error (List Object))}
    (exchanging : Exchanging service limit r before operation answer after sent) :
    after.resources = before.resources := by
  cases exchanging with
  | list paging => exact paging.resources_eq
  | delete asking => exact asking.resources_eq

/-- What an operation demands of the resource of its type. -/
inductive Operation.Demands (r : ApiResource) : Operation → Request → Prop
  | list {request : ListRequest} {token : Option String} {wire : Request} :
    listRequest? r (r.inScope request.ns) request.selector token = some wire →
    Demands r (.list request) wire
  | delete {type : TypeIdentifier} {o : Object} {wire : Request} :
    deletionRequest? r o.key = some wire → Demands r (.delete type o) wire

theorem Paging.requested {ns selector token : Option String}
    {answer : Option (Except Error (List Object))}
    (paging : Paging service r ns selector limit token before answer after sent) :
    ∀ d ∈ sent, ∃ token, listRequest? r ns selector token = some d.request := by
  induction paging with
  | exhausted => exact List.forall_mem_nil _
  | givenUp asking => exact fun d mem => ⟨_, asking.request_of_mem mem⟩
  | failed asking => exact fun d mem => ⟨_, asking.request_of_mem mem⟩
  | last asking _ => exact fun d mem => ⟨_, asking.request_of_mem mem⟩
  | next asking _ _ ih =>
    intro d mem
    rcases List.mem_append.mp mem with first | later
    · exact ⟨_, asking.request_of_mem first⟩
    · exact ih d later

/-- Every object of a list was in a page that the service gave. -/
theorem Paging.paged {ns selector token : Option String} {answer : Option (Except Error (List Object))}
    (paging : Paging service r ns selector limit token before answer after sent)
    {objects : List Object} (ok : answer = some (.ok objects)) :
    ∀ o ∈ objects, ∃ d ∈ sent, ∃ page, d.reading service.decoding.readPage = some (.ok page) ∧
      o ∈ page.items := by
  induction paging generalizing objects with
  | exhausted => cases ok
  | givenUp _ => cases ok
  | failed _ => cases ok
  | last asking _ =>
    cases ok
    obtain ⟨d, rfl, reads⟩ := asking.reading_of_ok
    exact fun o mem => ⟨d, List.mem_singleton_self d, _, reads, mem⟩
  | @next _ _ _ _ _ _ _ _ _ answer asking _ _ ih =>
    obtain ⟨d, rfl, reads⟩ := asking.reading_of_ok
    match answer with
    | none => cases ok
    | some (.error _) => cases ok
    | some (.ok others) =>
      cases ok
      intro o mem
      rcases List.mem_append.mp mem with first | later
      · exact ⟨d, List.mem_append_left _ (List.mem_singleton_self d), _, reads, first⟩
      · obtain ⟨d, sent, page⟩ := ih rfl o later
        exact ⟨d, List.mem_append_right _ sent, page⟩

theorem Exchanging.demands {operation : Operation} {answer : Option (Except Error (List Object))}
    (exchanging : Exchanging service limit r before operation answer after sent) :
    ∀ d ∈ sent, operation.Demands r d.request := by
  cases exchanging with
  | list paging =>
    intro d mem
    obtain ⟨token, requested⟩ := paging.requested d mem
    exact .list requested
  | delete asking => exact fun d mem => .delete (asking.request_of_mem mem)

section Made

variable (made : Made service limit turn before after)

include made

/-- An operation discovers the resource of its type where it is not known yet. -/
theorem Made.discovers_eq :
    turn.discovery.map Dispatch.request =
      if (before.resources.lookup turn.type).isSome then []
      else (discoveryRequest? turn.type).toList := by
  obtain ⟨operation, discovery, others, answer⟩ := turn
  have operating : Operating service limit operation before answer after discovery others :=
    made.operating
  cases operating with
  | abandoned resolving => exact resolving.requests_eq
  | unresolved resolving => exact resolving.requests_eq
  | resolved resolving _ => exact resolving.requests_eq

/-- What an operation finds is known after it, and of other types nothing else is. -/
theorem Made.lookup_eq (t : TypeIdentifier) :
    after.resources.lookup t =
      (before.resources.lookup t).or
        (if turn.type = t then turn.found? service.decoding else none) := by
  obtain ⟨operation, discovery, others, answer⟩ := turn
  have operating : Operating service limit operation before answer after discovery others :=
    made.operating
  cases operating with
  | abandoned resolving => exact resolving.lookup_eq t
  | unresolved resolving => exact resolving.lookup_eq t
  | resolved resolving exchanging =>
    rw [exchanging.resources_eq]
    exact resolving.lookup_eq t

/-- Everything else is sent to the resource that is known. -/
theorem Made.demands : ∀ d ∈ turn.others,
    ∃ r, after.resources.lookup turn.type = some r ∧ turn.operation.Demands r d.request := by
  obtain ⟨operation, discovery, others, answer⟩ := turn
  have operating : Operating service limit operation before answer after discovery others :=
    made.operating
  cases operating with
  | abandoned _ => exact List.forall_mem_nil _
  | unresolved _ => exact List.forall_mem_nil _
  | resolved resolving exchanging =>
    intro d mem
    refine ⟨_, ?_, exchanging.demands d mem⟩
    rw [exchanging.resources_eq]
    exact resolving.lookup_self

/-- An operation whose resource is not found ends there, with an error that names the type. -/
theorem Made.unresolved (unknown : after.resources.lookup turn.type = none) :
    turn.others = [] ∧
      ((turn.answer = none ∧ ∃ d ∈ turn.discovery, d.answer = none) ∨
        ∃ e, turn.answer = some (.error (.discovery turn.type e))) := by
  obtain ⟨operation, discovery, others, answer⟩ := turn
  have operating : Operating service limit operation before answer after discovery others :=
    made.operating
  cases operating with
  | abandoned resolving => exact ⟨rfl, .inl ⟨rfl, resolving.unanswered⟩⟩
  | unresolved _ => exact ⟨rfl, .inr ⟨_, rfl⟩⟩
  | resolved resolving exchanging =>
    have found := resolving.lookup_self
    rw [← exchanging.resources_eq] at found
    cases unknown.symm.trans found

/-- An operation that ends well knows the resource of its type. -/
theorem Made.isSome_of_ok {objects : List Object} (ok : turn.answer = some (.ok objects)) :
    (after.resources.lookup turn.type).isSome = true := by
  cases known : after.resources.lookup turn.type with
  | some r => rfl
  | none =>
    obtain ⟨-, ⟨none, -⟩ | ⟨e, error⟩⟩ := made.unresolved known
    · cases ok.symm.trans none
    · cases ok.symm.trans error

/-- Every object that an operation lists was in a page that the service gave. -/
theorem Made.paged {request : ListRequest} {objects : List Object}
    (lists : turn.operation = .list request) (ok : turn.answer = some (.ok objects)) :
    ∀ o ∈ objects, ∃ d ∈ turn.others, ∃ page,
      d.reading service.decoding.readPage = some (.ok page) ∧ o ∈ page.items := by
  obtain ⟨operation, discovery, others, answer⟩ := turn
  have operating : Operating service limit operation before answer after discovery others :=
    made.operating
  cases operating with
  | abandoned _ => cases ok
  | unresolved _ => cases ok
  | @resolved _ _ _ _ _ answer _ exchanging =>
    cases lists
    cases exchanging with
    | list paging =>
      match answer with
      | none => cases ok
      | some (.error _) => cases ok
      | some (.ok _) =>
        cases ok
        exact paging.paged rfl

end Made

end Operating

/-! ## Histories -/

/-- What is known stays known. -/
def Recalls (before after : State σ) : Prop :=
  ∀ t r, before.resources.lookup t = some r → after.resources.lookup t = some r

theorem Recalls.refl (s : State σ) : Recalls s s := fun _ _ known => known

theorem Recalls.trans {before middle after : State σ} (first : Recalls before middle)
    (second : Recalls middle after) : Recalls before after :=
  fun t r known => second t r (first t r known)

/-- An operation forgets nothing. -/
theorem Made.recalls {service : Service σ} {limit : Nat} {turn : Turn}
    {before after : State (Recording σ)} (made : Made service limit turn before after) :
    Recalls before after := by
  intro t r known
  rw [made.lookup_eq, known, Option.some_or]

/-- Others may change the cluster, but not the store. -/
structure Aside (before after : State (Recording σ)) : Prop where
  resources : after.resources = before.resources
  dispatches : after.dispatches = before.dispatches

namespace Aside

variable {before middle after : State (Recording σ)}

theorem refl (s : State (Recording σ)) : Aside s s := ⟨rfl, rfl⟩

theorem trans (first : Aside before middle) (second : Aside middle after) : Aside before after :=
  ⟨second.resources.trans first.resources, second.dispatches.trans first.dispatches⟩

theorem recalls (aside : Aside before after) : Recalls before after := by
  intro t r known
  rw [aside.resources, known]

end Aside

/-- Others may use the store as well as change the cluster.  The store forgets nothing, and what they
send is not in the record. -/
structure Beside (before after : State (Recording σ)) : Prop where
  recalls : Recalls before after
  dispatches : after.dispatches = before.dispatches

theorem Aside.beside {before after : State (Recording σ)} (aside : Aside before after) :
    Beside before after := ⟨aside.recalls, aside.dispatches⟩

theorem Beside.refl (s : State (Recording σ)) : Beside s s := (Aside.refl s).beside

theorem Beside.trans {before middle after : State (Recording σ)} (first : Beside before middle)
    (second : Beside middle after) : Beside before after :=
  ⟨first.recalls.trans second.recalls, second.dispatches.trans first.dispatches⟩

/-- The operations that were made from a state on, one after the other.  What is done between them
is in a relation. -/
inductive History (service : Service σ) (limit : Nat)
    (between : State (Recording σ) → State (Recording σ) → Prop) (start : State (Recording σ)) :
    List Turn → State (Recording σ) → Prop
  | start : History service limit between start [] start
  | turn {turns : List Turn} {turn : Turn} {before after : State (Recording σ)} :
    History service limit between start turns before → Made service limit turn before after →
    History service limit between start (turns ++ [turn]) after
  | aside {turns : List Turn} {before after : State (Recording σ)} :
    History service limit between start turns before → between before after →
    History service limit between start turns after

/-! ### Histories of a store that forgets nothing -/

section Keeping

variable {service : Service σ} {limit : Nat} {turns : List Turn} {turn : Turn} {t : TypeIdentifier}
  {start before after : State (Recording σ)}
  {between : State (Recording σ) → State (Recording σ) → Prop}

theorem History.append {more : List Turn}
    (first : History service limit between start turns before)
    (second : History service limit between before more after) :
    History service limit between start (turns ++ more) after := by
  induction second with
  | start => simpa using first
  | turn _ made ih => rw [← List.append_assoc]; exact .turn ih made
  | aside _ aside ih => exact .aside ih aside

theorem Made.history (made : Made service limit turn before after) :
    History service limit between before [turn] after := .turn .start made

/-- The record is of what the operations sent. -/
theorem History.dispatches_eq
    (unrecorded : ∀ ⦃s s'⦄, between s s' → s'.dispatches = s.dispatches)
    (history : History service limit between start turns after) :
    after.dispatches = start.dispatches ++ turns.flatMap Turn.sent := by
  induction history with
  | start => simp
  | turn _ made ih => rw [made.sends.dispatches, ih]; simp
  | aside _ aside ih => rw [unrecorded aside, ih]

/-- What an operation discovers is asked for by the request for its type, once at most. -/
theorem Made.discovery_request (made : Made service limit turn before after) :
    turn.discovery.length ≤ 1 ∧
      ∀ d ∈ turn.discovery, discoveryRequest? turn.type = some d.request := by
  have discovers := made.discovers_eq
  constructor
  · rw [← List.length_map Dispatch.request, discovers]
    split
    · exact Nat.zero_le 1
    · exact Option.length_toList_le
  · intro d sent
    have own : d.request ∈ turn.discovery.map Dispatch.request := List.mem_map_of_mem sent
    rw [discovers] at own
    split at own
    · cases own
    · exact Option.mem_toList.mp own

variable (lasting : ∀ ⦃s s'⦄, between s s' → Recalls s s')

include lasting

theorem History.recalls (history : History service limit between start turns after) :
    Recalls start after := by
  induction history with
  | start => exact .refl _
  | turn _ made ih => exact ih.trans made.recalls
  | aside _ aside ih => exact ih.trans (lasting aside)

/-- An operation of a history knows what was known at the start, and what it knows is known in the
end. -/
theorem History.made_of_mem (history : History service limit between start turns after)
    (mem : turn ∈ turns) :
    ∃ s s', Recalls start s ∧ Made service limit turn s s' ∧ Recalls s' after := by
  induction history with
  | start => cases mem
  | turn earlier made ih =>
    rcases List.mem_append.mp mem with before | last
    · obtain ⟨s, s', known, own, kept⟩ := ih before
      exact ⟨s, s', known, own, kept.trans made.recalls⟩
    · cases List.mem_singleton.mp last
      exact ⟨_, _, earlier.recalls lasting, made, .refl _⟩
  | aside _ aside ih =>
    obtain ⟨s, s', known, own, kept⟩ := ih mem
    exact ⟨s, s', known, own, kept.trans (lasting aside)⟩

/-- Everything but discoveries is sent to the resource that is known in the end. -/
theorem History.demands {r : ApiResource}
    (history : History service limit between start turns after)
    (known : after.resources.lookup t = some r) (mem : turn ∈ turns) (typed : turn.type = t) :
    ∀ d ∈ turn.others, turn.operation.Demands r d.request := by
  subst typed
  obtain ⟨s, s', -, made, kept⟩ := history.made_of_mem lasting mem
  intro d sent
  obtain ⟨own, found, demands⟩ := made.demands d sent
  cases known.symm.trans (kept _ _ found)
  exact demands

/-- A store whose resource of a type is known from the start does not discover it. -/
theorem History.discovery_eq_nil (history : History service limit between start turns after)
    (known : (start.resources.lookup t).isSome = true) :
    ∀ turn ∈ turns, turn.type = t → turn.discovery = [] := by
  rintro turn mem rfl
  obtain ⟨r, own⟩ := Option.isSome_iff_exists.mp known
  obtain ⟨s, s', still, made, -⟩ := history.made_of_mem lasting mem
  have discovers := made.discovers_eq
  rw [still _ _ own, Option.isSome_some, if_pos rfl, List.map_eq_nil_iff] at discovers
  exact discovers

end Keeping

/-! ### Histories of a store that is left alone -/

/-- What the first successful discovery of a type found. -/
def firstFound (decoding : Decoding) (t : TypeIdentifier) (turns : List Turn) :
    Option ApiResource :=
  turns.findSome? fun turn => if turn.type = t then turn.found? decoding else none

/-- What is known of a type after these operations. -/
def State.knownAfter (start : State σ) (decoding : Decoding) (t : TypeIdentifier)
    (turns : List Turn) : Option ApiResource :=
  (start.resources.lookup t).or (firstFound decoding t turns)

/-- The number of operations that discovered a type with success. -/
def discoveries (decoding : Decoding) (t : TypeIdentifier) (turns : List Turn) : Nat :=
  turns.countP fun turn => turn.type = t && (turn.found? decoding).isSome

theorem knownAfter_concat (start : State σ) (decoding : Decoding) (t : TypeIdentifier)
    (turns : List Turn) (turn : Turn) :
    start.knownAfter decoding t (turns ++ [turn]) =
      (start.knownAfter decoding t turns).or
        (if turn.type = t then turn.found? decoding else none) := by
  unfold State.knownAfter firstFound
  rw [List.findSome?_append, Option.or_assoc, List.findSome?_cons, List.findSome?_nil]
  cases if turn.type = t then turn.found? decoding else none <;> rfl

section Histories

variable {service : Service σ} {limit : Nat} {turns : List Turn} {turn : Turn} {t : TypeIdentifier}
  {start before after : State (Recording σ)}

/-- What a store remembers of a type is what the first successful discovery of it found. -/
theorem History.lookup_eq (history : History service limit Aside start turns after)
    (t : TypeIdentifier) : after.resources.lookup t = start.knownAfter service.decoding t turns := by
  induction history with
  | start => simp [State.knownAfter, firstFound]
  | turn _ made ih => rw [made.lookup_eq, ih, knownAfter_concat]
  | aside _ aside ih => rw [aside.resources, ih]

/-- What an operation does after others, by what is known then. -/
structure Follows (decoding : Decoding) (start : State σ) (earlier : List Turn) (turn : Turn) :
    Prop where
  /-- A resource is discovered where it is not known yet, by one request. -/
  discovers : turn.discovery.map Dispatch.request =
    if (start.knownAfter decoding turn.type earlier).isSome then []
    else (discoveryRequest? turn.type).toList
  /-- Everything else is sent to the resource that is known or was found. -/
  demands : ∀ d ∈ turn.others, ∃ r,
    (start.knownAfter decoding turn.type earlier).or (turn.found? decoding) = some r ∧
      turn.operation.Demands r d.request
  /-- Where there is none, nothing else is sent, and the operation fails. -/
  unresolved : start.knownAfter decoding turn.type earlier = none → turn.found? decoding = none →
    turn.others = [] ∧
      ((turn.answer = none ∧ ∃ d ∈ turn.discovery, d.answer = none) ∨
        ∃ e, turn.answer = some (.error (.discovery turn.type e)))

theorem History.follows (history : History service limit Aside start turns before)
    (made : Made service limit turn before after) : Follows service.decoding start turns turn := by
  have lookup := history.lookup_eq turn.type
  have found := made.lookup_eq turn.type
  rw [lookup, if_pos rfl] at found
  constructor
  case discovers =>
    rw [← lookup]
    exact made.discovers_eq
  case demands =>
    rw [← found]
    exact made.demands
  case unresolved =>
    intro unknown unfound
    rw [unknown, unfound] at found
    exact made.unresolved found

/-- A type that is known is not found again. -/
theorem Follows.found?_eq_none {decoding : Decoding} (follows : Follows decoding start turns turn)
    (known : (start.knownAfter decoding turn.type turns).isSome = true) :
    turn.found? decoding = none := by
  have discovers := follows.discovers
  rw [if_pos known, List.map_eq_nil_iff] at discovers
  rw [Turn.found?, discovers]
  rfl

/-- A type is known once it was discovered with success, or where it was known from the start. -/
theorem History.discoveries_eq (history : History service limit Aside start turns after)
    (t : TypeIdentifier) :
    discoveries service.decoding t turns + (start.resources.lookup t).toList.length =
      (start.knownAfter service.decoding t turns).toList.length := by
  induction history with
  | start => simp [discoveries, State.knownAfter, firstFound]
  | @turn turns turn _ _ history made ih =>
    have follows := history.follows made
    rw [knownAfter_concat, discoveries, List.countP_append, List.countP_singleton]
    rw [discoveries] at ih
    by_cases same : turn.type = t
    · subst same
      cases known : start.knownAfter service.decoding turn.type turns with
      | some r =>
        have unfound := follows.found?_eq_none (by rw [known, Option.isSome_some])
        rw [known] at ih
        simpa [unfound] using ih
      | none =>
        rw [known, Option.toList_none, List.length_nil] at ih
        cases turn.found? service.decoding with
        | none => simpa using ih
        | some r =>
          simp only [decide_true, Bool.true_and, Option.isSome_some, if_true, Option.none_or,
            Option.toList_some, List.length_singleton]
          omega
    · simpa [same] using ih
  | aside _ _ ih => exact ih

theorem History.discoveries_le (history : History service limit Aside start turns after)
    (t : TypeIdentifier) : discoveries service.decoding t turns ≤ 1 := by
  have counted := history.discoveries_eq t
  have bounded : (start.knownAfter service.decoding t turns).toList.length ≤ 1 :=
    Option.length_toList_le
  omega

/-- Every operation of a history was made after the ones before it. -/
theorem History.follows_of_split {earlier later : List Turn}
    (history : History service limit Aside start turns after)
    (split : turns = earlier ++ turn :: later) : Follows service.decoding start earlier turn := by
  induction history generalizing later with
  | start => simp at split
  | turn history made ih =>
    rcases List.eq_nil_or_concat later with rfl | ⟨later, last, rfl⟩
    · obtain ⟨rfl, same⟩ := List.append_inj' split rfl
      cases same
      exact history.follows made
    · rw [List.concat_eq_append, ← List.cons_append, ← List.append_assoc] at split
      exact ih (List.append_inj' split rfl).1
  | aside _ _ ih => exact ih split

/-- What a store remembers over a history. -/
structure Remembers (decoding : Decoding) (start : State (Recording σ)) (turns : List Turn)
    (after : State (Recording σ)) : Prop where
  cache : ∀ t, after.resources.lookup t = start.knownAfter decoding t turns
  follows : ∀ earlier turn later, turns = earlier ++ turn :: later →
    Follows decoding start earlier turn
  once : ∀ t, discoveries decoding t turns ≤ 1
  dispatches : after.dispatches = start.dispatches ++ turns.flatMap Turn.sent

theorem History.remembers (history : History service limit Aside start turns after) :
    Remembers service.decoding start turns after where
  cache := history.lookup_eq
  follows _ _ _ split := history.follows_of_split split
  once := history.discoveries_le
  dispatches := history.dispatches_eq fun _ _ => Aside.dispatches

end Histories

/-! ## Sequences of operations -/

/-- The state after operations that are made one after the other. -/
def runAll (service : Service σ) (limit : Nat) (operations : List Operation) (s : State σ) :
    State σ :=
  operations.foldl (fun s operation => ((operation.call service limit).run s).state) s

/-- Every sequence of operations is a history. -/
theorem exists_history (service : Service σ) (limit : Nat) (operations : List Operation)
    (s : State (Recording σ)) :
    ∃ turns, turns.map Turn.operation = operations ∧
      History service limit Aside s turns (runAll service.recorded limit operations s) := by
  induction operations generalizing s with
  | nil => exact ⟨[], rfl, .start⟩
  | cons operation rest ih =>
    obtain ⟨turn, same, made⟩ := operation.exists_made service limit s
    obtain ⟨turns, others, history⟩ := ih ((operation.call service.recorded limit).run s).state
    refine ⟨turn :: turns, ?_, made.history.append history⟩
    rw [List.map_cons, same, others]

/-- An operation answers as it does without a record, and leaves the same state. -/
theorem Operation.mirrors (service : Service σ) (limit : Nat) (operation : Operation) :
    Mirrors (operation.call service.recorded limit) (operation.call service limit) := by
  cases operation with
  | list request => exact mirrors_list service limit request
  | delete t o =>
    exact (mirrors_delete service t o).turned (Option.map (·.map fun _ => ([] : List Object)))

/-! ## Operations of others -/

/-- A call of the store that is not recorded. -/
def unrecorded {α : Type} (call : Call (State σ) α) : Call (State (Recording σ)) α := fun s =>
  (call.run s.forget).mapState fun after => ⟨after.resources, ⟨after.outside, s.dispatches⟩⟩

/-- Others may make operations of the store. -/
theorem Operation.beside (service : Service σ) (limit : Nat) (operation : Operation)
    (s : State (Recording σ)) :
    Beside s ((unrecorded (operation.call service limit)).run s).state := by
  obtain ⟨turn, -, made⟩ := operation.exists_made service limit s
  have same := congrArg (·.state.resources) (operation.mirrors service limit s)
  refine ⟨?_, rfl⟩
  intro t r known
  have kept := made.recalls t r known
  exact (congrArg (List.lookup t) same).trans kept

end Retention.Cluster
