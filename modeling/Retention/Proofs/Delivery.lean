import Mathlib.Data.List.Forall2
import Retention.Proofs.Addresses
import Retention.Proofs.ListingOrder
import Retention.Proofs.Operations

/-!
# Delivery of a list

A store asks for the pages of a list one after the other, each request with the token of the page
before.  `Delivers` says which pages a service gives and how it ends, and `list_delivered` what the
store sends and answers then: nothing is lost, repeated or asked for twice, and where a request
fails, the whole list fails with its error and nothing more is sent.  A pass whose list fails removes
nothing (`Pruner.Halts`).
-/

namespace Retention

namespace Cluster

variable {σ : Type}

/-! ## Requests for pages -/

/-- The named values in the query for a page. -/
def listValues (selector token : Option String) : List (String × String) :=
  (selector.toList.map fun selector => ("labelSelector", selector)) ++
    [("limit", toString ApiResource.pageSize)] ++ token.toList.map fun token => ("continue", token)

/-- A dispatch of the request for the page that a token names.  Its query can be read where nothing
in the path of the resource ends the path. -/
structure Asks (r : ApiResource) (ns selector : Option String) (d : Dispatch)
    (token : Option String) : Prop where
  requested : listRequest? r ns selector token = some d.request
  method : d.request.method = .get
  path : d.request.path.toList = pathPart (r.pathText ns).toList
  query : Unbroken (r.pathText ns) →
    d.request.query.bind Form.read? = some (listValues selector token)
  body : d.request.body = none

theorem asks_of_listRequest? {r : ApiResource} {ns selector token : Option String} {d : Dispatch}
    (requested : listRequest? r ns selector token = some d.request) : Asks r ns selector d token := by
  obtain ⟨request, answer⟩ := d
  obtain ⟨address, written, rfl⟩ := Option.map_eq_some_iff.mp requested
  have text : r.listText ns selector token =
      r.pathText ns ++ "?" ++ formPairs (listValues selector token) := rfl
  rw [text] at written
  constructor
  case requested => exact requested
  case method => rfl
  case path =>
    rw [Address.toList_path written, String.append_assoc, String.toList_append, String.toList_append]
    exact pathPart_query _ _
  case query =>
    intro unbroken
    have query := (Address.of_query unbroken (Form.hash_notMem_formPairs _) written).2
    simp only [query, Option.bind_some, Form.read?_formPairs]
  case body => rfl

/-! ## Delivery -/

/-- How a list ends that is asked for page by page. -/
inductive Ending where
  | complete
  /-- The next request cannot be put together. -/
  | refused
  /-- The next request fails. -/
  | failed (e : Error)
  deriving DecidableEq

namespace Ending

/-- The error that ends a list before its time. -/
def error? : Ending → Option Error
  | complete => none
  | refused => some .unbuildable
  | failed e => some e

/-- The tokens that come with the requests after these pages, from a first one on. -/
def tokens (token : Option String) (written : List Page) : Ending → List (Option String)
  | failed _ => token :: written.map Page.token
  | _ => (token :: written.map Page.token).dropLast

/-- The pages that are asked for, those that do not come included. -/
def attempts (written : List Page) : Ending → Nat
  | complete => written.length
  | _ => written.length + 1

/-- What a store answers. -/
def listed (written : List Page) (ending : Ending) : Except Error (List Object) :=
  match ending.error? with
  | none => .ok (written.flatMap Page.items)
  | some e => .error e

end Ending

/-- What a service answers to a request for a page. -/
def Service.pageOf (service : Service σ) (request : Request) (inner : σ) :
    Option (Except Error Page) :=
  Dispatch.reading ⟨request, ((service request).run inner).answer⟩ service.decoding.readPage

/-- The pages that a service gives, one request after the other, from the one that a token names to
the end of the list. -/
inductive Delivers (service : Service σ) (r : ApiResource) (ns selector : Option String) :
    Option String → σ → List Page → Ending → Prop
  | refused {token : Option String} {inner : σ} :
    listRequest? r ns selector token = none → Delivers service r ns selector token inner [] .refused
  | failed {token : Option String} {inner : σ} {request : Request} {e : Error} :
    listRequest? r ns selector token = some request →
    service.pageOf request inner = some (.error e) →
    Delivers service r ns selector token inner [] (.failed e)
  | last {token : Option String} {inner : σ} {request : Request} {page : Page} :
    listRequest? r ns selector token = some request →
    service.pageOf request inner = some (.ok page) → page.next? = none →
    Delivers service r ns selector token inner [page] .complete
  | next {token : Option String} {inner : σ} {request : Request} {page : Page}
    {following : String} {written : List Page} {ending : Ending} :
    listRequest? r ns selector token = some request →
    service.pageOf request inner = some (.ok page) → page.next? = some following →
    Delivers service r ns selector (some following) ((service request).run inner).state written
      ending →
    Delivers service r ns selector token inner (page :: written) ending

theorem Page.token_of_next? {page : Page} {following : String}
    (next : page.next? = some following) : page.token = some following :=
  (Option.filter_eq_some_iff.mp next).1

theorem Ending.tokens_cons (token : Option String) (page : Page) (written : List Page)
    (ending : Ending) :
    ending.tokens token (page :: written) = token :: ending.tokens page.token written := by
  cases ending <;> rfl

theorem Ending.attempts_cons (page : Page) (written : List Page) (ending : Ending) :
    ending.attempts (page :: written) = ending.attempts written + 1 := by
  cases ending <;> rfl

theorem Ending.listed_cons (page : Page) (written : List Page) (ending : Ending) :
    ending.listed (page :: written) = (ending.listed written).map (page.items ++ ·) := by
  cases ending <;> rfl

section Deliveries

variable (service : Service σ) {r : ApiResource} {ns selector token : Option String}
  (s : State (Recording σ)) {request : Request}

/-- A request for a page is sent, and its answer is read. -/
theorem sends_page (requested : listRequest? r ns selector token = some request) :
    Sends (page service.recorded r ns selector token).toCall s
      (service.pageOf request s.outside.inner) (s.asked service request)
      [s.dispatch service request] := by
  obtain ⟨answer, after, sent, sends, asking⟩ := page_asking service r ns selector token s
  cases asking with
  | refused none =>
    rw [requested] at none
    cases none
  | asked own =>
    rw [requested, Option.some.injEq] at own
    subst own
    exact sends

theorem sends_page_refused (refused : listRequest? r ns selector token = none) :
    Sends (page service.recorded r ns selector token).toCall s (some (.error .unbuildable)) s [] := by
  obtain ⟨answer, after, sent, sends, asking⟩ := page_asking service r ns selector token s
  cases asking with
  | refused _ => exact sends
  | asked own =>
    rw [refused] at own
    cases own

variable {service} {s} {written : List Page} {ending : Ending} {limit : Nat}

/-- The pages that a service gives are asked for one by one, and put together. -/
theorem Delivers.sends_pages {inner : σ}
    (delivers : Delivers service r ns selector token inner written ending)
    (inTime : ending.attempts written ≤ limit) (start : s.outside.inner = inner) :
    ∃ after sent,
      Sends (pages service.recorded r ns selector limit token).toCall s
        (some (ending.listed written)) after sent ∧
      List.Forall₂ (Asks r ns selector) sent (ending.tokens token written) := by
  induction delivers generalizing limit s with
  | refused unbuilt =>
    obtain ⟨limit, rfl⟩ : ∃ less, limit = less + 1 := Nat.exists_eq_add_of_le' inTime
    have refused := sends_page_refused service s unbuilt
    exact ⟨_, _, refused.bind_error, .nil⟩
  | @failed token _ request _ requested answer =>
    obtain ⟨limit, rfl⟩ : ∃ less, limit = less + 1 := Nat.exists_eq_add_of_le' inTime
    have asked := sends_page service s requested
    have asks : Asks r ns selector (s.dispatch service request) token :=
      asks_of_listRequest? requested
    rw [start, answer] at asked
    exact ⟨_, _, asked.bind_error, .cons asks .nil⟩
  | @last token _ request page requested answer ends =>
    obtain ⟨limit, rfl⟩ : ∃ less, limit = less + 1 := Nat.exists_eq_add_of_le' inTime
    have asked := sends_page service s requested
    have asks : Asks r ns selector (s.dispatch service request) token :=
      asks_of_listRequest? requested
    have only : Ending.complete.listed [page] = .ok page.items :=
      congrArg Except.ok (List.flatMap_singleton Page.items page)
    rw [start, answer] at asked
    rw [only]
    have done : Sends (Exchange.done page.items : Exchange (Recording σ) (List Object)).toCall
        (s.asked service request) (some (.ok page.items)) (s.asked service request) [] :=
      .nothing rfl rfl
    refine ⟨s.asked service request, [s.dispatch service request] ++ [], asked.bind_ok ?_,
      .cons asks .nil⟩
    rw [ends]
    exact done
  | @next token _ request page following written ending requested answer goes _ ih =>
    rw [Ending.attempts_cons] at inTime
    obtain ⟨limit, rfl⟩ : ∃ less, limit = less + 1 :=
      Nat.exists_eq_add_of_le' (Nat.le_trans (Nat.le_add_left 1 _) inTime)
    have asked := sends_page service s requested
    have asks : Asks r ns selector (s.dispatch service request) token :=
      asks_of_listRequest? requested
    have later : (s.asked service request).outside.inner =
        ((service request).run s.outside.inner).state := rfl
    rw [start] at later
    obtain ⟨after, sent, others, tokens⟩ := ih (Nat.le_of_succ_le_succ inTime) later
    rw [start, answer] at asked
    rw [Ending.tokens_cons, Ending.listed_cons, Page.token_of_next? goes]
    refine ⟨after, _, asked.bind_ok ?_, .cons asks tokens⟩
    rw [goes]
    exact others.map (page.items ++ ·)

/-- A store lists the objects of all pages, after it has found the resource of their type. -/
theorem Delivers.sends_list {request : ListRequest} {known : State (Recording σ)}
    {discovery : List Dispatch}
    (resolved : Sends (resolve service.recorded request.type).toCall s (some (.ok r)) known discovery)
    (delivers : Delivers service r (r.inScope request.ns) request.selector none known.outside.inner
      written ending)
    (inTime : ending.attempts written ≤ limit) :
    ∃ after sent,
      Sends (list service.recorded limit request) s
        (some ((ending.listed written).mapError .cluster)) after (discovery ++ sent) ∧
      List.Forall₂ (Asks r (r.inScope request.ns) request.selector) sent
        (ending.tokens none written) := by
  obtain ⟨after, sent, sends, asks⟩ := delivers.sends_pages inTime rfl
  have whole : Sends (list service.recorded limit request) s
      ((some (ending.listed written)).map (·.mapError .cluster)) after (discovery ++ sent) := by
    refine Sends.withResource_ok resolved ?_
    exact sends.listed _
  exact ⟨after, sent, whole, asks⟩

end Deliveries

end Cluster

/-! ## Passes whose list fails -/

namespace Pruner

variable {τ : Type}

/-- A pass removes nothing and leaves what the listing left, or what was there before it; where it
gets as far as to list, it stops with this error. -/
structure Halts (p : Pruner τ) (store : Store τ) (scene : Scene τ) (e : StoreError) : Prop where
  removals : removals ((p.prune store).run scene).trace = []
  state : ((p.prune store).run scene).scene.state = scene.state ∨
    ((p.prune store).run scene).scene.state = ((store.list p.request).run scene.state).state
  outcome : p.check = .ok () → scene.token.hasFired = false →
    ((p.prune store).run scene).outcome = .error (.list p.type e)

/-- A choice whose store fails to list stops there, or before. -/
theorem Choice.of_list_error {p : Pruner τ} {store : Store τ} {scene : Scene τ} {e : StoreError}
    {r : Progress τ (List Object)} (choice : p.Choice store scene r)
    (fails : ((store.list p.request).run scene.state).answer = some (.error e)) :
    ∃ stop, r.outcome = .error stop ∧
      (r.scene.state = scene.state ∨
        r.scene.state = ((store.list p.request).run scene.state).state) ∧
      (p.check = .ok () → scene.token.hasFired = false → stop = .list p.type e) := by
  have unanswered {listed : List Object} {middle : Scene τ} {first : List Event}
      (listing : p.Listing store scene ⟨.ok listed, middle, first⟩) : False := by
    cases listing with
    | answered _ called answer =>
      rw [called, answer] at fails
      cases fails
  cases choice with
  | invalid invalid =>
    refine ⟨_, rfl, .inl rfl, fun valid => ?_⟩
    rw [valid] at invalid
    cases invalid
  | unlisted _ listing =>
    cases listing with
    | cancelledBefore fired =>
      refine ⟨_, rfl, .inl rfl, fun _ quiet => ?_⟩
      rw [quiet] at fired
      cases fired
    | givenUp _ called none =>
      rw [called, none] at fails
      cases fails
    | failed _ called failed =>
      rw [called, failed] at fails
      cases fails
      refine ⟨_, rfl, .inr ?_, fun _ _ => rfl⟩
      rw [called]
      rfl
  | unfiltered _ listing _ => exact (unanswered listing).elim
  | selected _ listing _ _ => exact (unanswered listing).elim

/-- A pass whose store fails to list halts. -/
theorem halts_of_list_error (p : Pruner τ) {store : Store τ} {scene : Scene τ} {e : StoreError}
    (fails : ((store.list p.request).run scene.state).answer = some (.error e)) :
    p.Halts store scene e := by
  have course := prune_course (p := p) store scene
  have choice := chosen_choice (p := p) store scene
  obtain ⟨stop, stopped, state, outcome⟩ := choice.of_list_error fails
  generalize passed : (p.prune store).run scene = pass at course
  have unchosen : pass = (p.chosen store).run scene := by
    cases course with
    | unchosen chosen => exact chosen.symm
    | dry _ chosen | stopped _ chosen _ | complete _ chosen _ =>
      rw [chosen] at stopped
      cases stopped
  constructor
  case removals =>
    rw [passed, unchosen]
    exact choice.removals_eq
  case state =>
    rw [passed, unchosen]
    exact state
  case outcome =>
    intro valid quiet
    rw [passed, unchosen, stopped, outcome valid quiet]

end Pruner

namespace Cluster

variable {σ : Type}

/-- A store over a service that delivers a list in pages sends one request for each page, in order and
with the token of the page before, and answers with the objects of all of them; without a record it
answers the same.  Where the delivery ends with an error, the list fails with this error, and a pass
over the store, with or without a record, halts. -/
theorem list_delivered {service : Service σ} {limit : Nat} {request : ListRequest} {r : ApiResource}
    {s known : State (Recording σ)} {discovery : List Dispatch} {written : List Page}
    {ending : Ending}
    (resolved : Sends (resolve service.recorded request.type).toCall s (some (.ok r)) known discovery)
    (delivers : Delivers service r (r.inScope request.ns) request.selector none known.outside.inner
      written ending)
    (inTime : ending.attempts written ≤ limit) :
    ∃ after sent,
      Sends (list service.recorded limit request) s
        (some ((ending.listed written).mapError .cluster)) after (discovery ++ sent) ∧
      List.Forall₂ (Asks r (r.inScope request.ns) request.selector) sent
        (ending.tokens none written) ∧
      ((list service limit request).run s.forget).answer =
        some ((ending.listed written).mapError .cluster) ∧
      ∀ e, ending.error? = some e →
        (∀ (p : Pruner (State (Recording σ))) token, p.request = request →
          p.Halts (store service.recorded limit) ⟨s, token⟩ (.cluster e)) ∧
        ∀ (p : Pruner (State σ)) token, p.request = request →
          p.Halts (store service limit) ⟨s.forget, token⟩ (.cluster e) := by
  obtain ⟨after, sent, sends, asks⟩ := delivers.sends_list resolved inTime
  have plain : ((list service limit request).run s.forget).answer =
      some ((ending.listed written).mapError .cluster) := by
    rw [mirrors_list service limit request s]
    exact sends.answer
  refine ⟨after, sent, sends, asks, plain, fun e stops => ⟨?_, ?_⟩⟩
  · rintro p token rfl
    apply p.halts_of_list_error
    have answer := sends.answer
    simp only [Ending.listed, stops] at answer
    exact answer
  · rintro p token rfl
    apply p.halts_of_list_error
    simp only [Ending.listed, stops] at plain
    exact plain

end Cluster

/-! ## A rehearsed list -/

namespace Rehearsed

open Cluster

/-- A cluster that answers the requests for pods so. -/
def answering (responses : List (Except String Response)) : State (Recording Responder) :=
  ⟨[(.pod, podResource)], ⟨⟨responses, .epoch, []⟩, []⟩⟩

/-- The pods of a namespace with a label. -/
def labelled : ListRequest := ⟨.pod, some "app=web", some "n"⟩

/-- Two pages, of which the second is empty, and both name the next one by the same token. -/
def firstPages : List Page := [⟨[named "a", named "b"], some "1"⟩, ⟨[], some "1"⟩]

def lastPage : Page := ⟨[named "c"], some ""⟩

/-- The request for a page of these pods. -/
def labelledRequest (token : String) : Request :=
  ⟨.get, "/api/v1/namespaces/n/pods", some ("&labelSelector=app%3Dweb&limit=500" ++ token), none⟩

theorem pageOf_givingPage {page : Page} {request : Request} {responder : Responder}
    {rest : List (Except String Response)} (next : responder.responses = givingPage page :: rest)
    (reads : Decoding.json.readPage ⟨200, pageText page⟩ = .ok page) :
    Responder.service.pageOf request responder = some (.ok page) := by
  have answer : ((Responder.service request).run responder).answer =
      some (.ok ⟨200, pageText page⟩) := by
    obtain ⟨responses, now, kept⟩ := responder
    cases next
    rfl
  unfold Service.pageOf
  rw [answer]
  exact congrArg some reads

/-- The list goes on after these two pages as what follows them does. -/
theorem delivers_firstPages {rest : List (Except String Response)} {written : List Page}
    {ending : Ending}
    (later : ∀ kept, Delivers Responder.service podResource (some "n") (some "app=web") (some "1")
      ⟨rest, .epoch, kept⟩ written ending) :
    Delivers Responder.service podResource (some "n") (some "app=web") none
      (answering (firstPages.map givingPage ++ rest)).outside.inner (firstPages ++ written)
      ending := by
  have first : listRequest? podResource (some "n") (some "app=web") none =
      some (labelledRequest "") := by decide +kernel
  have second : listRequest? podResource (some "n") (some "app=web") (some "1") =
      some (labelledRequest "&continue=1") := by decide +kernel
  refine .next first (pageOf_givingPage rfl (by decide +kernel)) rfl ?_
  exact .next second (pageOf_givingPage rfl (by decide +kernel)) rfl (later _)

end Rehearsed

namespace Cluster

open Rehearsed in
theorem list_delivered_rehearsed :
    (∃ after sent,
      Sends (list Responder.service.recorded 3 labelled)
        (answering ((firstPages ++ [lastPage]).map givingPage))
        (some (.ok [named "a", named "b", named "c"])) after sent ∧
      List.Forall₂ (Asks podResource (some "n") (some "app=web")) sent [none, some "1", some "1"]) ∧
    ∀ (p : Pruner (State (Recording Responder))) token, p.request = labelled →
      p.Halts (store Responder.service.recorded 3)
        ⟨answering (firstPages.map givingPage ++ [.error "down"]), token⟩
        (.cluster (.service "down")) := by
  have request : listRequest? podResource (some "n") (some "app=web") (some "1") =
      some (labelledRequest "&continue=1") := by decide +kernel
  constructor
  · have delivers : Delivers Responder.service podResource (podResource.inScope labelled.ns)
        labelled.selector none (answering ((firstPages ++ [lastPage]).map givingPage)).outside.inner
        (firstPages ++ [lastPage]) .complete :=
      delivers_firstPages fun _ => .last request (pageOf_givingPage rfl (by decide +kernel)) rfl
    have resolved : Sends (resolve Responder.service.recorded labelled.type).toCall
        (answering ((firstPages ++ [lastPage]).map givingPage)) (some (.ok podResource)) _ [] :=
      .nothing rfl rfl
    have inTime : Ending.complete.attempts (firstPages ++ [lastPage]) ≤ 3 := Nat.le_refl 3
    obtain ⟨after, sent, sends, asks, -⟩ := list_delivered resolved delivers inTime
    exact ⟨after, sent, sends, asks⟩
  · have delivers : Delivers Responder.service podResource (podResource.inScope labelled.ns)
        labelled.selector none
        (answering (firstPages.map givingPage ++ [.error "down"])).outside.inner (firstPages ++ [])
        (.failed (.service "down")) :=
      delivers_firstPages fun _ => .failed request rfl
    have resolved : Sends (resolve Responder.service.recorded labelled.type).toCall
        (answering (firstPages.map givingPage ++ [.error "down"])) (some (.ok podResource)) _ [] :=
      .nothing rfl rfl
    have inTime : (Ending.failed (.service "down")).attempts (firstPages ++ []) ≤ 3 := Nat.le_refl 3
    obtain ⟨after, sent, -, -, -, halts⟩ := list_delivered resolved delivers inTime
    exact (halts _ rfl).1

end Cluster

end Retention
