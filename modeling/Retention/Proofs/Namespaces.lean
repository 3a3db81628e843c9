import Retention.Proofs.Chronicle
import Retention.Proofs.Delivery
import Retention.Proofs.Survival

/-!
# Where a pass goes

A pass over the store of a cluster lists one place and deletes objects by their keys.  Where the
texts in its paths are parts of paths, a pass in a namespace reaches nothing outside of it, as long as
the cluster lists only objects of this namespace there; and a pass over a resource of the whole
cluster uses the paths of the whole cluster, whatever namespaces are named (`Pruner.confined`).
Nothing is escaped, so a namespace, the name of a resource or its version can also lead elsewhere
(`Pruner.strays_rehearsed`).
-/

namespace Retention

variable {σ : Type}

namespace Cluster

/-! ## Paths of requests -/

section Paths

variable {r : ApiResource} {place : ApiResource.Place} {request : Request}

/-- The path of a request is the one to a place, as far as it goes. -/
def Request.Seeks (r : ApiResource) (place : ApiResource.Place) (request : Request) : Prop :=
  request.path.toList = pathPart (r.pathTo place).toList

/-- The path of a request is the one to a place, and leads to no other. -/
structure Request.Reaches (r : ApiResource) (place : ApiResource.Place) (request : Request) :
    Prop where
  path : request.path = r.pathTo place
  place : r.place? request.path = some place

/-- A request that seeks a place reaches it where all texts are parts of a path. -/
theorem Request.Seeks.reaches (seeks : request.Seeks r place) (plain : r.Plain)
    (segmented : place.Segmented) : request.Reaches r place := by
  have path : request.path = r.pathTo place := by
    rw [Request.Seeks, pathPart_of_unbroken (plain.unbroken_pathTo segmented)] at seeks
    exact String.toList_inj.mp seeks
  refine ⟨path, ?_⟩
  rw [path]
  exact plain.place?_pathTo segmented

theorem seeks_of_listRequest? {ns selector token : Option String}
    (requested : listRequest? r ns selector token = some request) :
    request.method = .get ∧ request.Seeks r ⟨ns, none⟩ := by
  have asks : Asks r ns selector ⟨request, none⟩ token := asks_of_listRequest? requested
  have place : r.pathTo ⟨ns, none⟩ = r.pathText ns := String.append_empty
  refine ⟨asks.method, ?_⟩
  rw [Request.Seeks, place]
  exact asks.path

theorem seeks_of_deletionRequest? {key : ResourceKey}
    (requested : deletionRequest? r key = some request) :
    request.method = .delete ∧ request.Seeks r ⟨r.inScope key.ns, some key.name⟩ := by
  unfold deletionRequest? at requested
  split at requested
  · cases requested
  · obtain ⟨address, written, rfl⟩ := Option.map_eq_some_iff.mp requested
    have text : (r.objectText (r.inScope key.ns) key.name).toList =
        (r.pathTo ⟨r.inScope key.ns, some key.name⟩).toList ++ ['?'] := by
      simp [ApiResource.objectText, ApiResource.pathTo]
    refine ⟨rfl, ?_⟩
    rw [Request.Seeks, Address.toList_path written, text]
    exact pathPart_query _ []

/-- The path to an object of the whole cluster begins as the one to all of them, whatever its name. -/
theorem Request.Seeks.toList_path {name : String} (seeks : request.Seeks r ⟨none, some name⟩)
    (plain : r.Plain) :
    request.path.toList = (r.pathText none).toList ++ '/' :: pathPart name.toList := by
  have own : Unbroken (r.pathText none) := plain.unbroken_pathText nofun
  have base : Unbroken (r.pathText none ++ "/") := own.append (by decide)
  have text : (r.pathTo ⟨none, some name⟩).toList =
      (r.pathText none ++ "/").toList ++ name.toList := by
    simp [ApiResource.pathTo]
  rw [Request.Seeks, text, pathPart_append base] at seeks
  simpa using seeks

/-- A discovered resource whose texts do not end a path is plain: parts of resources, which have a
slash in their names, are left out. -/
theorem plain_of_findResource {decoding : Decoding} {kind : String} {response : Response}
    (found : decoding.findResource kind response = .ok r) (plural : Unbroken r.plural)
    (apiVersion : Unbroken r.apiVersion) : r.Plain := by
  refine ⟨apiVersion, plural, ?_⟩
  unfold Decoding.findResource at found
  cases content : decoding.content response with
  | error _ =>
    rw [content] at found
    cases found
  | ok text =>
    simp only [content, bind, Except.bind] at found
    split at found
    · cases found
    next list _ =>
      split at found
      · cases found
      next own chosen =>
        cases found
        obtain ⟨listed, of_kind, chosen⟩ := Option.bind_eq_some_iff.mp chosen
        obtain ⟨named, -, rest⟩ := Option.bind_eq_some_iff.mp chosen
        cases rest
        have whole := List.find?_some of_kind
        simp only [Bool.and_eq_true, Bool.not_eq_true', ListedResource.isPart] at whole
        simpa using whole.2

end Paths

end Cluster

open Cluster

namespace Pruner

/-- What a cluster lists in a namespace are objects of this namespace, with names that are parts of
paths. -/
def ListsOwn (decoding : Decoding) (r : ApiResource) (ns : String) (sent : List Dispatch) : Prop :=
  ∀ d ∈ sent, d.request.method = .get → d.request.Reaches r ⟨some ns, none⟩ →
    ∀ page, d.reading decoding.readPage = some (.ok page) →
      ∀ o ∈ page.items, o.metadata.ns = some ns ∧ IsSegment o.key.name

end Pruner

section Chronicles

variable {service : Service σ} {limit : Nat}
  {between : State (Recording σ) → State (Recording σ) → Prop} {p : Pruner (State (Recording σ))}
  {turns : List Turn} {before after : State (Recording σ)} {trace : List Event}
  (chronicle : Chronicle service limit between p.request turns before trace after)
  (lasting : ∀ ⦃s s'⦄, between s s' → Recalls s s')

include chronicle

/-- An object that the history of a pass deletes was handed to the store. -/
theorem Chronicle.handed {turn : Turn} (mem : turn ∈ turns) {t : TypeIdentifier} {o : Object}
    (deletes : turn.operation = .delete t o) : o ∈ handedObjects trace := by
  have told : turn.told ∈ operations trace := by
    rw [← chronicle.told]
    exact List.mem_map_of_mem mem
  obtain ⟨event, inTrace, seen⟩ := mem_viewed.mp told
  refine mem_viewed.mpr ⟨event, inTrace, ?_⟩
  rw [Turn.told, deletes] at seen
  cases event with
  | deleted type own answer =>
    have same : Operation.delete type own = .delete t o := congrArg Prod.fst (Option.some.inj seen)
    cases same
    rfl
  | _ => cases seen

include lasting

/-- The objects that a pass was given stood in pages of its history. -/
theorem Chronicle.paged {objects : List Object}
    (listed : listings trace = [(p.request, some (.ok objects))]) :
    ∀ o ∈ objects, ∃ turn ∈ turns, turn.operation = .list p.request ∧ ∃ d ∈ turn.others, ∃ page,
      d.reading service.decoding.readPage = some (.ok page) ∧ o ∈ page.items := by
  have given : (p.request, some (Except.ok objects)) ∈ listings trace := by
    rw [listed]
    exact List.mem_singleton_self _
  obtain ⟨event, inTrace, seen⟩ := mem_viewed.mp given
  have told : (Operation.list p.request, some (Except.ok objects)) ∈ operations trace := by
    refine mem_viewed.mpr ⟨event, inTrace, ?_⟩
    cases event with
    | listed _ _ =>
      cases seen
      rfl
    | _ => cases seen
  rw [← chronicle.told] at told
  obtain ⟨turn, mem, same⟩ := List.mem_map.mp told
  obtain ⟨s, s', -, made, -⟩ := chronicle.history.made_of_mem lasting mem
  have lists : turn.operation = .list p.request := congrArg Prod.fst same
  have ok : turn.answer = some (.ok objects) := congrArg Prod.snd same
  exact fun o inObjects => ⟨turn, mem, lists, made.paged lists ok o inObjects⟩

/-- An operation that lists sends nothing but requests to list. -/
theorem Chronicle.seeks_list {r : ApiResource} (known : after.resources.lookup p.type = some r)
    {turn : Turn} (mem : turn ∈ turns) (lists : turn.operation = .list p.request) {d : Dispatch}
    (other : d ∈ turn.others) :
    d.request.method = .get ∧ d.request.Seeks r ⟨r.inScope p.ns, none⟩ := by
  have typed : turn.type = p.type := (chronicle.serves turn mem).type_eq
  have demands := chronicle.history.demands lasting known mem typed d other
  rw [lists] at demands
  cases demands with
  | list requested => exact seeks_of_listRequest? requested

/-- What survives a pass in a namespace stood in a page of the list of this namespace, so its key is
one of there. -/
theorem Chronicle.own_of_survivor {r : ApiResource}
    (known : after.resources.lookup p.type = some r) (plain : r.Plain)
    (namespaced : r.namespaced = true) {ns : String} (inNamespace : p.ns = some ns)
    (segment : IsSegment ns)
    (own : Pruner.ListsOwn service.decoding r ns (turns.flatMap Turn.sent)) {o : Object}
    (survivor : p.Survivor trace o) : o.key.ns = some ns ∧ IsSegment o.key.name := by
  obtain ⟨⟨objects, listing, l, inObjects, -, -, key⟩, -, -⟩ := survivor
  obtain ⟨turn, mem, lists, d, other, page, reads, inPage⟩ :=
    chronicle.paged lasting listing l inObjects
  obtain ⟨get, seeks⟩ := chronicle.seeks_list lasting known mem lists other
  have scope : r.inScope p.ns = some ns := by
    rw [ApiResource.inScope, if_pos namespaced, inNamespace]
  have sent : d ∈ turns.flatMap Turn.sent :=
    List.mem_flatMap.mpr ⟨turn, mem, List.mem_append_right _ other⟩
  rw [scope] at seeks
  have there := seeks.reaches plain (.inNamespace segment)
  rw [key]
  exact own d sent get there page reads l inPage

/-- What a pass sends discovers the resource of its type, lists what it asks for, or deletes an object
that was handed to the store. -/
theorem Chronicle.request_cases {r : ApiResource}
    (known : after.resources.lookup p.type = some r) {d : Dispatch}
    (sent : d ∈ turns.flatMap Turn.sent) :
    discoveryRequest? p.type = some d.request ∨
      (d.request.method = .get ∧ d.request.Seeks r ⟨r.inScope p.ns, none⟩) ∨
      ∃ o ∈ handedObjects trace, d.request.method = .delete ∧
        d.request.Seeks r ⟨r.inScope o.key.ns, some o.key.name⟩ := by
  obtain ⟨turn, mem, sent⟩ := List.mem_flatMap.mp sent
  have serves := chronicle.serves turn mem
  have typed : turn.type = p.type := serves.type_eq
  rcases List.mem_append.mp sent with discovery | other
  · left
    obtain ⟨_, _, -, made, -⟩ := chronicle.history.made_of_mem lasting mem
    rw [← typed]
    exact made.discovery_request.2 d discovery
  · right
    have demands := chronicle.history.demands lasting known mem typed d other
    generalize made : turn.operation = operation at demands serves
    cases demands with
    | list requested =>
      cases serves
      exact .inl (seeks_of_listRequest? requested)
    | delete requested =>
      exact .inr ⟨_, chronicle.handed mem made, seeks_of_deletionRequest? requested⟩

end Chronicles

/-! ## Where a pass goes -/

namespace Pruner

section Places

variable {τ : Type} (p : Pruner τ) (trace : List Event) (r : ApiResource)

/-- A request that a pass sends to a namespace: it lists the objects there, or deletes one of them
that survived the filter. -/
inductive Confined (ns : String) (request : Request) : Prop
  | list : request.method = .get → request.Reaches r ⟨some ns, none⟩ → Confined ns request
  | delete {o : Object} : p.Survivor trace o → o.key.ns = some ns → request.method = .delete →
    request.Reaches r ⟨some ns, some o.key.name⟩ → Confined ns request

/-- A request that a pass sends to the whole cluster. -/
inductive ClusterWide (request : Request) : Prop
  | list : request.method = .get → request.Reaches r ⟨none, none⟩ → ClusterWide request
  | delete {o : Object} : p.Survivor trace o → request.method = .delete →
    request.path.toList = (r.pathText none).toList ++ '/' :: pathPart o.key.name.toList →
    ClusterWide request

end Places

/-- A pass that selects among its candidates, over a resource whose discovered texts do not end a
path, stays in its namespace with all it sends, where this is part of a path and the cluster lists only
its own objects there.  Over a resource of the whole cluster it uses the paths of the whole cluster.
The code of the user may use the store for whatever it likes. -/
theorem confined {service : Service σ} {limit : Nat} {p : Pruner (State (Recording σ))}
    {scene : Scene (State (Recording σ))} {r : ApiResource} {response : Response}
    (builtIn : p.strategy.isBuiltIn = true) (beside : p.ActsBeside)
    (known : ((p.prune (store service.recorded limit)).run scene).scene.state.resources.lookup
      p.type = some r)
    (found : service.decoding.findResource p.type.kind response = .ok r)
    (plural : Unbroken r.plural) (apiVersion : Unbroken r.apiVersion) :
    ∃ sent, ((p.prune (store service.recorded limit)).run scene).scene.state.dispatches =
        scene.state.dispatches ++ sent ∧
      (∀ ns, r.namespaced = true → p.ns = some ns → IsSegment ns →
        ListsOwn service.decoding r ns sent →
        ∀ d ∈ sent, discoveryRequest? p.type = some d.request ∨
          p.Confined ((p.prune (store service.recorded limit)).run scene).trace r ns d.request) ∧
      (r.namespaced = false → ∀ d ∈ sent, discoveryRequest? p.type = some d.request ∨
        p.ClusterWide ((p.prune (store service.recorded limit)).run scene).trace r d.request) := by
  have course := prune_course (p := p) (store service.recorded limit) scene
  generalize (p.prune (store service.recorded limit)).run scene = pass at course known ⊢
  obtain ⟨turns, chronicle, -⟩ := course.exists_chronicle Beside.interlude beside
  have lasting : ∀ ⦃s s' : State (Recording σ)⦄, Beside s s' → Recalls s s' :=
    fun _ _ => Beside.recalls
  have plain := plain_of_findResource found plural apiVersion
  have selects := Strategy.selectsCandidates_of_builtIn builtIn
  have survives := course.survivor_of_handed selects
  have sends := chronicle.history.dispatches_eq fun _ _ => Beside.dispatches
  refine ⟨turns.flatMap Turn.sent, sends, ?_, ?_⟩
  · intro ns namespaced inNamespace segment own d sent
    have scope (ns : Option String) : r.inScope ns = ns := if_pos namespaced
    rcases chronicle.request_cases lasting known sent with
      discovery | ⟨get, seeks⟩ | ⟨o, handed, delete, seeks⟩
    · exact .inl discovery
    · rw [scope, inNamespace] at seeks
      exact .inr (.list get (seeks.reaches plain (.inNamespace segment)))
    · have survivor := survives o handed
      obtain ⟨there, named⟩ :=
        chronicle.own_of_survivor lasting known plain namespaced inNamespace segment own survivor
      rw [scope, there] at seeks
      exact .inr (.delete survivor there delete (seeks.reaches plain (.object segment named)))
  · intro whole d sent
    have scope (ns : Option String) : r.inScope ns = none := by
      rw [ApiResource.inScope, whole, if_neg Bool.false_ne_true]
    rcases chronicle.request_cases lasting known sent with
      discovery | ⟨get, seeks⟩ | ⟨o, handed, delete, seeks⟩
    · exact .inl discovery
    · rw [scope] at seeks
      exact .inr (.list get (seeks.reaches plain ⟨nofun, nofun⟩))
    · rw [scope] at seeks
      exact .inr (.delete (survives o handed) delete (seeks.toList_path plain))

end Pruner

/-! ## Rehearsed passes -/

namespace Rehearsed

/-- The pages in an answer have only objects of the namespace, with names that are parts of paths. -/
def fits (ns : String) (d : Dispatch) : Bool :=
  match d.reading Decoding.json.readPage with
  | some (.ok page) => page.items.all fun o => o.metadata.ns = some ns ∧ IsSegment o.key.name
  | _ => true

theorem listsOwn_of_fits {r : ApiResource} {ns : String} {sent : List Dispatch}
    (fit : sent.all (fits ns) = true) : Pruner.ListsOwn .json r ns sent := by
  intro d mem _ _ page reads o inPage
  have own := List.all_eq_true.mp fit d mem
  rw [fits, reads] at own
  simpa using List.all_eq_true.mp own o inPage

/-- Lists the objects of another namespace. -/
def glance : Hook (State (Recording Responder)) := fun _ =>
  (unrecorded ((Operation.list ⟨configMap, none, some "other"⟩).call Responder.service 1)).andThen
    fun _ => .answer (.ok ())

/-- A pruner of all objects of a type in a namespace whose hook looks into another one. -/
def glancing : Pruner (State (Recording Responder)) := { clearing "n" with hook := some glance }

theorem actsBeside_glancing : glancing.ActsBeside := by
  have others : (clearing "n").ActsBeside :=
    (leavesStoreAlone_clearing "n").mono fun _ _ => Aside.beside
  refine ⟨others.judge, others.select, ?_⟩
  rintro _ ⟨⟩ _ s
  exact Operation.beside Responder.service 1 _ s

/-- A cluster that lists one object of the namespace and none of the other one, and deletes it. -/
def glancingScene : Scene (State (Recording Responder)) :=
  ⟨fresh [makingKnown configMaps "ConfigMap", givingPage ⟨[inNamespace "n" "a"], none⟩,
    givingPage ⟨[], none⟩, .ok ⟨200, (Json.object []).write⟩], .quiet⟩

abbrev glancingPass : Progress (State (Recording Responder)) (List Object) :=
  (glancing.prune (store Responder.service.recorded 1)).run glancingScene

end Rehearsed

namespace Pruner

open Rehearsed

/-- A namespace that is no part of a path leads into another one, and a discovered name or version
that ends paths away from the object. -/
theorem strays_rehearsed :
    (∀ ns ∈ ["other/configmaps", "other/configmaps?", "other/configmaps#"],
      (clearing ns).check = .ok () ∧
      (clearingPass configMaps ns).scene.state.dispatches.all (fits ns) = true ∧
      ∃ d ∈ (clearingPass configMaps ns).scene.state.dispatches,
        (configMaps.place? d.request.path).map ApiResource.Place.ns = some (some "other")) ∧
    ∀ r ∈ [⟨"", "v1", "configmaps?", true⟩, ⟨"", "v1?", "configmaps", true⟩],
      (clearingPass r "n").scene.state.resources.lookup configMap = some r ∧
      (clearingPass r "n").scene.state.dispatches.all (fits "n") = true ∧
      ∃ d ∈ (clearingPass r "n").scene.state.dispatches, d.request.method = .delete ∧
        d.request.path ≠ r.pathTo ⟨some "n", some "a"⟩ := by
  decide +kernel

theorem confined_rehearsed :
    (glancingPass.scene.state.dispatches.map fun d => (d.request.method, d.request.path)) =
      [(.get, "/api/v1"), (.get, "/api/v1/namespaces/n/configmaps"),
        (.delete, "/api/v1/namespaces/n/configmaps/a")] ∧
    glancingPass.scene.state.outside.inner.requests.map Request.path =
      ["/api/v1", "/api/v1/namespaces/n/configmaps", "/api/v1/namespaces/other/configmaps",
        "/api/v1/namespaces/n/configmaps/a"] ∧
    ∀ d ∈ glancingPass.scene.state.dispatches, discoveryRequest? configMap = some d.request ∨
      glancing.Confined glancingPass.trace configMaps "n" d.request := by
  -- The pass is run once, for all that has to be known of it.
  refine and_assoc.mp ((and_iff_left_of_imp fun _ => ?_).mpr (by decide +kernel))
  have run : glancingPass.scene.state.resources.lookup glancing.type = some configMaps ∧
      glancingPass.scene.state.dispatches.all (fits "n") = true := by decide +kernel
  have found : Responder.service.decoding.findResource glancing.type.kind
      ⟨200, discoveryAnswer configMaps "ConfigMap"⟩ = .ok configMaps := by decide +kernel
  unfold glancingPass at run ⊢
  obtain ⟨known, own⟩ := run
  obtain ⟨sent, dispatches, confined, -⟩ := @confined Responder Responder.service 1 glancing
    glancingScene configMaps ⟨200, discoveryAnswer configMaps "ConfigMap"⟩ rfl actsBeside_glancing
    known found (by decide) (by decide)
  have unused : glancingScene.state.dispatches = [] := rfl
  rw [unused, List.nil_append] at dispatches
  rw [dispatches] at own ⊢
  exact confined "n" rfl rfl (by decide) (listsOwn_of_fits own)

end Pruner

end Retention
