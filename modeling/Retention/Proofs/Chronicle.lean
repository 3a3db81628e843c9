import Retention.Proofs.Continuation
import Retention.Proofs.Discovery
import Retention.Proofs.Pages
import Retention.Proofs.Selection
import Retention.Rehearsal.Responder

/-!
# What a pass asks of a cluster

A pass over the store of a cluster is a history of this store: what stands in the trace are the
operations that the pass made, with their answers (`Chronicle`).  Between them the code of the user
does what it does (`Pruner.ActsWithin`): it may use the store itself (`Pruner.ActsBeside`), or leave it
alone (`Pruner.LeavesStoreAlone`), and then the operations of the pass are all there are.  A pass lists
first, and deletes only once the list has answered, so it discovers the resource of its type at most
once.
-/

namespace Retention

variable {σ : Type}

open Cluster

/-- The operation that an event tells, with its answer. -/
@[simp]
def Event.operation? : Event → Option (Operation × Awaited (List Object))
  | listed request answer => some (.list request, answer)
  | deleted type o answer => some (.delete type o, answer.map (·.map fun _ => []))
  | _ => none

/-- The operations on the store, with their answers. -/
abbrev operations (trace : List Event) : List (Operation × Awaited (List Object)) :=
  viewed Event.operation? trace

@[simp]
theorem operations_noted (log : List LogRecord) : operations (log.map .noted) = [] :=
  viewed_noted (fun _ => rfl) log

namespace Pruner

/-- What the code of the user does is in a relation of the states before and after. -/
structure ActsWithin (p : Pruner (State (Recording σ)))
    (between : State (Recording σ) → State (Recording σ) → Prop) : Prop where
  judge : ∀ o s, between s ((p.registry.judge o).run s).state
  select : ∀ candidates now s, between s ((p.strategy.select candidates now).run s).state
  hook : ∀ hook, p.hook = some hook → ∀ o s, between s ((hook o).run s).state

/-- The code of the user does not use the store.  It may change the cluster. -/
abbrev LeavesStoreAlone (p : Pruner (State (Recording σ))) : Prop := p.ActsWithin Aside

/-- The code of the user may use the store as well as change the cluster.  What it sends is not in the
record. -/
abbrev ActsBeside (p : Pruner (State (Recording σ))) : Prop := p.ActsWithin Beside

theorem ActsWithin.mono {p : Pruner (State (Recording σ))}
    {between wider : State (Recording σ) → State (Recording σ) → Prop}
    (weaker : ∀ ⦃s s'⦄, between s s' → wider s s') (acts : p.ActsWithin between) :
    p.ActsWithin wider :=
  ⟨fun o s => weaker (acts.judge o s), fun candidates now s => weaker (acts.select candidates now s),
    fun hook present o s => weaker (acts.hook hook present o s)⟩

end Pruner

/-- What may be done between operations: nothing, one thing after the other, and nothing that makes
the store forget. -/
structure Cluster.Interlude (between : State (Recording σ) → State (Recording σ) → Prop) :
    Prop where
  refl : ∀ s, between s s
  trans : ∀ ⦃s s' s''⦄, between s s' → between s' s'' → between s s''
  recalls : ∀ ⦃s s'⦄, between s s' → Recalls s s'

theorem Cluster.Aside.interlude :
    Interlude (Aside : State (Recording σ) → State (Recording σ) → Prop) :=
  ⟨.refl, fun _ _ _ => .trans, fun _ _ => Aside.recalls⟩

theorem Cluster.Beside.interlude :
    Interlude (Beside : State (Recording σ) → State (Recording σ) → Prop) :=
  ⟨.refl, fun _ _ _ => .trans, fun _ _ => Beside.recalls⟩

namespace Pruner

/-! ## What the code of the user does in a pass -/

section Interludes

variable {p : Pruner (State (Recording σ))} {scene after : Scene (State (Recording σ))}
  {o : Object} {trace : List Event}
  {between : State (Recording σ) → State (Recording σ) → Prop}

theorem Consideration.within {r : Progress (State (Recording σ)) Bool}
    (consideration : p.Consideration o scene r) (interlude : Interlude between)
    (acts : p.ActsWithin between) : between scene.state r.scene.state := by
  cases consideration with
  | preserved _ => exact interlude.refl _
  | prunable _ called _ | vetoed _ called _ | failed _ called _ _ =>
    subst called
    exact acts.judge o scene.state

theorem Filtering.within {listed : List Object}
    {r : Progress (State (Recording σ)) (List Object)} (filtering : p.Filtering listed scene r)
    (interlude : Interlude between) (acts : p.ActsWithin between) :
    between scene.state r.scene.state := by
  induction filtering with
  | finished => exact interlude.refl _
  | mistyped _ => exact interlude.refl _
  | stopped _ consideration => exact consideration.within interlude acts
  | next _ consideration _ ih => exact interlude.trans (consideration.within interlude acts) ih

theorem Selecting.within {count : Nat} {candidates : List Object}
    {r : Progress (State (Recording σ)) (List Object)}
    (selecting : p.Selecting count candidates scene r) (acts : p.ActsWithin between) :
    between scene.state r.scene.state := by
  cases selecting with
  | failed called _ | answered called _ =>
    subst called
    exact acts.select candidates _ scene.state

theorem HookRun.within {answer : Except String Unit} (run : p.HookRun o scene answer after trace)
    (interlude : Interlude between) (acts : p.ActsWithin between) :
    between scene.state after.state := by
  cases run with
  | absent _ => exact interlude.refl _
  | asked present called =>
    subst called
    exact acts.hook _ present o scene.state

end Interludes

end Pruner

/-! ## Traces as histories -/

/-- The operation of a turn, with its answer. -/
def Cluster.Turn.told (turn : Turn) : Operation × Awaited (List Object) :=
  (turn.operation, turn.answer)

/-- The operation lists what a request says, or deletes an object of its type. -/
def Cluster.Operation.Serves (request : ListRequest) : Operation → Prop
  | list own => own = request
  | delete type _ => type = request.type

/-- A history of the store that consists of the operations in a trace, all for one request.  What is
done between them is in a relation. -/
structure Chronicle (service : Service σ) (limit : Nat)
    (between : State (Recording σ) → State (Recording σ) → Prop) (request : ListRequest)
    (turns : List Turn) (before : State (Recording σ)) (trace : List Event)
    (after : State (Recording σ)) : Prop where
  history : History service limit between before turns after
  told : turns.map Turn.told = operations trace
  serves : ∀ turn ∈ turns, turn.operation.Serves request

section Chronicles

variable {service : Service σ} {limit : Nat}
  {between : State (Recording σ) → State (Recording σ) → Prop} {request : ListRequest}
  {turns more : List Turn} {before middle after : State (Recording σ)}
  {first second trace : List Event}

theorem Cluster.Operation.Serves.type_eq {operation : Operation}
    (serves : operation.Serves request) : operation.type = request.type := by
  cases operation with
  | list _ => exact congrArg ListRequest.type serves
  | delete _ _ => exact serves

theorem Chronicle.append
    (earlier : Chronicle service limit between request turns before first middle)
    (later : Chronicle service limit between request more middle second after) :
    Chronicle service limit between request (turns ++ more) before (first ++ second) after where
  history := earlier.history.append later.history
  told := by
    rw [List.map_append, earlier.told, later.told]
    exact (viewed_append first second).symm
  serves turn mem := (List.mem_append.mp mem).elim (earlier.serves turn) (later.serves turn)

/-- What the code of the user does is no part of the history. -/
theorem Chronicle.of_aside (aside : between before after) (untold : operations trace = []) :
    Chronicle service limit between request [] before trace after where
  history := .aside .start aside
  told := untold.symm
  serves := List.forall_mem_nil _

theorem Chronicle.idle (untold : operations trace = []) :
    Chronicle service limit between request [] before trace before where
  history := .start
  told := untold.symm
  serves := List.forall_mem_nil _

theorem Chronicle.aside
    (chronicle : Chronicle service limit between request turns before first middle)
    (aside : between middle after) (untold : operations second = []) :
    Chronicle service limit between request turns before (first ++ second) after := by
  have whole := chronicle.append (.of_aside aside untold)
  rw [List.append_nil] at whole
  exact whole

theorem Chronicle.told_later
    (chronicle : Chronicle service limit between request turns before first after)
    (untold : operations second = []) :
    Chronicle service limit between request turns before (first ++ second) after := by
  have whole := chronicle.append (.idle untold)
  rw [List.append_nil] at whole
  exact whole

theorem Chronicle.discovery_length_le
    (chronicle : Chronicle service limit between request turns before trace after)
    (lasting : ∀ ⦃s s'⦄, between s s' → Recalls s s') (few : turns.length ≤ 1) :
    (turns.flatMap Turn.discovery).length ≤ 1 := by
  cases turns with
  | nil => exact Nat.zero_le 1
  | cons turn rest =>
    have only : rest = [] := List.length_eq_zero_iff.mp (Nat.le_zero.mp (Nat.le_of_succ_le_succ few))
    rw [only, List.flatMap_singleton]
    obtain ⟨_, _, -, made, -⟩ := chronicle.history.made_of_mem lasting List.mem_cons_self
    exact made.discovery_request.1

/-- Where the resource is known, nothing is sent to discover it. -/
theorem Chronicle.discovery_eq_nil
    (chronicle : Chronicle service limit between request turns before trace after)
    (lasting : ∀ ⦃s s'⦄, between s s' → Recalls s s')
    (known : (before.resources.lookup request.type).isSome = true) :
    turns.flatMap Turn.discovery = [] := by
  rw [List.flatMap_eq_nil_iff]
  intro turn mem
  exact chronicle.history.discovery_eq_nil lasting known turn mem (chronicle.serves turn mem).type_eq

/-- The operation that a trace tells is the only one of its history. -/
theorem Chronicle.of_made {turn : Turn} {operation : Operation} {answer : Awaited (List Object)}
    (made : Made service limit turn before after) (told : turn.told = (operation, answer))
    (serves : operation.Serves request) (seen : operations trace = [(operation, answer)]) :
    Chronicle service limit between request [turn] before trace after where
  history := made.history
  told := by rw [List.map_singleton, told, seen]
  serves := by
    have same : turn.operation = operation := congrArg Prod.fst told
    rw [List.forall_mem_singleton, same]
    exact serves

end Chronicles

namespace Pruner

section Parts

variable {service : Service σ} {limit : Nat}
  {between : State (Recording σ) → State (Recording σ) → Prop} {p : Pruner (State (Recording σ))}
  {scene after : Scene (State (Recording σ))} {o : Object} {trace : List Event}

/-- A call that lists is an operation of the store. -/
theorem exists_made_list {request : ListRequest} {s : State (Recording σ)}
    {reply : Reply (State (Recording σ)) (Awaited (List Object))}
    (called : ((Cluster.store service.recorded limit).list request).run s = reply) :
    ∃ turn, Made service limit turn s reply.state ∧ turn.told = (.list request, reply.answer) := by
  obtain ⟨turn, same, made⟩ := (Operation.list request).exists_made service limit s
  have run : ((Operation.list request).call service.recorded limit).run s = reply := called
  have answer := made.sends.answer
  rw [same, run] at answer
  rw [run] at made
  refine ⟨turn, made, ?_⟩
  rw [Turn.told, same, answer]

/-- A call that deletes is one, too. -/
theorem exists_made_delete {t : TypeIdentifier} {s : State (Recording σ)}
    {reply : Reply (State (Recording σ)) (Awaited Unit)}
    (called : ((Cluster.store service.recorded limit).delete t o).run s = reply) :
    ∃ turn, Made service limit turn s reply.state ∧
      turn.told = (.delete t o, reply.answer.map (·.map fun _ => [])) := by
  subst called
  obtain ⟨turn, same, made⟩ := (Operation.delete t o).exists_made service limit s
  have answer := made.sends.answer
  rw [same] at answer
  refine ⟨turn, made, ?_⟩
  rw [Turn.told, same, ← answer]
  rfl

/-- To list is one operation at most, and what it answers with is known afterwards. -/
theorem Listing.exists_chronicle {r : Progress (State (Recording σ)) (List Object)}
    (listing : p.Listing (Cluster.store service.recorded limit) scene r) :
    ∃ turns, Chronicle service limit between p.request turns scene.state r.trace r.scene.state ∧
      turns.length ≤ 1 ∧
      ∀ objects, r.outcome = .ok objects → (r.scene.state.resources.lookup p.type).isSome = true := by
  cases listing with
  | cancelledBefore _ => exact ⟨[], .idle rfl, Nat.zero_le 1, nofun⟩
  | givenUp _ called answer =>
    obtain ⟨turn, made, told⟩ := exists_made_list called
    rw [answer] at told
    exact ⟨[turn], .of_made made told rfl (by simp), Nat.le_refl 1, nofun⟩
  | failed _ called answer =>
    obtain ⟨turn, made, told⟩ := exists_made_list called
    rw [answer] at told
    exact ⟨[turn], .of_made made told rfl (by simp), Nat.le_refl 1, nofun⟩
  | @answered objects _ _ called answer =>
    obtain ⟨turn, made, told⟩ := exists_made_list called
    rw [answer] at told
    refine ⟨[turn], .of_made made told rfl (by simp), Nat.le_refl 1, fun _ _ => ?_⟩
    have known := made.isSome_of_ok (congrArg Prod.snd told)
    have typed : turn.type = p.type := congrArg (·.1.type) told
    rw [typed] at known
    exact known

theorem HookRun.operations_eq {answer : Except String Unit}
    (run : p.HookRun o scene answer after trace) : operations trace = [] := by
  cases run with
  | absent _ => rfl
  | asked _ _ => simp

/-- A deletion is one operation, or none where it is not asked for. -/
theorem Attempt.exists_chronicle {deleted : List ResourceKey}
    {r : Progress (State (Recording σ)) Unit}
    (attempt : p.Attempt (Cluster.store service.recorded limit) o deleted scene r)
    (interlude : Interlude between) (acts : p.ActsWithin between) :
    ∃ turns, Chronicle service limit between p.request turns scene.state r.trace r.scene.state := by
  have hooked {answer : Except String Unit} {after : Scene (State (Recording σ))}
      {trace : List Event} (run : p.HookRun o scene.looked answer after trace) (notice : Notice) :
      Chronicle service limit between p.request [] scene.state (trace ++ [.reported notice])
        after.state :=
    .of_aside (run.within interlude acts) (by simp [run.operations_eq])
  have deleted {after : Scene (State (Recording σ))} {trace : List Event}
      {reply : Reply (State (Recording σ)) (Awaited Unit)} {answer : Awaited Unit}
      (run : p.HookRun o scene.looked (.ok ()) after trace)
      (called : ((Cluster.store service.recorded limit).delete p.type o).run after.state = reply)
      (answered : reply.answer = answer) (notice : Notice) :
      ∃ turns, Chronicle service limit between p.request turns scene.state
        (trace ++ .deleted p.type o answer :: reply.log.map .noted ++ [.reported notice])
        reply.state := by
    obtain ⟨turn, made, told⟩ := exists_made_delete called
    rw [answered] at told
    have first : Chronicle service limit between p.request [] scene.state trace after.state :=
      .of_aside (run.within interlude acts) run.operations_eq
    have second : Chronicle service limit between p.request [turn] after.state
        (.deleted p.type o answer :: reply.log.map .noted ++ [.reported notice]) reply.state :=
      .of_made made told rfl (by simp)
    refine ⟨[] ++ [turn], ?_⟩
    rw [List.append_assoc]
    exact first.append second
  cases attempt with
  | cancelledBefore _ => exact ⟨[], .idle rfl⟩
  | refused _ hook => exact ⟨[], hooked hook _⟩
  | cancelledAfterHook _ hook _ => exact ⟨[], hooked hook _⟩
  | givenUp _ hook _ called answer => exact deleted hook called answer _
  | failed _ hook _ called answer => exact deleted hook called answer _
  | gone _ hook _ called answer => exact deleted hook called answer _

/-- To remove a selection is one operation after the other. -/
theorem Removal.exists_chronicle {selection : List Object} {deleted : List ResourceKey}
    {r : Progress (State (Recording σ)) Unit}
    (removal : p.Removal (Cluster.store service.recorded limit) selection deleted scene r)
    (interlude : Interlude between) (acts : p.ActsWithin between) :
    ∃ turns, Chronicle service limit between p.request turns scene.state r.trace r.scene.state := by
  induction removal with
  | finished => exact ⟨[], .idle rfl⟩
  | stopped attempt => exact attempt.exists_chronicle interlude acts
  | next attempt _ ih =>
    obtain ⟨turns, first⟩ := attempt.exists_chronicle interlude acts
    obtain ⟨more, later⟩ := ih
    exact ⟨turns ++ more, first.append later⟩

/-- A choice lists, and does nothing else with the store. -/
theorem Choice.exists_chronicle {r : Progress (State (Recording σ)) (List Object)}
    (choice : p.Choice (Cluster.store service.recorded limit) scene r)
    (interlude : Interlude between) (acts : p.ActsWithin between) :
    ∃ turns, Chronicle service limit between p.request turns scene.state r.trace r.scene.state ∧
      turns.length ≤ 1 ∧ ∀ selection, r.outcome = .ok selection →
        (r.scene.state.resources.lookup p.type).isSome = true := by
  have started : Chronicle service limit between p.request [] scene.state [p.startedEvent]
      scene.state := .idle rfl
  cases choice with
  | invalid _ => exact ⟨[], .idle rfl, Nat.zero_le 1, nofun⟩
  | unlisted _ listing =>
    obtain ⟨turns, chronicle, count, -⟩ := listing.exists_chronicle
    exact ⟨turns, started.append chronicle, count, nofun⟩
  | unfiltered _ listing filtering =>
    obtain ⟨turns, chronicle, count, -⟩ := listing.exists_chronicle
    have filtered := filtering.within interlude acts
    have untold : operations _ = [] := filtering.unseen (fun _ => rfl) (fun _ => rfl) fun _ _ => rfl
    exact ⟨turns, (started.append chronicle).aside filtered untold, count, nofun⟩
  | @selected listed _ middle _ _ _ _ _ listing filtering selecting =>
    obtain ⟨turns, chronicle, count, known⟩ := listing.exists_chronicle
    have filtered := filtering.within interlude acts
    have chosen := selecting.within acts
    have unfiltered : operations _ = [] :=
      filtering.unseen (fun _ => rfl) (fun _ => rfl) fun _ _ => rfl
    have unselected : operations _ = [] :=
      selecting.unseen (fun _ => rfl) (fun _ => rfl) fun _ _ => rfl
    refine ⟨turns, ?_, count, fun _ _ => ?_⟩
    · exact ((started.append chronicle).aside filtered unfiltered).aside chosen unselected
    · obtain ⟨resource, found⟩ := Option.isSome_iff_exists.mp (known listed rfl)
      have kept := interlude.recalls (interlude.trans filtered chosen)
      exact Option.isSome_iff_exists.mpr ⟨resource, kept _ _ found⟩

/-- A pass over the store of a cluster is a history of operations on one type, those in its trace, and
discovers this type at most once. -/
theorem Course.exists_chronicle {r : Progress (State (Recording σ)) (List Object)}
    (course : p.Course (Cluster.store service.recorded limit) scene r)
    (interlude : Interlude between) (acts : p.ActsWithin between) :
    ∃ turns, Chronicle service limit between p.request turns scene.state r.trace r.scene.state ∧
      (turns.flatMap Turn.discovery).length ≤ 1 := by
  cases course with
  | unchosen chosen =>
    obtain ⟨turns, chronicle, count, -⟩ := (choice_of_run chosen).exists_chronicle interlude acts
    exact ⟨turns, chronicle, chronicle.discovery_length_le interlude.recalls count⟩
  | @dry selection _ _ _ chosen =>
    obtain ⟨turns, chronicle, count, -⟩ := (choice_of_run chosen).exists_chronicle interlude acts
    have untold : operations (p.dryReports selection) = [] :=
      viewed_dryReports p (fun _ => rfl) selection
    exact ⟨turns, chronicle.told_later untold, chronicle.discovery_length_le interlude.recalls count⟩
  | @stopped selection _ _ _ _ _ _ chosen removal =>
    obtain ⟨turns, chronicle, count, known⟩ := (choice_of_run chosen).exists_chronicle interlude acts
    obtain ⟨more, later⟩ := removal.exists_chronicle interlude acts
    refine ⟨turns ++ more, chronicle.append later, ?_⟩
    have unsent := later.discovery_eq_nil interlude.recalls (known selection rfl)
    rw [List.flatMap_append, unsent, List.append_nil]
    exact chronicle.discovery_length_le interlude.recalls count
  | @complete selection _ _ _ _ _ chosen removal =>
    obtain ⟨turns, chronicle, count, known⟩ := (choice_of_run chosen).exists_chronicle interlude acts
    obtain ⟨more, later⟩ := removal.exists_chronicle interlude acts
    refine ⟨turns ++ more, (chronicle.append later).told_later rfl, ?_⟩
    have unsent := later.discovery_eq_nil interlude.recalls (known selection rfl)
    rw [List.flatMap_append, unsent, List.append_nil]
    exact chronicle.discovery_length_le interlude.recalls count

end Parts

/-- A pruner whose strategy and predicates are built in, and that has no hook, uses the store for
nothing but its own operations. -/
theorem leavesStoreAlone_ofStrategy {strategy : Strategy (State (Recording σ))}
    (builtIn : strategy.isBuiltIn = true) (clock : State (Recording σ) → Instant) :
    (ofStrategy strategy clock).LeavesStoreAlone := by
  have typed {α : Type} {target : String} {decode : Json → Option α} {verdict : α → Verdict}
      (o : Object) (s : State (Recording σ)) :
      ((Registry.typed target decode (fun a => .answer (verdict a)) o).run s).state = s := by
    unfold Registry.typed
    split <;> rfl
  constructor
  case judge =>
    intro o s
    have same : ((Registry.builtIn.judge o).run s).state = s := by
      unfold Registry.judge
      split
      · rfl
      next t _ =>
        split
        next predicate found =>
          have builtIn : predicate = Registry.podPredicate ∨ predicate = Registry.jobPredicate := by
            have entries : (Registry.builtIn : Registry (State (Recording σ))).entries =
                [(.job, Registry.jobPredicate), (.pod, Registry.podPredicate)] := rfl
            rw [Registry.find?, entries, List.lookup_cons, List.lookup_cons, List.lookup_nil] at found
            split at found
            · exact .inr (Option.some.inj found).symm
            · split at found
              · exact .inl (Option.some.inj found).symm
              · cases found
          rcases builtIn with rfl | rfl
          · exact typed o s
          · exact typed o s
        · rfl
    exact ⟨congrArg State.resources same, congrArg State.dispatches same⟩
  case select =>
    intro candidates now s
    have same : ((strategy.select candidates now).run s).state = s := by
      rw [Strategy.run_select builtIn]
    exact ⟨congrArg State.resources same, congrArg State.dispatches same⟩
  case hook => nofun

end Pruner

namespace Cluster

/-- Operations on one store, whatever the service answers, are a history, with a record as without.
Over a history the store remembers of each type what the first successful discovery found, discovers
what it does not know before it sends anything else, and nothing more than once with success; an
operation touches no type but its own.  A pass is a history in which its type is discovered by one
request at most. -/
theorem discovered_once (service : Service σ) (limit : Nat) :
    (∀ operations s, ∃ turns, turns.map Turn.operation = operations ∧
      History service limit Aside s turns (runAll service.recorded limit operations s)) ∧
    (∀ operation : Operation,
      Mirrors (operation.call service.recorded limit) (operation.call service limit)) ∧
    (∀ start turns after, History service limit Aside start turns after →
      Remembers service.decoding start turns after) ∧
    (∀ turn before after, Made service limit turn before after → ∀ t, t ≠ turn.type →
      after.resources.lookup t = before.resources.lookup t) ∧
    ∀ (p : Pruner (State (Recording σ))) scene, p.LeavesStoreAlone → ∃ turns,
      Chronicle service limit Aside p.request turns scene.state
        ((p.prune (store service.recorded limit)).run scene).trace
        ((p.prune (store service.recorded limit)).run scene).scene.state ∧
      (turns.flatMap Turn.discovery).length ≤ 1 := by
  refine ⟨exists_history service limit, Operation.mirrors service limit, ?_, ?_, ?_⟩
  · exact fun _ _ _ history => history.remembers
  · intro turn before after made t other
    rw [made.lookup_eq, if_neg (Ne.symm other), Option.or_none]
  · exact fun p scene alone =>
      (Pruner.prune_course (p := p) _ scene).exists_chronicle Aside.interlude alone

end Cluster

/-! ## A rehearsed store -/

namespace Rehearsed

open Cluster

/-- The text that makes a resource known. -/
def discoveryAnswer (r : ApiResource) (kind : String) : String :=
  (Json.object [("groupVersion", .string r.apiVersion),
    ("resources", .array [.object [("name", .string r.plural), ("kind", .string kind),
      ("namespaced", .bool r.namespaced)]])]).write

/-- The answer that makes a resource known. -/
def makingKnown (r : ApiResource) (kind : String) : Except String Response :=
  .ok ⟨200, discoveryAnswer r kind⟩

/-- A store that knows nothing, over a service that answers so. -/
def fresh (responses : List (Except String Response)) : State (Recording Responder) :=
  ⟨[], ⟨⟨responses, .epoch, []⟩, []⟩⟩

/-- Discovery fails at first, then pods are listed, and one is deleted. -/
def hesitant : State (Recording Responder) :=
  fresh [.error "down", makingKnown ⟨"", "v1", "pods", true⟩ "Pod",
    .ok ⟨200, (Json.object [("items", .array [])]).write⟩, .ok ⟨200, (Json.object []).write⟩]

def threeOperations : List Operation :=
  [.list ⟨.pod, none, none⟩, .list ⟨.pod, none, none⟩,
    .delete .pod ⟨none, { Metadata.blank with name := some "a", ns := some "n" }, .object []⟩]

def configMap : TypeIdentifier := ⟨"", "v1", "ConfigMap"⟩

def configMaps : ApiResource := ⟨"", "v1", "configmaps", true⟩

/-- A pruner of all objects of a type in a namespace. -/
def clearing (ns : String) : Pruner (State (Recording Responder)) :=
  { Pruner.ofStrategy (.maxCount 0) (fun _ => .epoch) with type := configMap, ns := some ns }

theorem leavesStoreAlone_clearing (ns : String) : (clearing ns).LeavesStoreAlone := by
  have alone : (Pruner.ofStrategy (.maxCount 0) fun _ => .epoch :
      Pruner (State (Recording Responder))).LeavesStoreAlone :=
    Pruner.leavesStoreAlone_ofStrategy rfl _
  exact ⟨alone.judge, alone.select, alone.hook⟩

/-- An object of a namespace. -/
def inNamespace (ns name : String) : Object :=
  ⟨none, { Metadata.blank with name := some name, ns := some ns }, .object []⟩

/-- A cluster that makes this resource known, lists one object of the namespace, and deletes it. -/
def clearingScene (r : ApiResource) (ns : String) : Scene (State (Recording Responder)) :=
  ⟨fresh [makingKnown r "ConfigMap", givingPage ⟨[inNamespace ns "a"], none⟩,
    .ok ⟨200, (Json.object []).write⟩], .quiet⟩

abbrev clearingPass (r : ApiResource) (ns : String) :
    Progress (State (Recording Responder)) (List Object) :=
  ((clearing ns).prune (store Responder.service.recorded 1)).run (clearingScene r ns)

end Rehearsed

namespace Cluster

open Rehearsed in
theorem discovered_once_rehearsed :
    (∃ turns, turns.map Turn.operation = threeOperations ∧
      Remembers Responder.service.decoding hesitant turns
        (runAll Responder.service.recorded 1 threeOperations hesitant)) ∧
    (runAll Responder.service.recorded 1 threeOperations hesitant).dispatches.map
        (fun d => (d.request.method, d.request.path)) =
      [(.get, "/api/v1"), (.get, "/api/v1"), (.get, "/api/v1/pods"),
        (.delete, "/api/v1/namespaces/n/pods/a")] ∧
    (∃ turns, Chronicle Responder.service 1 Aside (clearing "n").request turns
        (clearingScene configMaps "n").state (clearingPass configMaps "n").trace
        (clearingPass configMaps "n").scene.state ∧
      (turns.flatMap Turn.discovery).length ≤ 1) ∧
    (clearingPass configMaps "n").scene.state.dispatches.map
        (fun d => (d.request.method, d.request.path)) =
      [(.get, "/api/v1"), (.get, "/api/v1/namespaces/n/configmaps"),
        (.delete, "/api/v1/namespaces/n/configmaps/a")] := by
  obtain ⟨run, -, remembers, -, pass⟩ := discovered_once Responder.service 1
  obtain ⟨turns, same, history⟩ := run threeOperations hesitant
  refine ⟨⟨turns, same, remembers _ _ _ history⟩, ?_, ?_, ?_⟩
  · decide +kernel
  · unfold clearingPass
    exact pass (clearing "n") (clearingScene configMaps "n") (leavesStoreAlone_clearing "n")
  · decide +kernel

end Cluster

end Retention
