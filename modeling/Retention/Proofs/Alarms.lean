import Retention.Proofs.Minutes
import Retention.Proofs.Operations
import Retention.Proofs.Selection
import Retention.Rehearsal.Responder

/-!
# Alarms

A warning or an error in the log is an alarm: it calls for somebody to look.  A pass that ends well
raises none, and one that stops raises one, which announces the error, with one exception: a pass
that stops at an object of another type just ends.  `Alerts` says so of a pass.

The other records of a log are written by the code that a pass calls.  What this library has of such
code raises no alarm of its own, so the log of a pass has no alarms but those of the pass, unless
the predicates, the strategy, the hook or the service of the user raise some.
-/

namespace Retention

variable {σ α β : Type}

/-! ## Alarms in a log -/

/-- Whether a record is a warning or an error. -/
def LogRecord.isAlarm (record : LogRecord) : Bool :=
  record.level = .warn || record.level = .error

abbrev alarms (log : List LogRecord) : List LogRecord := log.filter LogRecord.isAlarm

theorem alarms_append (earlier later : List LogRecord) :
    alarms (earlier ++ later) = alarms earlier ++ alarms later :=
  List.filter_append earlier later

/-- The part of a log that a pass wrote itself. -/
def ownLog (trace : List Event) : List LogRecord := (notices trace).map Notice.record

theorem logOf_append (earlier later : List Event) :
    logOf (earlier ++ later) = logOf earlier ++ logOf later :=
  List.filterMap_append

theorem ownLog_append (earlier later : List Event) :
    ownLog (earlier ++ later) = ownLog earlier ++ ownLog later := by
  simp only [ownLog, viewed_append, List.map_append]

theorem Announces.isAlarm {type : TypeIdentifier} {e : PruneError} {alarm : Notice}
    (announces : Announces type e alarm) : alarm.record.isAlarm = true := by
  cases announces <;> rfl

/-- Nothing announces an object of another type. -/
theorem Announces.ne_convert {type : TypeIdentifier} {e : PruneError} {alarm : Notice}
    (announces : Announces type e alarm) (resource : ResourceKey) (expected : TypeIdentifier)
    (reported : TypeMeta) : e ≠ .convert resource expected reported := by
  rintro rfl
  cases announces

theorem alarms_of_calm {ns : List Notice} (calm : ∀ n ∈ ns, n.record.isAlarm = false) :
    alarms (ns.map Notice.record) = [] := by
  rw [List.filter_eq_nil_iff]
  intro record mem alarm
  obtain ⟨n, own, rfl⟩ := List.mem_map.mp mem
  rw [calm n own] at alarm
  cases alarm

theorem alarms_of_calm_append {ns : List Notice} {alarm : Notice}
    (calm : ∀ n ∈ ns, n.record.isAlarm = false) (loud : alarm.record.isAlarm = true) :
    alarms ((ns ++ [alarm]).map Notice.record) = [alarm.record] := by
  rw [List.map_append, alarms_append, alarms_of_calm calm]
  simp [loud]

theorem isAlarm_of_isSkip {n : Notice} (skip : n.isSkip = true) : n.record.isAlarm = false := by
  cases n with
  | skippedPreserved _ | skippedUnprunable _ _ => rfl
  | _ => cases skip

namespace Pruner

variable {p : Pruner σ}

section Minutes

variable {gone : List ResourceKey} {ns skips rest : List Notice} {candidates : Nat}
  {selection : List Object} {e : PruneError}

theorem calm_start (skipped : ∀ n ∈ skips, n.isSkip = true) :
    ∀ n ∈ p.startNotice :: skips, n.record.isAlarm = false :=
  List.forall_mem_cons.mpr ⟨rfl, fun n mem => isAlarm_of_isSkip (skipped n mem)⟩

theorem calm_selected (skipped : ∀ n ∈ skips, n.isSkip = true)
    (calm : ∀ n ∈ rest, n.record.isAlarm = false) :
    ∀ n ∈ p.startNotice :: skips ++ p.selectionNotice skips candidates selection :: rest,
      n.record.isAlarm = false :=
  List.forall_mem_append.mpr ⟨calm_start skipped, List.forall_mem_cons.mpr ⟨rfl, calm⟩⟩

theorem calm_deleted (gone : List ResourceKey) :
    ∀ n ∈ gone.map Notice.deleted, n.record.isAlarm = false :=
  List.forall_mem_map.mpr fun _ _ => rfl

theorem Minutes.alarms_of_ok (minutes : p.Minutes (.ok selection) gone ns) :
    alarms (ns.map Notice.record) = [] := by
  apply alarms_of_calm
  cases minutes with
  | dry _ skipped =>
    have would : ∀ n ∈ selection.map (Notice.wouldDelete ·.key), n.record.isAlarm = false :=
      List.forall_mem_map.mpr fun _ _ => rfl
    exact List.forall_mem_append.mpr
      ⟨calm_selected skipped would, List.forall_mem_singleton.mpr rfl⟩
  | complete _ skipped _ =>
    exact List.forall_mem_append.mpr
      ⟨calm_selected skipped (calm_deleted gone), List.forall_mem_singleton.mpr rfl⟩

theorem Minutes.alarms_of_convert {resource : ResourceKey} {expected : TypeIdentifier}
    {reported : TypeMeta}
    (minutes : p.Minutes (.error (.convert resource expected reported)) gone ns) :
    alarms (ns.map Notice.record) = [] := by
  cases minutes with
  | mistyped skipped => exact alarms_of_calm (calm_start skipped)
  | unchosen _ announces => exact (announces.ne_convert _ _ _ rfl).elim
  | stopped _ _ announces => exact (announces.ne_convert _ _ _ rfl).elim

/-- A pass that starts and stops announces the error, unless an object reports another type. -/
theorem Minutes.alarms_of_error (minutes : p.Minutes (.error e) gone ns)
    (started : p.startNotice ∈ ns)
    (typed : ∀ resource expected reported, e ≠ .convert resource expected reported) :
    ∃ alarm, Announces p.type e alarm ∧ alarms (ns.map Notice.record) = [alarm.record] := by
  cases minutes with
  | invalid => cases started
  | mistyped _ => exact (typed _ _ _ rfl).elim
  | @unchosen _ _ alarm skipped announces =>
    exact ⟨alarm, announces, alarms_of_calm_append (calm_start skipped) announces.isAlarm⟩
  | @stopped _ _ _ _ _ alarm _ skipped announces =>
    refine ⟨alarm, announces, alarms_of_calm_append ?_ announces.isAlarm⟩
    exact calm_selected skipped (calm_deleted gone)

end Minutes

end Pruner

/-! ## Hushed code -/

/-- A call that raises no alarm in the log, whatever the state. -/
def Call.Hushed (call : Call σ α) : Prop :=
  ∀ s, alarms (call.run s).log = []

namespace Call.Hushed

theorem answer (a : α) : Hushed (Call.answer a : Call σ α) := fun _ => rfl

theorem note {record : LogRecord} (calm : record.isAlarm = false) :
    Hushed (Call.note record : Call σ Unit) := by
  intro s
  simp [Call.note, Call.run, calm]

theorem andThen {call : Call σ α} {next : α → Call σ β} (first : call.Hushed)
    (later : ∀ a, (next a).Hushed) : (call.andThen next).Hushed := by
  intro s
  change alarms ((call.run s).log ++ ((next (call.run s).answer).run (call.run s).state).log) = []
  rw [alarms_append, first s, later _ _, List.append_nil]

end Call.Hushed

/-! ### Predicates and strategies -/

theorem Registry.hushed_typed {target : String} {decode : Json → Option α}
    {predicate : α → Call σ Verdict} (hushed : ∀ a, (predicate a).Hushed) (o : Object) :
    (typed target decode predicate o).Hushed := by
  unfold typed
  split
  · exact hushed _
  · exact .answer _

theorem Registry.hushed_judge {r : Registry σ}
    (hushed : ∀ entry ∈ r.entries, ∀ o, (entry.2 o).Hushed) (o : Object) : (r.judge o).Hushed := by
  unfold judge
  split
  · exact .answer _
  next t _ =>
    split
    next predicate found =>
      obtain ⟨before, after, entries, -⟩ := List.lookup_eq_some_iff.mp found
      have mem : (t, predicate) ∈ r.entries := by
        rw [entries]
        exact List.mem_append_right _ List.mem_cons_self
      exact hushed _ mem o
    next => exact .answer _

theorem Registry.hushed_builtIn :
    ∀ entry ∈ (builtIn : Registry σ).entries, ∀ o, (entry.2 o).Hushed := by
  intro entry mem o
  have entries : (builtIn : Registry σ).entries = [(.job, jobPredicate), (.pod, podPredicate)] :=
    rfl
  rw [entries, List.mem_cons, List.mem_singleton] at mem
  rcases mem with rfl | rfl
  · exact hushed_typed (fun _ => .answer _) o
  · exact hushed_typed (fun _ => .answer _) o

theorem Strategy.hushed_select {strategy : Strategy σ}
    (hushed : ∀ selector, strategy = .custom (some selector) → ∀ os, (selector os).Hushed)
    (candidates : List Object) (now : Instant) : (strategy.select candidates now).Hushed := by
  unfold select
  split
  · exact .answer _
  · exact .answer _
  · exact .answer _
  · exact .andThen (hushed _ rfl candidates) fun _ => .answer _
  · exact .answer _

/-! ### Stores -/

/-- A store that raises no alarm. -/
structure Store.Hushed (store : Store σ) : Prop where
  list : ∀ request, (store.list request).Hushed
  delete : ∀ t o, (store.delete t o).Hushed

namespace Cluster

namespace Exchange

theorem hushed_bind {exchange : Exchange σ α} {next : α → Exchange σ β}
    (first : exchange.toCall.Hushed) (later : ∀ a, (next a).toCall.Hushed) :
    (exchange >>= next).toCall.Hushed := by
  rw [toCall_bind]
  refine .andThen first fun answer => ?_
  match answer with
  | none => exact .answer none
  | some (.error _) => exact .answer _
  | some (.ok a) => exact later a

theorem hushed_note {record : LogRecord} (calm : record.isAlarm = false) :
    (note record : Exchange σ Unit).toCall.Hushed :=
  .andThen (.note calm) fun _ => .answer _

theorem hushed_awaited {exchange : Exchange σ α} {wrap : Error → StoreError}
    (hushed : exchange.toCall.Hushed) : (exchange.awaited wrap).Hushed :=
  .andThen hushed fun _ => .answer _

end Exchange

section Service

variable {service : Service σ} (hushed : ∀ request, (service request).Hushed)

include hushed

theorem hushed_ask (method : Method) (text : String) (body : Option Json) (refusal : Error)
    (read : Response → Except Error α) :
    (ask service method text body refusal read).toCall.Hushed := by
  unfold ask sendTo
  refine Exchange.hushed_bind ?_ fun response => ?_
  · split
    · exact .answer _
    · exact fun s => hushed _ s.outside
  · cases read response with
    | ok _ => exact .answer _
    | error _ => exact .answer _

theorem hushed_resolve (t : TypeIdentifier) : (resolve service t).toCall.Hushed := by
  intro s
  cases known : s.resources.lookup t with
  | some resource =>
    rw [run_resolve_of_known known]
    rfl
  | none =>
    rw [run_resolve_of_unknown known]
    -- What was discovered is noted, but not as an alarm.
    refine Exchange.hushed_bind (hushed_ask hushed _ _ _ _ _) (fun resource => ?_) s
    refine Exchange.hushed_bind (Exchange.hushed_note rfl) fun _ => ?_
    exact Exchange.hushed_bind (fun _ => rfl) fun _ => .answer _

theorem hushed_withResource {next : ApiResource → Exchange σ α} (t : TypeIdentifier)
    (later : ∀ resource, (next resource).toCall.Hushed) :
    (withResource service t next).Hushed := by
  refine .andThen (Exchange.hushed_awaited (hushed_resolve hushed t)) fun answer => ?_
  match answer with
  | none => exact .answer _
  | some (.error _) => exact .answer _
  | some (.ok resource) => exact Exchange.hushed_awaited (later resource)

theorem hushed_pages (resource : ApiResource) (ns selector : Option String) (limit : Nat)
    (token : Option String) : (pages service resource ns selector limit token).toCall.Hushed := by
  induction limit generalizing token with
  | zero => exact .answer _
  | succ limit ih =>
    have asked := hushed_ask hushed .get (resource.listText ns selector token) none .unbuildable
      service.decoding.readPage
    refine Exchange.hushed_bind asked fun page => ?_
    split
    · exact .answer _
    · exact Exchange.hushed_bind (ih _) fun _ => .answer _

theorem hushed_list (limit : Nat) (request : ListRequest) :
    (list service limit request).Hushed := by
  refine hushed_withResource hushed _ fun resource => ?_
  refine Exchange.hushed_bind (hushed_pages hushed _ _ _ _ _) fun objects => ?_
  exact Exchange.hushed_bind (Exchange.hushed_note rfl) fun _ => .answer _

theorem hushed_delete (t : TypeIdentifier) (o : Object) : (delete service t o).Hushed := by
  refine hushed_withResource hushed _ fun resource => ?_
  unfold acceptGone
  refine Call.Hushed.andThen ?_ fun answer => ?_
  · cases named : o.key.name.isEmpty with
    | true =>
      rw [sendDeletion, if_pos named]
      exact .answer _
    | false =>
      rw [sendDeletion_eq_ask named]
      exact hushed_ask hushed _ _ _ _ _
  · match answer with
    | none => exact .answer _
    | some (.ok ()) => exact .answer _
    | some (.error (.api failure)) =>
      by_cases gone : failure.code = 404
      · simp only [gone]
        exact Exchange.hushed_note rfl
      · simp only [gone]
        exact .answer _
    | some (.error (.service _)) | some (.error .undecodable) | some (.error .unbuildable)
    | some (.error .malformedAddress) | some (.error .unknownKind) => exact .answer _

/-- The store over a service raises no alarm that the service does not raise. -/
theorem hushed_store (limit : Nat) : (store service limit).Hushed :=
  ⟨hushed_list hushed limit, hushed_delete hushed⟩

end Service

end Cluster

/-! ## Hushed passes -/

/-- A part of a pass whose alarms in the log are its own. -/
def Pass.Hushed (pass : Pass σ α) : Prop :=
  ∀ scene, alarms (logOf (pass.run scene).trace) = alarms (ownLog (pass.run scene).trace)

theorem Event.notice?_of_untold {event : Event} (untold : event.record? = none) :
    event.notice? = none := by
  cases event with
  | reported _ => cases untold
  | _ => rfl

namespace Pass.Hushed

theorem bind {pass : Pass σ α} {next : α → Pass σ β} (first : pass.Hushed)
    (later : ∀ a, (next a).Hushed) : (pass >>= next).Hushed := by
  intro scene
  have own := first scene
  generalize ran : pass.run scene = r at own
  obtain ⟨outcome, middle, trace⟩ := r
  cases outcome with
  | error e => rw [Pass.run_bind_of_error ran, own]
  | ok a =>
    rw [Pass.run_bind_of_ok ran]
    simp only [Progress.after, logOf_append, ownLog_append, alarms_append, own, later a middle]

theorem done (a : α) : Hushed (Pass.done a : Pass σ α) := fun _ => rfl

theorem stop (e : PruneError) : Hushed (Pass.stop e : Pass σ α) := fun _ => rfl

theorem report (notice : Notice) : Hushed (Pass.report notice : Pass σ Unit) := fun _ => rfl

theorem reportStop (notice : Notice) (e : PruneError) :
    Hushed (Pass.reportStop notice e : Pass σ α) := fun _ => rfl

/-- A call leaves its event and what it notes, and neither is of the pass. -/
theorem of_call {event : Event} {log : List LogRecord} (untold : event.record? = none)
    (quiet : alarms log = []) :
    alarms (logOf (event :: log.map .noted)) = alarms (ownLog (event :: log.map .noted)) := by
  have noted : logOf (event :: log.map .noted) = log := by
    rw [logOf, List.filterMap_cons_none untold, List.filterMap_map]
    exact List.filterMap_some
  have own : ownLog (event :: log.map .noted) = [] := by
    simp only [ownLog, viewed_cons, Event.notice?_of_untold untold, notices_noted,
      Option.toList_none, List.append_nil, List.map_nil]
  rw [noted, own, quiet]
  rfl

theorem call {event : α → Event} {call : Call σ α} (hushed : call.Hushed)
    (untold : ∀ a, (event a).record? = none) : Hushed (Pass.call event call) :=
  fun scene => of_call (untold _) (hushed scene.state)

theorem await {event : Option α → Event} {call : Call σ (Option α)} (hushed : call.Hushed)
    (untold : ∀ a, (event a).record? = none) : Hushed (Pass.await event call) := by
  intro scene
  cases fired : scene.token.hasFired with
  | true =>
    rw [Pass.run_await_of_hasFired fired]
    rfl
  | false =>
    rw [Pass.run_await_of_quiet fired rfl]
    exact of_call (untold _) (hushed scene.state)

end Pass.Hushed

namespace Pruner

variable {p : Pruner σ} {store : Store σ}

/-- The code that a pruner is given raises no alarm. -/
structure Hushed (p : Pruner σ) : Prop where
  predicate : ∀ entry ∈ p.registry.entries, ∀ o, (entry.2 o).Hushed
  selector : ∀ selector, p.strategy = .custom (some selector) → ∀ os, (selector os).Hushed
  hook : ∀ hook ∈ p.hook, ∀ o, (hook o).Hushed

/-- The predicates and the strategies of the library raise none. -/
theorem hushed_ofStrategy {strategy : Strategy σ} (builtIn : strategy.isBuiltIn = true)
    (clock : σ → Instant) : (ofStrategy strategy clock).Hushed where
  predicate := Registry.hushed_builtIn
  selector := by
    rintro selector rfl
    cases builtIn
  hook := nofun

section Hushed

variable (hushed : p.Hushed) (quiet : store.Hushed)

section Choosing

include hushed

theorem hushed_considered (o : Object) : (p.considered o).Hushed := by
  unfold considered
  split
  · exact .bind (.report _) fun _ => .done _
  · refine .bind (.call (Registry.hushed_judge hushed.predicate o) fun _ => rfl) fun verdict => ?_
    split
    · exact .done _
    · exact .bind (.report _) fun _ => .done _
    · exact .reportStop _ _

theorem hushed_candidates (listed : List Object) : (p.candidates listed).Hushed := by
  induction listed with
  | nil => exact .done _
  | cons first rest ih =>
    unfold candidates
    split
    · exact .stop _
    · refine .bind (hushed_considered hushed _) fun keep => ?_
      exact .bind ih fun others => .done _

end Choosing

include hushed quiet

theorem hushed_chosen : (p.chosen store).Hushed := by
  unfold chosen checked listed selected
  refine .bind ?_ fun _ => .bind (.report _) fun _ => .bind ?_ fun listed => ?_
  · split
    · exact .stop _
    · exact .done _
  · refine .bind (.await (quiet.list p.request) fun _ => rfl) fun answer => ?_
    split
    · exact .reportStop _ _
    · exact .reportStop _ _
    · exact .done _
  · refine .bind (hushed_candidates hushed _) fun candidates => ?_
    refine .bind (fun _ => rfl) fun now => ?_
    refine .bind (.call (Strategy.hushed_select hushed.selector _ _) fun _ => rfl) fun answer => ?_
    split
    · exact .reportStop _ _
    · exact .bind (.report _) fun _ => .done _

theorem hushed_deleteOne (o : Object) (deleted : List ResourceKey) :
    (p.deleteOne store o deleted).Hushed := by
  unfold deleteOne hooked
  refine .bind (fun _ => rfl) fun fired => ?_
  split
  · exact .reportStop _ _
  · refine .bind ?_ fun _ => ?_
    · split
      · exact .done _
      next hook own =>
        refine .bind (.call (hushed.hook hook own o) fun _ => rfl) fun answer => ?_
        split
        · exact .reportStop _ _
        · exact .done _
    · refine .bind (.await (quiet.delete p.type o) fun _ => rfl) fun answer => ?_
      split
      · exact .reportStop _ _
      · exact .reportStop _ _
      · exact .report _

theorem hushed_deleteAll (selection : List Object) (deleted : List ResourceKey) :
    (p.deleteAll store selection deleted).Hushed := by
  induction selection generalizing deleted with
  | nil => exact .done _
  | cons o rest ih => exact .bind (hushed_deleteOne hushed quiet o deleted) fun _ => ih _

theorem hushed_prune : (p.prune store).Hushed := by
  have would (selection : List Object) : (wouldDelete selection : Pass σ Unit).Hushed := by
    induction selection with
    | nil => exact .done _
    | cons o rest ih => exact .bind (.report _) fun _ => ih
  unfold prune removed
  refine .bind (hushed_chosen hushed quiet) fun selection => .bind ?_ fun _ => .done _
  split
  · exact .bind (would selection) fun _ => .report _
  · exact .bind (hushed_deleteAll hushed quiet selection []) fun _ => .report _

end Hushed

/-! ## The alarms of a pass -/

/-- How the log of a pass that has started tells whether it stopped. -/
structure Alerts (p : Pruner σ) (store : Store σ) (pass : Progress σ (List Object)) : Prop where
  ok : ∀ selection, pass.outcome = .ok selection → alarms (ownLog pass.trace) = []
  /-- An error is announced, by one alarm. -/
  error : ∀ e, pass.outcome = .error e →
    (∀ resource expected reported, e ≠ .convert resource expected reported) →
    ∃ alarm, Announces p.type e alarm ∧ alarms (ownLog pass.trace) = [alarm.record]
  /-- The error about an object of another type is announced by none. -/
  mistyped : ∀ resource expected reported,
    pass.outcome = .error (.convert resource expected reported) → alarms (ownLog pass.trace) = []
  /-- No alarm is raised besides, unless by code that the pass is given. -/
  others : p.Hushed → store.Hushed → alarms (logOf pass.trace) = alarms (ownLog pass.trace)

/-- Over every store, registry, strategy, hook and token, a pass that starts raises the alarms that
`Alerts` allows. -/
theorem alarm_raised (p : Pruner σ) (store : Store σ) (scene : Scene σ)
    (started : p.startNotice ∈ notices ((p.prune store).run scene).trace) :
    p.Alerts store ((p.prune store).run scene) := by
  have minutes := p.prune_minutes store scene
  have others (hushed : p.Hushed) (quiet : store.Hushed) := hushed_prune hushed quiet scene
  generalize (p.prune store).run scene = pass at started minutes others
  constructor
  case ok =>
    intro selection ok
    rw [ok] at minutes
    exact minutes.alarms_of_ok
  case error =>
    intro e stops typed
    rw [stops] at minutes
    exact minutes.alarms_of_error started typed
  case mistyped =>
    intro resource expected reported stops
    rw [stops] at minutes
    exact minutes.alarms_of_convert
  case others => exact others

end Pruner

/-! ## Rehearsed alarms -/

namespace Rehearsed

/-- A stage whose only object says that it is a job. -/
def mistypedStage : Stage :=
  Stage.start [{ bare "a" (-2) with types := some (.ofType .job) }] .epoch

/-- A pruner of the pods of a cluster that keeps none. -/
def clusterPruner : Pruner (Cluster.State Responder) :=
  Pruner.ofStrategy (.maxCount 0) fun s => s.outside.now

/-- A pass over a cluster whose service is down. -/
def downPass : Progress (Cluster.State Responder) (List Object) :=
  (clusterPruner.prune (Cluster.store Responder.service 1)).run
    ⟨Responder.cluster [.error "down"] .epoch, .quiet⟩

theorem hushed_responder (request : Cluster.Request) : (Responder.service request).Hushed := by
  intro responder
  obtain ⟨responses, now, requests⟩ := responder
  cases responses <;> rfl

end Rehearsed

namespace Pruner

section Rehearsed

open Rehearsed

theorem alarm_raised_rehearsed :
    clusterPruner.startNotice ∈ notices downPass.trace ∧
      downPass.outcome = .error (.list .pod (.discovery .pod (.service "down"))) ∧
      clusterPruner.Alerts (Cluster.store Responder.service 1) downPass ∧
      alarms (logOf downPass.trace) = alarms (ownLog downPass.trace) ∧
      alarms (ownLog downPass.trace) =
        [(Notice.listFailed .pod (.discovery .pod (.service "down"))).record] := by
  have started : clusterPruner.startNotice ∈ notices downPass.trace := List.mem_cons_self
  have alerts := alarm_raised clusterPruner (Cluster.store Responder.service 1)
    ⟨Responder.cluster [.error "down"] .epoch, .quiet⟩ started
  exact ⟨started, rfl, alerts,
    alerts.others (hushed_ofStrategy rfl _) (Cluster.hushed_store hushed_responder 1), rfl⟩

/-- A pass stops at an object of another type, and the log says only that it starts. -/
theorem mistyped_unannounced :
    ((Rehearsed.pruner.prune Stage.store).run ⟨mistypedStage, .quiet⟩).outcome =
        .error (.convert ⟨none, "a"⟩ .pod (.ofType .job)) ∧
      logOf ((Rehearsed.pruner.prune Stage.store).run ⟨mistypedStage, .quiet⟩).trace =
        [Rehearsed.pruner.startNotice.record] ∧
      alarms [Rehearsed.pruner.startNotice.record] = [] :=
  ⟨rfl, rfl, rfl⟩

end Rehearsed

end Pruner

end Retention
