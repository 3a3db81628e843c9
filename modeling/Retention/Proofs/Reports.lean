import Retention.Proofs.Minutes

/-!
# The log against the pass

The log of a pass is read by the messages of its records: `told` gives those that the pass itself
wrote with a message.  `Truthful` says what they amount to: each object that the store says is gone
has its record, a dry pass tells what it would delete, no listed object is unaccounted for, and the
records that close a pass tell how it ended.  This is true of every pass, and all of it is read off
the minutes.
-/

namespace Retention

variable {σ : Type}

/-! ## Records by message -/

/-- The records of notices with a message. -/
def toldBy (message : String) (ns : List Notice) : List LogRecord :=
  (ns.map Notice.record).filter fun record => record.message = message

/-- The records with a message that a pass wrote itself. -/
def told (message : String) (trace : List Event) : List LogRecord :=
  toldBy message (notices trace)

section Telling

variable {message : String} {ns later : List Notice}

@[simp]
theorem toldBy_nil : toldBy message [] = [] := rfl

@[simp]
theorem toldBy_cons (n : Notice) :
    toldBy message (n :: ns) =
      (if n.record.message = message then [n.record] else []) ++ toldBy message ns := by
  by_cases own : n.record.message = message
  · simp [toldBy, own]
  · simp [toldBy, own]

@[simp]
theorem toldBy_append :
    toldBy message (ns ++ later) = toldBy message ns ++ toldBy message later := by
  simp [toldBy]

/-- Notices that share a message are all told, or none is. -/
theorem toldBy_map {α : Type} (notice : α → Notice) {text : String}
    (shared : ∀ a, (notice a).record.message = text) (entries : List α) :
    toldBy message (entries.map notice) =
      if text = message then entries.map fun a => (notice a).record else [] := by
  by_cases own : text = message
  · simp [toldBy, shared, own, Function.comp_def]
  · simp [toldBy, shared, own]

@[simp]
theorem toldBy_deleted (gone : List ResourceKey) :
    toldBy message (gone.map .deleted) =
      if "Deleted resource" = message then gone.map fun key => (Notice.deleted key).record
      else [] :=
  toldBy_map .deleted (fun _ => rfl) gone

@[simp]
theorem toldBy_wouldDelete (selection : List Object) :
    toldBy message (selection.map (.wouldDelete ·.key)) =
      if "Would delete (dry run)" = message then
        selection.map fun o => (Notice.wouldDelete o.key).record
      else [] :=
  toldBy_map (fun o => .wouldDelete o.key) (fun _ => rfl) selection

/-- The messages about skipped objects. -/
def skipMessages : List String := ["Skipping preserved resource", "Skipping unprunable resource"]

/-- The messages that lead up to a selection. -/
def openingMessages : List String := ["Starting prune pass", "Strategy selected resources"]

/-- The messages about what became of a selection. -/
def closingMessages : List String :=
  ["Would delete (dry run)", "Deleted resource", "Dry run complete, nothing deleted",
    "Prune pass complete"]

/-- The messages about what stops a pass. -/
def alarmMessages : List String :=
  ["Prune pass cancelled while listing", "Failed to list resources", "Prunability check failed",
    "Strategy failed", "Prune pass cancelled before deletion", "Pre-delete hook failed",
    "Prune pass cancelled during deletion", "Failed to delete resource"]

/-- Notices with some messages are not told under another. -/
theorem toldBy_others {messages : List String} (own : ∀ n ∈ ns, n.record.message ∈ messages)
    (other : message ∉ messages) : toldBy message ns = [] := by
  rw [toldBy, List.filter_eq_nil_iff]
  intro record mem same
  obtain ⟨n, here, rfl⟩ := List.mem_map.mp mem
  exact other (of_decide_eq_true same ▸ own n here)

theorem message_mem_of_skips (skipped : ∀ n ∈ ns, n.isSkip = true) :
    ∀ n ∈ ns, n.record.message ∈ skipMessages := by
  intro n mem
  have skip := skipped n mem
  cases n with
  | skippedPreserved _ => exact List.mem_cons_self
  | skippedUnprunable _ _ => exact List.mem_cons_of_mem _ List.mem_cons_self
  | _ => cases skip

theorem Announces.message_mem {type : TypeIdentifier} {e : PruneError} {alarm : Notice}
    (announces : Announces type e alarm) : alarm.record.message ∈ alarmMessages := by
  cases announces <;> simp [Notice.record, alarmMessages]

/-- Each skipped object is told of, under one message or the other. -/
theorem length_toldBy_skips (skipped : ∀ n ∈ ns, n.isSkip = true) :
    (toldBy "Skipping preserved resource" ns).length +
      (toldBy "Skipping unprunable resource" ns).length = ns.length := by
  induction ns with
  | nil => rfl
  | cons n rest ih =>
    obtain ⟨skip, others⟩ := List.forall_mem_cons.mp skipped
    have count := ih others
    cases n with
    | skippedPreserved _ => simp [Notice.record]; omega
    | skippedUnprunable _ _ => simp [Notice.record]; omega
    | _ => cases skip

end Telling

namespace Pruner

/-! ## The record of a pass -/

/-- Notices that tell of a selection count the listed objects: the candidates, and those that are
told to be skipped. -/
def CountsListed (p : Pruner σ) (ns : List Notice) : Prop :=
  ∀ record ∈ toldBy "Strategy selected resources" ns, ∃ listed candidates selected : Nat,
    record = ⟨.debug, "Strategy selected resources",
      [("type_id", p.type.display), ("listed", toString listed),
        ("candidates", toString candidates), ("selected", toString selected)]⟩ ∧
    listed = candidates + (toldBy "Skipping preserved resource" ns).length +
      (toldBy "Skipping unprunable resource" ns).length

/-- What the log of a pass says, against what the pass did. -/
structure Truthful (p : Pruner σ) (pass : Progress σ (List Object)) : Prop where
  /-- The objects that are told to be deleted are those that the store says are gone, in order. -/
  deleted : told "Deleted resource" pass.trace =
    (goneKeys pass.trace).map fun key =>
      ⟨.debug, "Deleted resource", [("resource", key.display)]⟩
  /-- A dry pass that ends well tells of its selection, in order, and of no deletion. -/
  dry : p.dryRun = true → ∀ selection, pass.outcome = .ok selection →
    told "Would delete (dry run)" pass.trace =
        (selection.map fun o =>
          ⟨.debug, "Would delete (dry run)", [("resource", o.key.display)]⟩) ∧
      told "Deleted resource" pass.trace = []
  /-- Where a selection is told of, each listed object was a candidate or is told to be skipped. -/
  counted : p.CountsListed (notices pass.trace)
  /-- A real pass is told to be complete where it ends well, with the number of what it deleted. -/
  complete : told "Prune pass complete" pass.trace =
    if p.dryRun then []
    else (pass.outcome.toOption.map fun selection =>
      ⟨.info, "Prune pass complete",
        [("type_id", p.type.display), ("deleted", toString selection.length)]⟩).toList
  /-- A dry pass is told to be complete where it ends well, with the number of what it selected. -/
  dryComplete : told "Dry run complete, nothing deleted" pass.trace =
    if p.dryRun then
      (pass.outcome.toOption.map fun selection =>
        ⟨.info, "Dry run complete, nothing deleted",
          [("type_id", p.type.display), ("selected", toString selection.length)]⟩).toList
    else []

/-! ## What minutes tell -/

/-- What a pass reports of its selection. -/
def upshot (p : Pruner σ) (outcome : Except PruneError (List Object)) (gone : List ResourceKey) :
    List Notice :=
  gone.map .deleted ++
    match outcome with
    | .error _ => []
    | .ok selection =>
      if p.dryRun then
        selection.map (.wouldDelete ·.key) ++ [.dryRunComplete p.type selection.length]
      else [.complete p.type selection.length]

theorem countsListed_of_none {p : Pruner σ} {ns : List Notice}
    (none : toldBy "Strategy selected resources" ns = []) : p.CountsListed ns := by
  intro record mem
  rw [none] at mem
  cases mem

theorem countsListed_of_selection {p : Pruner σ} {skips rest : List Notice} {candidates : Nat}
    {selection : List Object} (skipped : ∀ n ∈ skips, n.isSkip = true)
    (closing : ∀ n ∈ rest, n.record.message ∈ closingMessages ++ alarmMessages) :
    p.CountsListed
      (p.startNotice :: skips ++ (p.selectionNotice skips candidates selection :: rest)) := by
  intro record mem
  have own : record = (p.selectionNotice skips candidates selection).record := by
    have passed : toldBy "Strategy selected resources" skips = [] :=
      toldBy_others (message_mem_of_skips skipped) (by decide)
    have closed : toldBy "Strategy selected resources" rest = [] :=
      toldBy_others closing (by decide)
    simpa [startNotice, selectionNotice, Notice.record, passed, closed] using mem
  refine ⟨candidates + skips.length, candidates, selection.length, own, ?_⟩
  -- The two messages are told of skipped objects only, so all of them are counted among these.
  have preserved : toldBy "Skipping preserved resource" rest = [] :=
    toldBy_others closing (by decide)
  have unprunable : toldBy "Skipping unprunable resource" rest = [] :=
    toldBy_others closing (by decide)
  rw [← length_toldBy_skips skipped, Nat.add_assoc]
  simp [startNotice, selectionNotice, Notice.record, preserved, unprunable]

section Telling

variable {p : Pruner σ} {outcome : Except PruneError (List Object)} {gone : List ResourceKey}
  {ns : List Notice} (minutes : p.Minutes outcome gone ns)

include minutes

/-- With the opening, the skipped objects and the alarm left out, minutes tell the upshot. -/
theorem Minutes.toldBy_eq {message : String} (opening : message ∉ openingMessages)
    (other : message ∉ skipMessages) (calm : message ∉ alarmMessages) :
    toldBy message ns = toldBy message (p.upshot outcome gone) := by
  have start : p.startNotice.record.message ≠ message :=
    ne_of_mem_of_not_mem List.mem_cons_self opening
  have chosen (skips : List Notice) (candidates : Nat) (selection : List Object) :
      (p.selectionNotice skips candidates selection).record.message ≠ message :=
    ne_of_mem_of_not_mem (List.mem_cons_of_mem _ List.mem_cons_self) opening
  have passed {skips : List Notice} (skipped : ∀ n ∈ skips, n.isSkip = true) :
      toldBy message skips = [] :=
    toldBy_others (message_mem_of_skips skipped) other
  cases minutes with
  | invalid => rfl
  | mistyped skipped => simp [upshot, start, passed skipped]
  | unchosen skipped announces =>
    have alarmed := ne_of_mem_of_not_mem announces.message_mem calm
    simp [upshot, start, passed skipped, alarmed]
  | dry dry skipped => simp [upshot, dry, start, passed skipped, chosen]
  | stopped _ skipped announces =>
    have alarmed := ne_of_mem_of_not_mem announces.message_mem calm
    simp [upshot, start, passed skipped, chosen, alarmed]
  | complete real skipped _ => simp [upshot, real, start, passed skipped, chosen]

/-- Minutes tell of a selection once at most, and count what was listed for it. -/
theorem Minutes.countsListed : p.CountsListed ns := by
  cases minutes with
  | invalid => exact List.forall_mem_nil _
  | mistyped skipped =>
    refine countsListed_of_none ?_
    simp [startNotice, Notice.record, toldBy_others (message_mem_of_skips skipped), skipMessages]
  | unchosen skipped announces =>
    refine countsListed_of_none ?_
    rw [toldBy_append, toldBy_others (List.forall_mem_singleton.mpr announces.message_mem)
      (by decide)]
    simp [startNotice, Notice.record, toldBy_others (message_mem_of_skips skipped), skipMessages]
  | dry _ skipped =>
    rw [List.append_assoc]
    refine countsListed_of_selection skipped ?_
    simp [or_imp, forall_and, Notice.record, closingMessages]
  | stopped _ skipped announces =>
    rw [List.append_assoc]
    refine countsListed_of_selection skipped (List.forall_mem_append.mpr ⟨?_, ?_⟩)
    · simp [Notice.record, closingMessages]
    · exact List.forall_mem_singleton.mpr (List.mem_append_right _ announces.message_mem)
  | complete _ skipped _ =>
    rw [List.append_assoc]
    refine countsListed_of_selection skipped ?_
    simp [or_imp, forall_and, Notice.record, closingMessages]

theorem Minutes.told_deleted :
    toldBy "Deleted resource" ns = gone.map fun key => (Notice.deleted key).record := by
  rw [minutes.toldBy_eq (by decide) (by decide) (by decide)]
  cases outcome <;> by_cases dry : p.dryRun = true <;> simp [upshot, dry, Notice.record]

theorem Minutes.told_complete :
    toldBy "Prune pass complete" ns =
      if p.dryRun then []
      else (outcome.toOption.map fun selection =>
        (Notice.complete p.type selection.length).record).toList := by
  rw [minutes.toldBy_eq (by decide) (by decide) (by decide)]
  cases outcome <;> by_cases dry : p.dryRun = true <;>
    simp [upshot, dry, Notice.record, Except.toOption]

theorem Minutes.told_dryRunComplete :
    toldBy "Dry run complete, nothing deleted" ns =
      if p.dryRun then
        (outcome.toOption.map fun selection =>
          (Notice.dryRunComplete p.type selection.length).record).toList
      else [] := by
  rw [minutes.toldBy_eq (by decide) (by decide) (by decide)]
  cases outcome <;> by_cases dry : p.dryRun = true <;>
    simp [upshot, dry, Notice.record, Except.toOption]

/-- Nothing is gone after a dry pass that ends well, and its whole selection is told. -/
theorem Minutes.told_dry {selection : List Object} (dry : p.dryRun = true)
    (ok : outcome = .ok selection) :
    toldBy "Would delete (dry run)" ns =
        selection.map (fun o => (Notice.wouldDelete o.key).record) ∧ gone = [] := by
  refine ⟨?_, ?_⟩
  · rw [minutes.toldBy_eq (by decide) (by decide) (by decide)]
    simp [upshot, ok, dry, Notice.record]
  · cases minutes with
    | complete real _ _ => rw [dry] at real; cases real
    | dry _ _ => rfl
    | _ => cases ok

end Telling

/-! ## The account -/

/-- Over every store, registry, strategy, hook and token, the log is true to the pass. -/
theorem truthful (p : Pruner σ) (store : Store σ) (scene : Scene σ) :
    p.Truthful ((p.prune store).run scene) := by
  have minutes := p.prune_minutes store scene
  refine ⟨minutes.told_deleted, ?_, minutes.countsListed, minutes.told_complete,
    minutes.told_dryRunComplete⟩
  intro dry selection ok
  obtain ⟨would, none⟩ := minutes.told_dry dry ok
  refine ⟨would, ?_⟩
  rw [told, minutes.told_deleted, none, List.map_nil]

end Pruner

end Retention
