import Retention.Proofs.Course
import Retention.Rehearsal.Plan
import Retention.Rehearsal.Stage

/-!
# The account of the deletions

However a pass ends, the deletions it asked the store for are a beginning of its selection, and its
outcome says how far they came.  `Tally` lists what the removal of a selection can leave: the
deletions of the objects before some place, perhaps that of the object at this place, and the
outcome that goes with them.  It is the invariant of the loop: `Tally.cons` puts one more deleted
object in front, and `Removal.tally` follows by induction.
-/

namespace Retention

variable {σ : Type}

namespace Pruner

variable (p : Pruner σ)

/-- The deletion of an object that the store says is gone. -/
def goneDeletion (o : Object) : Deletion := ⟨p.type, o, some (.ok ())⟩

/-- The calls around a deletion: the hook's, where there is one, and the store's. -/
def removalCalls (d : Deletion) : List Event :=
  p.hookCalls d.object (.ok ()) ++ [.deleted d.type d.object d.answer]

/-- The deletions that the removal of a selection can leave, with the outcome that goes with them.
The objects with the keys in `earlier` were deleted before. -/
inductive Tally (earlier : List ResourceKey) :
    List Object → List Deletion → Except PruneError Unit → Prop
  | finished {selection : List Object} :
    Tally earlier selection (selection.map p.goneDeletion) (.ok ())
  /-- Those before `o` are gone, and `o` fails. -/
  | failed (before after : List Object) (o : Object) (e : StoreError) :
    Tally earlier (before ++ o :: after)
      (before.map p.goneDeletion ++ [⟨p.type, o, some (.error e)⟩])
      (.error (.delete o.key (earlier ++ before.map Object.key) e))
  /-- Those before `o` are gone, and the hook refuses `o`. -/
  | refused (before after : List Object) (o : Object) (text : String) :
    Tally earlier (before ++ o :: after) (before.map p.goneDeletion)
      (.error (.preDelete o.key (earlier ++ before.map Object.key) text))
  /-- Those before `o` are gone, and the token has fired before `o` is deleted. -/
  | cancelled (before after : List Object) (o : Object) :
    Tally earlier (before ++ o :: after) (before.map p.goneDeletion)
      (.error (.cancelled (earlier ++ before.map Object.key)))
  /-- Those before `o` are gone, and the token fires while `o` is deleted. -/
  | givenUp (before after : List Object) (o : Object) :
    Tally earlier (before ++ o :: after) (before.map p.goneDeletion ++ [⟨p.type, o, none⟩])
      (.error (.cancelled (earlier ++ before.map Object.key)))

variable {p} {store : Store σ} {scene after : Scene σ} {earlier : List ResourceKey} {o : Object}
  {selection rest : List Object} {trace : List Event}

/-- An attempt that stops the pass leaves the tally of a selection that begins with its object. -/
theorem Attempt.tally {e : PruneError}
    (attempt : p.Attempt store o earlier scene ⟨.error e, after, trace⟩) (rest : List Object) :
    p.Tally earlier (o :: rest) (deletions trace) (.error e) := by
  cases attempt with
  | cancelledBefore _ => simpa using (Tally.cancelled [] rest o : p.Tally earlier _ _ _)
  | refused _ hook =>
    simpa [hook.deletions_eq] using (Tally.refused [] rest o _ : p.Tally earlier _ _ _)
  | cancelledAfterHook _ hook _ =>
    simpa [hook.deletions_eq] using (Tally.cancelled [] rest o : p.Tally earlier _ _ _)
  | givenUp _ hook _ _ _ =>
    simpa [hook.deletions_eq] using (Tally.givenUp [] rest o : p.Tally earlier _ _ _)
  | failed _ hook _ _ _ =>
    simpa [hook.deletions_eq] using (Tally.failed [] rest o _ : p.Tally earlier _ _ _)

/-- An attempt that lets the pass go on leaves one deletion. -/
theorem Attempt.deletions_of_ok
    (attempt : p.Attempt store o earlier scene ⟨.ok (), after, trace⟩) :
    deletions trace = [p.goneDeletion o] := by
  cases attempt with
  | gone _ hook _ _ _ => simp [hook.deletions_eq, goneDeletion]

/-- A deleted object in front of a selection is one more before the place. -/
theorem Tally.cons {left : List Deletion} {outcome : Except PruneError Unit}
    (tally : p.Tally (earlier ++ [o.key]) rest left outcome) :
    p.Tally earlier (o :: rest) (p.goneDeletion o :: left) outcome := by
  cases tally with
  | finished => exact .finished
  | failed before later x e =>
    simpa using (Tally.failed (o :: before) later x e : p.Tally earlier _ _ _)
  | refused before later x text =>
    simpa using (Tally.refused (o :: before) later x text : p.Tally earlier _ _ _)
  | cancelled before later x =>
    simpa using (Tally.cancelled (o :: before) later x : p.Tally earlier _ _ _)
  | givenUp before later x =>
    simpa using (Tally.givenUp (o :: before) later x : p.Tally earlier _ _ _)

/-- Every removal of a selection leaves a tally. -/
theorem Removal.tally {r : Progress σ Unit}
    (removal : p.Removal store selection earlier scene r) :
    p.Tally earlier selection (deletions r.trace) r.outcome := by
  induction removal with
  | finished => exact .finished
  | stopped attempt => exact attempt.tally _
  | next attempt _ ih =>
    simp only [Progress.after, viewed_append, attempt.deletions_of_ok]
    exact ih.cons

/-! ## What a tally says -/

section Reading

variable {left : List Deletion} {outcome : Except PruneError Unit} {resource : ResourceKey}
  {deleted : List ResourceKey}

theorem goneKeys_goneDeletion (objects : List Object) :
    (objects.map p.goneDeletion).filterMap Deletion.goneKey? = objects.map Object.key := by
  rw [List.filterMap_map]
  exact congrFun List.filterMap_eq_map objects

theorem answers_goneDeletion (objects : List Object) :
    (objects.map p.goneDeletion).map Deletion.answer =
      List.replicate objects.length (some (.ok ())) := by
  rw [List.map_map]
  exact List.map_const'

theorem asked_goneDeletion (objects : List Object) :
    (objects.map p.goneDeletion).map (fun d => (d.type, d.object)) =
      objects.map fun o => (p.type, o) := by
  rw [List.map_map]
  rfl

/-- The deletions are those of the first objects of the selection. -/
theorem Tally.asked (tally : p.Tally earlier selection left outcome) :
    left.map (fun d => (d.type, d.object)) =
      (selection.take left.length).map fun o => (p.type, o) := by
  cases tally with
  | finished => simp only [asked_goneDeletion, List.length_map, List.take_length]
  | refused | cancelled =>
    simp only [asked_goneDeletion, List.length_map, List.take_left]
  | failed | givenUp =>
    simp only [List.map_append, asked_goneDeletion, List.length_append, List.length_map,
      List.take_length_add_append]
    simp

theorem Tally.length_le (tally : p.Tally earlier selection left outcome) :
    left.length ≤ selection.length := by
  cases tally <;> simp

/-- The deletions are those of a beginning of the selection. -/
theorem Tally.objects_prefix (tally : p.Tally earlier selection left outcome) :
    left.map Deletion.object <+: selection := by
  have asked := congrArg (List.map Prod.snd) tally.asked
  rw [List.map_map, List.map_map] at asked
  have objects : left.map Deletion.object = selection.take left.length := by
    simpa [Function.comp_def] using asked
  rw [objects]
  exact List.take_prefix _ _

/-- An error carries the keys of those that are gone. -/
theorem Tally.deleted_eq {e : PruneError} (tally : p.Tally earlier selection left (.error e)) :
    e.deleted = earlier ++ left.filterMap Deletion.goneKey? := by
  cases tally <;> simp only [List.filterMap_append, goneKeys_goneDeletion] <;>
    simp [PruneError.deleted]

/-- A removal that comes to its end has deleted the selection. -/
theorem Tally.of_ok (tally : p.Tally earlier selection left (.ok ())) :
    left = selection.map p.goneDeletion := by
  cases tally
  rfl

/-- A failed deletion is the last one. -/
theorem Tally.of_delete {e : StoreError}
    (tally : p.Tally earlier selection left (.error (.delete resource deleted e))) :
    ∃ j o, left.length = j + 1 ∧ selection[j]? = some o ∧ resource = o.key ∧
      deleted = earlier ++ (selection.take j).map Object.key ∧
      left.map Deletion.answer = List.replicate j (some (.ok ())) ++ [some (.error e)] := by
  cases tally with
  | failed before after o e =>
    refine ⟨before.length, o, by simp, by simp, rfl, by simp, ?_⟩
    rw [List.map_append, answers_goneDeletion]
    rfl

/-- The object that the hook refuses comes after those that are gone. -/
theorem Tally.of_preDelete {text : String}
    (tally : p.Tally earlier selection left (.error (.preDelete resource deleted text))) :
    ∃ o, selection[left.length]? = some o ∧ resource = o.key ∧
      deleted = earlier ++ (selection.take left.length).map Object.key ∧
      left.map Deletion.answer = List.replicate left.length (some (.ok ())) := by
  cases tally with
  | refused before after o text =>
    refine ⟨o, by simp, rfl, by simp, ?_⟩
    rw [answers_goneDeletion, List.length_map]

/-- Of a cancelled removal at most the last deletion has not been answered. -/
theorem Tally.of_cancelled
    (tally : p.Tally earlier selection left (.error (.cancelled deleted))) :
    ∃ j, deleted = earlier ++ (selection.take j).map Object.key ∧
      (left.map Deletion.answer = List.replicate j (some (.ok ())) ∨
        left.map Deletion.answer = List.replicate j (some (.ok ())) ++ [none]) := by
  cases tally with
  | cancelled before after o =>
    exact ⟨before.length, by simp, .inl (answers_goneDeletion before)⟩
  | givenUp before after o =>
    refine ⟨before.length, by simp, .inr ?_⟩
    rw [List.map_append, answers_goneDeletion]
    rfl

/-- Nothing else stops a removal. -/
theorem Tally.stopped {e : PruneError} (tally : p.Tally earlier selection left (.error e)) :
    (∃ resource source, e = .delete resource e.deleted source) ∨
      (∃ resource text, e = .preDelete resource e.deleted text) ∨ e = .cancelled e.deleted := by
  cases tally <;> simp [PruneError.deleted]

end Reading

/-! ## Hook and store -/

theorem hookCalls_cases (o : Object) (answer : Except String Unit) :
    p.hookCalls o answer = [] ∨ p.hookCalls o answer = [.hooked o answer] := by
  unfold hookCalls
  split
  · exact .inl rfl
  · exact .inr rfl

/-- An attempt that stops the pass leaves the calls around its deletion, or at most one of the
hook. -/
theorem Attempt.removals_of_error {e : PruneError}
    (attempt : p.Attempt store o earlier scene ⟨.error e, after, trace⟩) :
    ∃ last, removals trace = (deletions trace).flatMap p.removalCalls ++ last ∧
      (last = [] ∨ deletions trace = [] ∧ ∃ answer, last = [.hooked o answer]) := by
  cases attempt with
  | cancelledBefore _ => exact ⟨[], by simp⟩
  | @refused text _ _ _ hook =>
    refine ⟨p.hookCalls o (.error text), by simp [hook.removals_eq, hook.deletions_eq], ?_⟩
    exact (hookCalls_cases o _).imp id fun called => ⟨by simp [hook.deletions_eq], _, called⟩
  | cancelledAfterHook _ hook _ =>
    refine ⟨p.hookCalls o (.ok ()), by simp [hook.removals_eq, hook.deletions_eq], ?_⟩
    exact (hookCalls_cases o _).imp id fun called => ⟨by simp [hook.deletions_eq], _, called⟩
  | givenUp _ hook _ _ _ =>
    exact ⟨[], by simp [hook.removals_eq, hook.deletions_eq, removalCalls]⟩
  | failed _ hook _ _ _ =>
    exact ⟨[], by simp [hook.removals_eq, hook.deletions_eq, removalCalls]⟩

/-- Every deletion comes right after the hook passed its object, and after the last of them the hook
runs for at most the next object. -/
theorem Removal.removals_eq {r : Progress σ Unit}
    (removal : p.Removal store selection earlier scene r) :
    ∃ last, removals r.trace = (deletions r.trace).flatMap p.removalCalls ++ last ∧
      (last = [] ∨ ∃ o answer, selection[(deletions r.trace).length]? = some o ∧
        last = [.hooked o answer]) := by
  induction removal with
  | finished => exact ⟨[], rfl, .inl rfl⟩
  | stopped attempt =>
    obtain ⟨last, calls, shape⟩ := attempt.removals_of_error
    refine ⟨last, calls, shape.imp id ?_⟩
    rintro ⟨none, answer, rfl⟩
    exact ⟨_, answer, by simp [none], rfl⟩
  | next attempt _ ih =>
    obtain ⟨last, calls, shape⟩ := ih
    refine ⟨last, ?_, ?_⟩
    · simp [Progress.after, attempt.removals_of_ok, attempt.deletions_of_ok, calls, removalCalls,
        goneDeletion]
    · simpa [Progress.after, attempt.deletions_of_ok] using shape

/-! ## The account of a pass -/

/-- The account of a pass that came to a selection, `k` objects of which were sent to the store. -/
structure Account (p : Pruner σ) (selection : List Object) (k : Nat)
    (pass : Progress σ (List Object)) : Prop where
  /-- The store is asked to delete the first `k` selected objects, in their order and once for each
  place, by the type of the pruner. -/
  asked : (deletions pass.trace).map (fun d => (d.type, d.object)) =
    (selection.take k).map fun o => (p.type, o)
  /-- Each deletion comes right after the hook, where there is one, passed its object.  After the
  last deletion the hook runs for at most the next object. -/
  hooks : ∃ last, removals pass.trace = (deletions pass.trace).flatMap p.removalCalls ++ last ∧
    (last = [] ∨ ∃ o answer, selection[k]? = some o ∧ last = [.hooked o answer])
  /-- A pass that ends well has deleted its selection and returns it. -/
  ok : ∀ returned, pass.outcome = .ok returned →
    k = selection.length ∧ returned = selection ∧
      ∀ d ∈ deletions pass.trace, d.answer = some (.ok ())
  /-- A failed deletion is the last one, and the error is about its object. -/
  delete : ∀ resource deleted source, pass.outcome = .error (.delete resource deleted source) →
    ∃ j o, k = j + 1 ∧ selection[j]? = some o ∧ resource = o.key ∧
      deleted = (selection.take j).map Object.key ∧
      (deletions pass.trace).map Deletion.answer =
        List.replicate j (some (.ok ())) ++ [some (.error source)]
  /-- The object that the hook refuses comes next and is not sent to the store. -/
  preDelete : ∀ resource deleted text, pass.outcome = .error (.preDelete resource deleted text) →
    ∃ o, selection[k]? = some o ∧ resource = o.key ∧
      deleted = (selection.take k).map Object.key ∧
      (deletions pass.trace).map Deletion.answer = List.replicate k (some (.ok ()))
  /-- A pass is cancelled between two deletions, or during the last one. -/
  cancelled : ∀ deleted, pass.outcome = .error (.cancelled deleted) →
    deleted = goneKeys pass.trace ∧ ∃ j, deleted = (selection.take j).map Object.key ∧
      ((deletions pass.trace).map Deletion.answer = List.replicate j (some (.ok ())) ∨
        (deletions pass.trace).map Deletion.answer =
          List.replicate j (some (.ok ())) ++ [none])
  /-- Whatever stops the pass carries the keys of the objects that the store says are gone. -/
  stopped : ∀ e, pass.outcome = .error e → e.deleted = goneKeys pass.trace ∧
    ((∃ resource source, e = .delete resource e.deleted source) ∨
      (∃ resource text, e = .preDelete resource e.deleted text) ∨ e = .cancelled e.deleted)

/-- However a real pass ends after its strategy selected objects, its deletions are accounted for. -/
theorem exists_account (p : Pruner σ) (store : Store σ) (scene : Scene σ)
    (real : p.dryRun = false) {candidates selection : List Object}
    (selected : .selected candidates (.ok selection) ∈ ((p.prune store).run scene).trace) :
    ∃ k ≤ selection.length, p.Account selection k ((p.prune store).run scene) := by
  obtain ⟨middle, first, left, -, removal, returns, ends, -, same⟩ :=
    (prune_course store scene).removal_of_selected real selected
  generalize (p.prune store).run scene = pass at returns ends same ⊢
  have calls : deletions pass.trace = deletions left.trace := by
    rw [← deletions_removals, same, deletions_removals]
  have tally := removal.tally
  rw [← calls] at tally
  have hooks := removal.removals_eq
  rw [← calls, ← same] at hooks
  refine ⟨(deletions pass.trace).length, tally.length_le, ?_⟩
  constructor
  case asked => exact tally.asked
  case hooks => exact hooks
  case ok =>
    intro returned ok
    obtain ⟨rfl, ending⟩ := returns returned ok
    rw [ending] at tally
    rw [tally.of_ok]
    refine ⟨List.length_map _, rfl, ?_⟩
    intro d mem
    obtain ⟨o, -, rfl⟩ := List.mem_map.mp mem
    rfl
  case delete =>
    intro resource deleted source stops
    rw [ends _ stops] at tally
    simpa using tally.of_delete
  case preDelete =>
    intro resource deleted text stops
    rw [ends _ stops] at tally
    simpa using tally.of_preDelete
  case cancelled =>
    intro deleted stops
    rw [ends _ stops] at tally
    exact ⟨tally.deleted_eq, by simpa using tally.of_cancelled⟩
  case stopped =>
    intro e stops
    rw [ends _ stops] at tally
    exact ⟨tally.deleted_eq, tally.stopped⟩

end Pruner

/-! ## A rehearsed pass -/

namespace Rehearsed

/-- An object as a store can list it: a name, a second of creation, and nothing else. -/
def bare (name : String) (second : Int) : Object :=
  ⟨none, { Metadata.blank with name := some name, createdAt := Instant.of? second 0 }, .null⟩

/-- The same object once it is known to be a pod. -/
def pod (name : String) (second : Int) : Object :=
  { bare name second with types := some (.ofType .pod), data := .object [] }

/-- A pruner of the pods created before 1970 that asks a hook. -/
def pruner : Pruner Stage :=
  { Pruner.ofStrategy (.olderThan .epoch) Stage.now with
    registry := .empty
    hook := some (HookPlan.hook Stage.journal ⟨[], []⟩) }

/-- Two old pods, of which the store fails to delete the second, and a new one. -/
def stage : Stage :=
  { Stage.start [bare "a" (-2), bare "b" (-1), bare "c" 1] .epoch with
    deleteFaults := [("b", .failing "held")] }

end Rehearsed

namespace Pruner

open Rehearsed in
theorem exists_account_rehearsed :
    Rehearsed.pruner.dryRun = false ∧
      .selected [pod "a" (-2), pod "b" (-1), pod "c" 1] (.ok [pod "a" (-2), pod "b" (-1)]) ∈
        ((Rehearsed.pruner.prune Stage.store).run ⟨stage, .quiet⟩).trace ∧
      ((Rehearsed.pruner.prune Stage.store).run ⟨stage, .quiet⟩).outcome =
        .error (.delete ⟨none, "b"⟩ [⟨none, "a"⟩] (.other "held")) ∧
      Rehearsed.pruner.Account [pod "a" (-2), pod "b" (-1)] 2
        ((Rehearsed.pruner.prune Stage.store).run ⟨stage, .quiet⟩) := by
  have selected :
      .selected [pod "a" (-2), pod "b" (-1), pod "c" 1] (.ok [pod "a" (-2), pod "b" (-1)]) ∈
        ((Rehearsed.pruner.prune Stage.store).run ⟨stage, .quiet⟩).trace :=
    List.mem_of_getElem? (i := 5) rfl
  have outcome : ((Rehearsed.pruner.prune Stage.store).run ⟨stage, .quiet⟩).outcome =
      .error (.delete ⟨none, "b"⟩ [⟨none, "a"⟩] (.other "held")) := by rfl
  obtain ⟨k, -, account⟩ := exists_account Rehearsed.pruner Stage.store ⟨stage, .quiet⟩ rfl selected
  obtain ⟨j, o, rfl, -, -, deleted, -⟩ := account.delete _ _ _ outcome
  -- One object was deleted before the one that failed.
  have before : j = 1 := by
    match j with
    | 0 => cases deleted
    | 1 => rfl
    | j + 2 => cases deleted
  subst before
  exact ⟨rfl, selected, outcome, account⟩

end Pruner

end Retention
