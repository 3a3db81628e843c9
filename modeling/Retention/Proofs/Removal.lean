import Retention.Proofs.Trace

/-!
# How a selection is removed

`Attempt` lists the ways in which the deletion of one object can go, each with the scene it leaves
and its trace, and `Removal` those of a whole selection.  The functions that run them take one of
these ways (`deleteOne_attempt`, `deleteAll_removal`); what holds of every removal is shown by
induction on the relation, with no look at the functions.
-/

namespace Retention

variable {σ : Type}

namespace Pruner

variable (p : Pruner σ)

/-! ## One object -/

/-- The hook is asked about an object: its answer, and the scene and the trace it leaves.  Without a
hook the answer is yes. -/
inductive HookRun (o : Object) (scene : Scene σ) :
    Except String Unit → Scene σ → List Event → Prop
  | absent : p.hook = none → HookRun o scene (.ok ()) scene []
  | asked {hook : Hook σ} {reply : Reply σ (Except String Unit)} :
    p.hook = some hook → (hook o).run scene.state = reply →
    HookRun o scene reply.answer (scene.called reply)
      (.hooked o reply.answer :: reply.log.map .noted)

/-- The call of the hook, where there is one, with its answer. -/
def hookCalls (o : Object) (answer : Except String Unit) : List Event :=
  match p.hook with
  | none => []
  | some _ => [.hooked o answer]

/-- The ways in which the deletion of an object can go, after those with the keys in `deleted`. -/
inductive Attempt (store : Store σ) (o : Object) (deleted : List ResourceKey) (scene : Scene σ) :
    Progress σ Unit → Prop
  /-- The token has fired before. -/
  | cancelledBefore :
    scene.token.hasFired = true →
    Attempt store o deleted scene
      ⟨.error (.cancelled deleted), scene.looked,
        [.reported (.cancelledBeforeDeletion deleted.length)]⟩
  /-- The hook prevents it. -/
  | refused {text : String} {after : Scene σ} {trace : List Event} :
    scene.token.hasFired = false →
    p.HookRun o scene.looked (.error text) after trace →
    Attempt store o deleted scene
      ⟨.error (.preDelete o.key deleted text), after,
        trace ++ [.reported (.hookFailed o.key text)]⟩
  /-- The token has fired by the time the hook has passed the object. -/
  | cancelledAfterHook {after : Scene σ} {trace : List Event} :
    scene.token.hasFired = false →
    p.HookRun o scene.looked (.ok ()) after trace → after.token.hasFired = true →
    Attempt store o deleted scene
      ⟨.error (.cancelled deleted), after,
        trace ++ [.reported (.cancelledDuringDeletion o.key deleted.length)]⟩
  /-- The token fires while the store deletes it. -/
  | givenUp {after : Scene σ} {trace : List Event} {reply : Reply σ (Awaited Unit)} :
    scene.token.hasFired = false →
    p.HookRun o scene.looked (.ok ()) after trace → after.token.hasFired = false →
    (store.delete p.type o).run after.state = reply → reply.answer = none →
    Attempt store o deleted scene
      ⟨.error (.cancelled deleted), after.awaited reply,
        trace ++ .deleted p.type o none :: reply.log.map .noted ++
          [.reported (.cancelledDuringDeletion o.key deleted.length)]⟩
  /-- The store fails. -/
  | failed {e : StoreError} {after : Scene σ} {trace : List Event}
    {reply : Reply σ (Awaited Unit)} :
    scene.token.hasFired = false →
    p.HookRun o scene.looked (.ok ()) after trace → after.token.hasFired = false →
    (store.delete p.type o).run after.state = reply → reply.answer = some (.error e) →
    Attempt store o deleted scene
      ⟨.error (.delete o.key deleted e), after.awaited reply,
        trace ++ .deleted p.type o (some (.error e)) :: reply.log.map .noted ++
          [.reported (.deleteFailed o.key e)]⟩
  /-- It is deleted. -/
  | gone {after : Scene σ} {trace : List Event} {reply : Reply σ (Awaited Unit)} :
    scene.token.hasFired = false →
    p.HookRun o scene.looked (.ok ()) after trace → after.token.hasFired = false →
    (store.delete p.type o).run after.state = reply → reply.answer = some (.ok ()) →
    Attempt store o deleted scene
      ⟨.ok (), after.awaited reply,
        trace ++ .deleted p.type o (some (.ok ())) :: reply.log.map .noted ++
          [.reported (.deleted o.key)]⟩

variable {p}

/-- What comes of the hook's answer. -/
theorem hooked_hookRun (o : Object) (deleted : List ResourceKey) (scene : Scene σ) :
    ∃ answer after trace, p.HookRun o scene answer after trace ∧
      (p.hooked o deleted).run scene =
        match answer with
        | .ok () => ⟨.ok (), after, trace⟩
        | .error text =>
          ⟨.error (.preDelete o.key deleted text), after,
            trace ++ [.reported (.hookFailed o.key text)]⟩ := by
  unfold hooked
  cases present : p.hook with
  | none => exact ⟨_, _, _, .absent present, rfl⟩
  | some hook =>
    refine ⟨_, _, _, .asked present rfl, ?_⟩
    simp only
    rw [Pass.run_bind_of_ok (Pass.run_call rfl)]
    split
    next text answer => simp only [answer]; rfl
    next answer =>
      simp only [answer]
      simp only [Pass.run, Pass.done, Progress.after, List.append_nil]

/-- The deletion of an object goes one of the ways of `Attempt`. -/
theorem deleteOne_attempt (store : Store σ) (o : Object) (deleted : List ResourceKey)
    (scene : Scene σ) :
    p.Attempt store o deleted scene ((p.deleteOne store o deleted).run scene) := by
  have looked : (Pass.fired : Pass σ Bool).run scene =
      ⟨.ok scene.token.hasFired, scene.looked, []⟩ := rfl
  unfold deleteOne
  rw [Pass.run_bind_of_ok looked]
  cases before : scene.token.hasFired with
  | true => exact .cancelledBefore before
  | false =>
    obtain ⟨answer, after, trace, hook, hooked⟩ := hooked_hookRun (p := p) o deleted scene.looked
    cases answer with
    | error text =>
      simp only [Bool.false_eq_true, if_false]
      rw [Pass.run_bind_of_error hooked]
      exact .refused before hook
    | ok _ =>
      simp only [Bool.false_eq_true, if_false]
      rw [Pass.run_bind_of_ok hooked]
      cases later : after.token.hasFired with
      | true =>
        rw [Pass.run_bind_of_ok (Pass.run_await_of_hasFired later)]
        exact .cancelledAfterHook before hook later
      | false =>
        rw [Pass.run_bind_of_ok (Pass.run_await_of_quiet later rfl)]
        split
        next answer =>
          rw [answer]
          simpa [Progress.after, Pass.run, Pass.reportStop] using
            Attempt.givenUp before hook later rfl answer
        next e answer =>
          rw [answer]
          simpa [Progress.after, Pass.run, Pass.reportStop] using
            Attempt.failed before hook later rfl answer
        next answer =>
          rw [answer]
          simpa [Progress.after, Pass.run, Pass.report] using
            Attempt.gone before hook later rfl answer

section Views

variable {store : Store σ} {o : Object} {deleted : List ResourceKey} {scene after : Scene σ}
  {trace : List Event}

theorem HookRun.removals_eq {answer : Except String Unit}
    (run : p.HookRun o scene answer after trace) : removals trace = p.hookCalls o answer := by
  cases run with
  | absent present => simp [hookCalls, present]
  | asked present _ => simp [hookCalls, present]

theorem HookRun.inquiries_eq {answer : Except String Unit}
    (run : p.HookRun o scene answer after trace) : inquiries trace = [] := by
  cases run with
  | absent _ => rfl
  | asked _ _ => simp

theorem HookRun.deletions_eq {answer : Except String Unit}
    (run : p.HookRun o scene answer after trace) : deletions trace = [] := by
  cases run with
  | absent _ => rfl
  | asked _ _ => simp

theorem HookRun.failures_eq {answer : Except String Unit}
    (run : p.HookRun o scene answer after trace) :
    failures trace = (Event.failure? (.hooked o answer)).toList := by
  cases run with
  | absent _ => rfl
  | asked _ _ => simp

theorem Attempt.inquiries_eq {r : Progress σ Unit} (attempt : p.Attempt store o deleted scene r) :
    inquiries r.trace = [] := by
  cases attempt with
  | cancelledBefore _ => simp
  | refused _ hook => simp [hook.inquiries_eq]
  | cancelledAfterHook _ hook _ => simp [hook.inquiries_eq]
  | givenUp _ hook _ _ _ => simp [hook.inquiries_eq]
  | failed _ hook _ _ _ => simp [hook.inquiries_eq]
  | gone _ hook _ _ _ => simp [hook.inquiries_eq]

/-- An attempt that lets the pass go on has deleted its object, once the hook passed it. -/
theorem Attempt.removals_of_ok (attempt : p.Attempt store o deleted scene ⟨.ok (), after, trace⟩) :
    removals trace = p.hookCalls o (.ok ()) ++ [.deleted p.type o (some (.ok ()))] := by
  cases attempt with
  | gone _ hook _ _ _ => simp [hook.removals_eq]

end Views

/-! ## A selection -/

/-- The ways in which the removal of a selection can go: one object after the other until an attempt
stops the pass. -/
inductive Removal (p : Pruner σ) (store : Store σ) :
    List Object → List ResourceKey → Scene σ → Progress σ Unit → Prop
  | finished {deleted : List ResourceKey} {scene : Scene σ} :
    Removal p store [] deleted scene ⟨.ok (), scene, []⟩
  | stopped {o : Object} {rest : List Object} {deleted : List ResourceKey}
    {scene after : Scene σ} {e : PruneError} {trace : List Event} :
    p.Attempt store o deleted scene ⟨.error e, after, trace⟩ →
    Removal p store (o :: rest) deleted scene ⟨.error e, after, trace⟩
  | next {o : Object} {rest : List Object} {deleted : List ResourceKey}
    {scene after : Scene σ} {trace : List Event} {r : Progress σ Unit} :
    p.Attempt store o deleted scene ⟨.ok (), after, trace⟩ →
    Removal p store rest (deleted ++ [o.key]) after r →
    Removal p store (o :: rest) deleted scene (r.after trace)

/-- The removal of a selection is no inquiry. -/
theorem Removal.inquiries_eq {store : Store σ} {selection : List Object}
    {deleted : List ResourceKey} {scene : Scene σ} {r : Progress σ Unit}
    (removal : p.Removal store selection deleted scene r) : inquiries r.trace = [] := by
  induction removal with
  | finished => rfl
  | stopped attempt => exact attempt.inquiries_eq
  | next attempt _ ih => simpa [Progress.after, ih] using attempt.inquiries_eq

theorem Removal.selections_eq {store : Store σ} {selection : List Object}
    {deleted : List ResourceKey} {scene : Scene σ} {r : Progress σ Unit}
    (removal : p.Removal store selection deleted scene r) : selections r.trace = [] := by
  rw [← selections_inquiries, removal.inquiries_eq]
  rfl

/-- The removal of a selection goes one of the ways of `Removal`. -/
theorem deleteAll_removal (store : Store σ) (selection : List Object)
    (deleted : List ResourceKey) (scene : Scene σ) :
    p.Removal store selection deleted scene ((p.deleteAll store selection deleted).run scene) := by
  induction selection generalizing deleted scene with
  | nil => exact .finished
  | cons o rest ih =>
    have attempt := deleteOne_attempt (p := p) store o deleted scene
    unfold deleteAll
    generalize first : (p.deleteOne store o deleted).run scene = r at attempt
    obtain ⟨outcome, after, trace⟩ := r
    cases outcome with
    | error e =>
      rw [Pass.run_bind_of_error first]
      exact .stopped attempt
    | ok _ =>
      rw [Pass.run_bind_of_ok first]
      exact .next attempt (ih (deleted ++ [o.key]) after)

end Pruner

end Retention
