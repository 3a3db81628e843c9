import Retention.Proofs.Course
import Retention.Proofs.Selection
import Retention.Rehearsal.Stage

/-!
# Stores in memory

A store in memory lists the objects it holds, and a deletion takes the objects with one key from
them or fails and leaves them as they are.  `Pruner.InMemory` says so of a store, by a function
`held` from the state of the surroundings to the held objects, and that nothing but deletions
changes them.  Then the choice of a selection leaves the held objects alone, and its removal takes
the objects of a beginning of the selection from them (`Removal.exists_held`).
-/

namespace Retention

variable {σ : Type}

/-! ## Fewer objects -/

@[simp]
theorem withoutKeys_nil (objects : List Object) : withoutKeys [] objects = objects := by
  simp [withoutKeys]

theorem withoutKeys_cons (key : ResourceKey) (keys : List ResourceKey) (objects : List Object) :
    withoutKeys keys (withoutKeys [key] objects) = withoutKeys (key :: keys) objects := by
  rw [withoutKeys, withoutKeys, List.filter_filter, withoutKeys]
  congr 1
  funext o
  simp [Bool.and_comm]

namespace Pruner

/-- The store holds objects in memory: it lists all of them, and only its deletions change them. -/
structure InMemory (p : Pruner σ) (store : Store σ) (held : σ → List Object) : Prop where
  list : ∀ s listed, ((store.list p.request).run s).answer = some (.ok listed) → listed = held s
  listKeeps : ∀ s, held ((store.list p.request).run s).state = held s
  gone : ∀ o s, ((store.delete p.type o).run s).answer = some (.ok ()) →
    held ((store.delete p.type o).run s).state = withoutKeys [o.key] (held s)
  failed : ∀ o s e, ((store.delete p.type o).run s).answer = some (.error e) →
    held ((store.delete p.type o).run s).state = held s
  /-- Of a deletion that is given up it is not known whether it had its effect. -/
  givenUp : ∀ o s, ((store.delete p.type o).run s).answer = none →
    held ((store.delete p.type o).run s).state = held s ∨
      held ((store.delete p.type o).run s).state = withoutKeys [o.key] (held s)
  judgeKeeps : ∀ o s, held ((p.registry.judge o).run s).state = held s
  hookKeeps : ∀ hook, p.hook = some hook → ∀ o s, held ((hook o).run s).state = held s

variable {p : Pruner σ} {store : Store σ} {held : σ → List Object} {scene after : Scene σ}
  {o : Object} {earlier : List ResourceKey} {trace : List Event}

section Held

variable (memory : p.InMemory store held)

include memory

/-! ## The choice -/

theorem Listing.held_eq {listed : List Object}
    (listing : p.Listing store scene ⟨.ok listed, after, trace⟩) :
    listed = held scene.state ∧ held after.state = held scene.state := by
  cases listing with
  | answered _ called answer =>
    subst called
    exact ⟨memory.list _ _ answer, memory.listKeeps _⟩

theorem Consideration.held_eq {r : Progress σ Bool} (consideration : p.Consideration o scene r) :
    held r.scene.state = held scene.state := by
  cases consideration with
  | preserved _ => rfl
  | prunable _ called _ | vetoed _ called _ | failed _ called _ _ =>
    subst called
    exact memory.judgeKeeps o scene.state

theorem Filtering.held_eq {listed : List Object} {r : Progress σ (List Object)}
    (filtering : p.Filtering listed scene r) : held r.scene.state = held scene.state := by
  induction filtering with
  | finished => rfl
  | mistyped _ => rfl
  | stopped _ consideration => exact consideration.held_eq memory
  | next _ consideration _ ih => exact ih.trans (consideration.held_eq memory)

/-! ## The removal -/

theorem HookRun.held_eq {answer : Except String Unit}
    (run : p.HookRun o scene answer after trace) : held after.state = held scene.state := by
  cases run with
  | absent _ => rfl
  | asked present called =>
    subst called
    exact memory.hookKeeps _ present o scene.state

/-- An attempt that lets the pass go on has taken its object from the held ones. -/
theorem Attempt.held_of_ok (attempt : p.Attempt store o earlier scene ⟨.ok (), after, trace⟩) :
    held after.state = withoutKeys [o.key] (held scene.state) := by
  cases attempt with
  | gone _ hook _ called answer =>
    subst called
    have before := hook.held_eq memory
    exact (memory.gone o _ answer).trans (congrArg _ before)

/-- An attempt that stops the pass has left the held objects alone, or it was given up while it took
its object from them. -/
theorem Attempt.held_of_error {e : PruneError}
    (attempt : p.Attempt store o earlier scene ⟨.error e, after, trace⟩) :
    held after.state = held scene.state ∧ e.deleted = earlier ∨
      held after.state = withoutKeys [o.key] (held scene.state) ∧ e = .cancelled earlier := by
  cases attempt with
  | cancelledBefore _ => exact .inl ⟨rfl, rfl⟩
  | refused _ hook | cancelledAfterHook _ hook _ =>
    have kept := hook.held_eq memory
    exact .inl ⟨kept, rfl⟩
  | givenUp _ hook _ called answer =>
    subst called
    have before := hook.held_eq memory
    rcases memory.givenUp o _ answer with kept | gone
    · exact .inl ⟨kept.trans before, rfl⟩
    · exact .inr ⟨gone.trans (congrArg _ before), rfl⟩
  | failed _ hook _ called answer =>
    subst called
    have before := hook.held_eq memory
    exact .inl ⟨(memory.failed o _ _ answer).trans before, rfl⟩

/-- The removal of a selection takes the objects of a beginning of it from the held ones.  The error
that stops it carries their keys, but for the last one where its deletion was given up. -/
theorem Removal.exists_held {selection : List Object} {r : Progress σ Unit}
    (removal : p.Removal store selection earlier scene r) :
    ∃ k ≤ selection.length,
      held r.scene.state = withoutKeys ((selection.take k).map Object.key) (held scene.state) ∧
      (r.outcome = .ok () → k = selection.length) ∧
      ∀ e, r.outcome = .error e →
        e.deleted = earlier ++ (selection.take k).map Object.key ∨
          ∃ j, k = j + 1 ∧ e = .cancelled (earlier ++ (selection.take j).map Object.key) := by
  -- `k` counts the attempts that had their effect, the one that was given up included.
  induction removal with
  | finished => exact ⟨0, le_rfl, by simp, fun _ => rfl, nofun⟩
  | @stopped o rest earlier scene after e trace attempt =>
    rcases attempt.held_of_error memory with ⟨kept, carried⟩ | ⟨gone, cancelled⟩
    · refine ⟨0, Nat.zero_le _, by simpa using kept, nofun, ?_⟩
      rintro _ ⟨⟩
      exact .inl (by simpa using carried)
    · refine ⟨1, Nat.le_add_left 1 rest.length, by simpa using gone, nofun, ?_⟩
      rintro _ ⟨⟩
      exact .inr ⟨0, rfl, by simpa using cancelled⟩
  | @next o rest earlier scene after trace r attempt _ ih =>
    obtain ⟨k, le, gone, finished, stopped⟩ := ih
    refine ⟨k + 1, Nat.succ_le_succ le, ?_, ?_, ?_⟩
    · change held r.scene.state = _
      rw [gone, attempt.held_of_ok memory, withoutKeys_cons, List.take_succ_cons, List.map_cons]
    · exact fun ok => congrArg Nat.succ (finished ok)
    · intro e ends
      rcases stopped e ends with carried | ⟨j, rfl, cancelled⟩
      · exact .inl (by simpa using carried)
      · exact .inr ⟨j + 1, rfl, by simpa using cancelled⟩

end Held

end Pruner

/-! ## The stage -/

namespace Stage

variable {α : Type}

theorem state_fire (s : Stage) : (fire.run s).state = s := by
  have read : (fire.run s).state = ((if s.holdsToken then Call.fire else pure ()).run s).state := rfl
  rw [read]
  cases s.holdsToken <;> rfl

/-- Whatever the fault of a call, it ends well with its effect, or does not end well and has none. -/
theorem faulted_cases (fault : Option Fault) (call : Call Stage α) (s : Stage) :
    (((faulted fault call).run s).answer = some (.ok (call.run s).answer) ∧
        ((faulted fault call).run s).state = (call.run s).state) ∨
      ((∀ a, ((faulted fault call).run s).answer ≠ some (.ok a)) ∧
        ((faulted fault call).run s).state = s) := by
  cases fault with
  | none => exact .inl ⟨rfl, rfl⟩
  | some fault =>
    cases fault with
    | failing text => exact .inr ⟨nofun, rfl⟩
    | firing =>
      have answer : ((faulted (some .firing) call).run s).answer =
        some (.ok (call.run (fire.run s).state).answer) := rfl
      have state : ((faulted (some .firing) call).run s).state =
        (call.run (fire.run s).state).state := rfl
      rw [state_fire] at answer state
      exact .inl ⟨answer, state⟩
    | stalling => exact .inr ⟨nofun, state_fire s⟩
    | firingAndFailing text => exact .inr ⟨nofun, state_fire s⟩

theorem found_without (request : ListRequest) (key : ResourceKey) (s : Stage) :
    found request (without key s) = withoutKeys [key] (found request s) := by
  have taken (objects : List Object) :
      objects.filter (fun o => o.key ≠ key) = withoutKeys [key] objects := by
    rw [withoutKeys]
    congr 1
    funext o
    simp
  unfold found without
  cases request.ns with
  | none => exact taken s.objects
  | some ns =>
    simp only
    rw [List.filter_comm]
    exact taken _

/-- The stage holds its objects in memory. -/
theorem inMemory (p : Pruner Stage)
    (judgeKeeps : ∀ o s,
      found p.request ((p.registry.judge o).run s).state = found p.request s)
    (hookKeeps : ∀ hook, p.hook = some hook → ∀ o s,
      found p.request ((hook o).run s).state = found p.request s) :
    p.InMemory store (found p.request) := by
  have listed (s : Stage) := faulted_cases s.listFault (.read (found p.request))
    ((record (.listed p.request)).run s).state
  have deleted (o : Object) (s : Stage) := faulted_cases (s.deleteFaults.lookup o.key.name)
    (.change (without o.key)) ((record (.deleted p.type o.key)).run s).state
  constructor
  case list =>
    intro s objects answer
    rcases listed s with ⟨ended, -⟩ | ⟨stopped, -⟩
    · exact Except.ok.inj (Option.some.inj (answer.symm.trans ended))
    · exact (stopped objects answer).elim
  case listKeeps =>
    intro s
    have kept : found p.request ((store.list p.request).run s).state =
        found p.request ((record (.listed p.request)).run s).state := by
      rcases listed s with ⟨-, state⟩ | ⟨-, state⟩
      · exact congrArg (found p.request) state
      · exact congrArg (found p.request) state
    exact kept
  case gone =>
    intro o s answer
    rcases deleted o s with ⟨-, state⟩ | ⟨stopped, -⟩
    · exact (congrArg (found p.request) state).trans (found_without p.request o.key _)
    · exact (stopped () answer).elim
  case failed =>
    intro o s e answer
    rcases deleted o s with ⟨ended, -⟩ | ⟨-, state⟩
    · cases answer.symm.trans ended
    · have kept := congrArg (found p.request) state
      exact kept
  case givenUp =>
    intro o s answer
    rcases deleted o s with ⟨ended, -⟩ | ⟨-, state⟩
    · cases answer.symm.trans ended
    · have kept := congrArg (found p.request) state
      exact .inl kept
  case judgeKeeps => exact judgeKeeps
  case hookKeeps => exact hookKeeps

end Stage

end Retention
