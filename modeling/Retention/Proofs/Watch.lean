import Retention.Proofs.Guises
import Retention.Proofs.Trace

/-!
# Watched passes

A trace does not tell during which call the token fires.  The guise `watch` does: amid `Watched`
surroundings every call leaves a `Moment`, its event together with the word whether the token fired
while it ran.  `Keeps` relates these moments to the trace of the same part of a pass, and
`prune_kept` says that it holds of every watched pass.  What it is for are its consequences: a
store or hook call is made only while no moment has fired, the moments of these calls are those of
the trace, and the token has fired at the end exactly where some moment has.

The other guise here, `mute`, is the one in which no call fires the token.
-/

namespace Retention

/-! ## The two guises -/

/-- A call that a pass made, and whether the token fired while it ran. -/
structure Moment where
  event : Event
  fired : Bool

/-- Surroundings together with the calls made on them, the first one first. -/
structure Watched (σ : Type) where
  plain : σ
  moments : List Moment

namespace Event

/-- Whether the event is a call that was given up.  It was because the token fired while it ran. -/
@[simp]
def isAbandoned : Event → Bool
  | listed _ none | deleted _ _ none => true
  | _ => false

/-- The event, where it is a call that a pass does not make once its token has fired. -/
@[simp]
def guarded? : Event → Option Event
  | listed request answer => some (listed request answer)
  | hooked o answer => some (hooked o answer)
  | deleted type o answer => some (deleted type o answer)
  | _ => none

end Event

/-- The calls of the store and the hook. -/
abbrev guardedCalls (trace : List Event) : List Event := viewed Event.guarded? trace

variable {σ α β : Type}

/-- The moment of a call that has come to its end. -/
def Moment.of (event : α → Event) (reply : Reply σ α) : Moment :=
  ⟨event reply.answer, reply.fired || (event reply.answer).isAbandoned⟩

/-- The guise in which each call leaves its moment. -/
def watch (σ : Type) : Guise σ (Watched σ) where
  plain := Watched.plain
  call event c := fun watched =>
    let reply := c.run watched.plain
    ⟨reply.answer, ⟨reply.state, watched.moments ++ [.of event reply]⟩, reply.fired, reply.log⟩
  answer_call _ _ _ := rfl
  state_call _ _ _ := rfl
  log_call _ _ _ := rfl
  fired_of_call _ _ _ := id

theorem watch_loud : (watch σ).Loud := fun _ _ _ => rfl

/-- The guise in which no call fires the token. -/
def mute (σ : Type) : Guise σ σ where
  plain := id
  call _ c := fun s =>
    let reply := c.run s
    ⟨reply.answer, reply.state, false, reply.log⟩
  answer_call _ _ _ := rfl
  state_call _ _ _ := rfl
  log_call _ _ _ := rfl
  fired_of_call _ _ _ := nofun

/-- Where there are surroundings at all, a call can fire the token amid them. -/
theorem not_mute_loud (s : σ) : ¬ (mute σ).Loud := by
  intro loud
  cases loud (fun _ => .noted ⟨.info, "", []⟩) (Call.fire : Call σ Unit) s

/-! ## Moments and traces -/

/-- The moments of a part of a pass, against its trace.  The token has fired before and after it as
the two flags say. -/
inductive Keeps : Bool → List Moment → List Event → Bool → Prop
  | done {fired : Bool} : Keeps fired [] [] fired
  /-- An event that is no guarded call need not leave a moment. -/
  | untold {fired last : Bool} {event : Event} {moments : List Moment} {trace : List Event} :
    event.guarded? = none → Keeps fired moments trace last →
    Keeps fired moments (event :: trace) last
  /-- A guarded call is made only where the token has not fired. -/
  | told {fired last : Bool} {m : Moment} {moments : List Moment} {trace : List Event} :
    m.event.record? = none → (m.event.guarded?.isSome = true → fired = false) →
    Keeps (fired || m.fired) moments trace last →
    Keeps fired (m :: moments) (m.event :: trace) last

namespace Keeps

variable {fired middle last : Bool} {moments later : List Moment} {trace rest : List Event}
  {m : Moment}

theorem append (first : Keeps fired moments trace middle) (second : Keeps middle later rest last) :
    Keeps fired (moments ++ later) (trace ++ rest) last := by
  induction first with
  | done => exact second
  | untold free _ ih => exact .untold free (ih second)
  | told call guarded _ ih => exact .told call guarded (ih second)

/-- Records of the log leave no moments. -/
theorem of_records {notes : List Event} (records : ∀ n ∈ notes, n.record?.isSome = true) :
    Keeps fired [] notes fired := by
  induction notes with
  | nil => exact .done
  | cons note notes ih =>
    have free : note.guarded? = none := by
      have record := records note List.mem_cons_self
      cases note with
      | reported _ | noted _ => rfl
      | _ => cases record
    exact .untold free (ih fun n mem => records n (List.mem_cons_of_mem _ mem))

theorem noted (log : List LogRecord) : Keeps fired [] (log.map .noted) fired := by
  refine of_records fun n mem => ?_
  obtain ⟨record, -, rfl⟩ := List.mem_map.mp mem
  rfl

/-! ### What the moments tell -/

/-- The guarded calls among the moments are those of the trace. -/
theorem guardedCalls_eq (keeps : Keeps fired moments trace last) :
    guardedCalls (moments.map Moment.event) = guardedCalls trace := by
  induction keeps with
  | done => rfl
  | untold free _ ih => simp only [viewed_cons, free, ih, Option.toList_none, List.nil_append]
  | told _ _ _ ih => simp only [List.map_cons, viewed_cons, ih]

theorem mem_trace (keeps : Keeps fired moments trace last) (mem : m ∈ moments) :
    m.event ∈ trace ∧ m.event.record? = none := by
  induction keeps with
  | done => cases mem
  | untold _ _ ih => exact ⟨List.mem_cons_of_mem _ (ih mem).1, (ih mem).2⟩
  | told call _ _ ih =>
    rcases List.mem_cons.mp mem with rfl | mem
    · exact ⟨List.mem_cons_self, call⟩
    · exact ⟨List.mem_cons_of_mem _ (ih mem).1, (ih mem).2⟩

/-- The token has fired in the end where it had before or where a moment has. -/
theorem last_eq (keeps : Keeps fired moments trace last) :
    last = (fired || moments.any Moment.fired) := by
  induction keeps with
  | done => exact (Bool.or_false _).symm
  | untold _ _ ih => exact ih
  | told _ _ _ ih => rw [ih, List.any_cons, Bool.or_assoc]

/-- Before a guarded call the token has not fired. -/
theorem quiet {before after : List Moment} (keeps : Keeps fired (before ++ m :: after) trace last)
    (guarded : m.event.guarded?.isSome = true) :
    fired = false ∧ ∀ earlier ∈ before, earlier.fired = false := by
  generalize split : before ++ m :: after = moments at keeps
  induction keeps generalizing before with
  | done => cases before <;> cases split
  | untold _ _ ih => exact ih split
  | told _ silent _ ih =>
    cases before with
    | nil =>
      cases split
      exact ⟨silent guarded, List.forall_mem_nil _⟩
    | cons first before =>
      cases split
      obtain ⟨both, rest⟩ := ih rfl
      rw [Bool.or_eq_false_iff] at both
      refine ⟨both.1, fun earlier mem => ?_⟩
      rcases List.mem_cons.mp mem with rfl | mem
      · exact both.2
      · exact rest earlier mem

/-- A trace in two parts has moments in two parts. -/
theorem split (keeps : Keeps fired moments (trace ++ rest) last) :
    ∃ first second middle, moments = first ++ second ∧ Keeps fired first trace middle ∧
      Keeps middle second rest last := by
  induction trace generalizing fired moments with
  | nil => exact ⟨[], moments, fired, rfl, .done, keeps⟩
  | cons event trace ih =>
    cases keeps with
    | untold free keeps =>
      obtain ⟨first, second, middle, rfl, before, after⟩ := ih keeps
      exact ⟨first, second, middle, rfl, .untold free before, after⟩
    | told call guarded keeps =>
      obtain ⟨first, second, middle, rfl, before, after⟩ := ih keeps
      exact ⟨_ :: first, second, middle, rfl, .told call guarded before, after⟩

theorem eq_nil_of_records {notes : List Event} (keeps : Keeps fired moments notes last)
    (records : ∀ n ∈ notes, n.record?.isSome = true) : moments = [] := by
  cases moments with
  | nil => rfl
  | cons m _ =>
    obtain ⟨mem, call⟩ := keeps.mem_trace List.mem_cons_self
    have record := records _ mem
    rw [call] at record
    cases record

/-- A guarded call with nothing but records after it has the last moment. -/
theorem exists_last {event : Event} {notes : List Event}
    (keeps : Keeps fired moments (trace ++ event :: notes) last)
    (guarded : event.guarded?.isSome = true) (records : ∀ n ∈ notes, n.record?.isSome = true) :
    ∃ first m, moments = first ++ [m] ∧ m.event = event := by
  obtain ⟨first, second, middle, rfl, -, after⟩ := keeps.split
  cases after with
  | untold free _ =>
    rw [free] at guarded
    cases guarded
  | @told _ _ m _ _ _ _ after =>
    rw [after.eq_nil_of_records records]
    exact ⟨first, m, rfl, rfl⟩

end Keeps

/-! ## Parts of a watched pass -/

/-- What a part of a watched pass comes to: the moments that it adds are as its trace and its tokens
say. -/
def Progress.Kept (scene : Scene (Watched σ)) (r : Progress (Watched σ) α) : Prop :=
  ∀ fired, scene.token = .ofFired fired → ∃ moments last,
    r.scene.state.moments = scene.state.moments ++ moments ∧ r.scene.token = .ofFired last ∧
      Keeps fired moments r.trace last

/-- Parts of a pass of which this holds wherever they run. -/
def Pass.Kept (pass : Pass (Watched σ) α) : Prop :=
  ∀ scene, (pass.run scene).Kept scene

/-- A call that leaves its moment, or that leaves none and does not fire the token. -/
def Call.Kept (event : α → Event) (c : Call (Watched σ) α) : Prop :=
  ∀ w, (c.run w).state.moments = w.moments ++ [.of event (c.run w)] ∨
    (c.run w).state.moments = w.moments ∧ (c.run w).fired = false

theorem Progress.Kept.after {scene middle : Scene (Watched σ)} {ending : Except PruneError α}
    {trace : List Event} {r : Progress (Watched σ) β}
    (first : (⟨ending, middle, trace⟩ : Progress (Watched σ) α).Kept scene)
    (second : r.Kept middle) : (r.after trace).Kept scene := by
  intro fired token
  obtain ⟨moments, half, added, token, before⟩ := first fired token
  obtain ⟨later, last, more, token, after⟩ := second half token
  refine ⟨moments ++ later, last, ?_, token, before.append after⟩
  rw [← List.append_assoc, ← added]
  exact more

/-- A part that leaves the scene alone and only reports. -/
theorem Progress.kept_of_records {scene : Scene (Watched σ)} {ending : Except PruneError α}
    {notes : List Event} (records : ∀ n ∈ notes, n.record?.isSome = true) :
    (⟨ending, scene, notes⟩ : Progress (Watched σ) α).Kept scene :=
  fun fired token => ⟨[], fired, (List.append_nil _).symm, token, .of_records records⟩

namespace Pass.Kept

theorem bind {pass : Pass (Watched σ) α} {next : α → Pass (Watched σ) β} (first : pass.Kept)
    (rest : ∀ a, (next a).Kept) : (pass >>= next).Kept := by
  intro scene
  have before := first scene
  generalize ran : pass.run scene = r at before
  obtain ⟨ending, middle, trace⟩ := r
  cases ending with
  | error e =>
    rw [Pass.run_bind_of_error ran]
    exact before
  | ok a =>
    rw [Pass.run_bind_of_ok ran]
    exact before.after (rest a middle)

theorem done (a : α) : (Pass.done a : Pass (Watched σ) α).Kept :=
  fun _ => Progress.kept_of_records (List.forall_mem_nil _)

theorem stop (e : PruneError) : (Pass.stop e : Pass (Watched σ) α).Kept :=
  fun _ => Progress.kept_of_records (List.forall_mem_nil _)

theorem read (f : Watched σ → α) : (Pass.read f).Kept :=
  fun _ => Progress.kept_of_records (List.forall_mem_nil _)

theorem report (notice : Notice) : (Pass.report notice : Pass (Watched σ) Unit).Kept :=
  fun _ => Progress.kept_of_records (by simp [Event.record?])

theorem reportStop (notice : Notice) (e : PruneError) :
    (Pass.reportStop notice e : Pass (Watched σ) α).Kept :=
  fun _ => Progress.kept_of_records (by simp [Event.record?])

/-- A call that can be made after the token has fired. -/
theorem call {event : α → Event} {c : Call (Watched σ) α} (kept : c.Kept event)
    (free : ∀ a, (event a).guarded? = none) (calls : ∀ a, (event a).record? = none)
    (ends : ∀ a, (event a).isAbandoned = false) : (Pass.call event c).Kept := by
  intro scene fired token
  rw [Pass.run_call rfl]
  have after : (scene.called (c.run scene.state)).token =
      .ofFired (fired || (c.run scene.state).fired) := by
    rw [Scene.called, token, Token.afterCall_ofFired]
  rcases kept scene.state with added | ⟨none, silent⟩
  · refine ⟨_, _, added, after, .told (calls _) ?_ ?_⟩
    · rw [Moment.of, free]
      exact nofun
    · rw [Moment.of, ends, Bool.or_false]
      exact .noted _
  · refine ⟨[], _, none.trans (List.append_nil _).symm, after, ?_⟩
    rw [silent, Bool.or_false]
    exact .untold (free _) (Keeps.noted _)

/-- The moment of a guarded call that is made in time. -/
theorem guarded_call (event : α → Event) (c : Call σ α) {scene : Scene (Watched σ)}
    (after : Scene (Watched σ)) (quiet : scene.token.hasFired = false)
    (calls : ∀ a, (event a).record? = none)
    (state : after.state = (((watch σ).call event c).run scene.state).state)
    (token : ∀ fired, scene.token = .ofFired fired → after.token =
      .ofFired (fired || (Moment.of event (c.run scene.state.plain)).fired)) :
    (⟨.ok (c.run scene.state.plain).answer, after,
      event (c.run scene.state.plain).answer :: (c.run scene.state.plain).log.map .noted⟩ :
        Progress (Watched σ) α).Kept scene := by
  intro fired before
  have unfired : fired = false := by
    rw [before, Token.hasFired_ofFired] at quiet
    exact quiet
  refine ⟨[.of event (c.run scene.state.plain)], _, ?_, token fired before, ?_⟩
  · rw [state]
    rfl
  · exact .told (calls _) (fun _ => unfired) (Keeps.noted _)

/-- A call that can be given up is not made once the token has fired. -/
theorem await {event : Option α → Event} {c : Call σ (Option α)}
    (calls : ∀ a, (event a).record? = none) (abandoned : ∀ a, (event a).isAbandoned = a.isNone) :
    (Pass.await event ((watch σ).call event c)).Kept := by
  intro scene
  cases before : scene.token.hasFired with
  | true =>
    rw [Pass.run_await_of_hasFired before]
    exact Progress.kept_of_records (List.forall_mem_nil _)
  | false =>
    rw [Pass.run_await_of_quiet before rfl]
    refine guarded_call _ _ _ before calls rfl fun fired token => ?_
    simp only [Scene.awaited, Moment.of, token, Token.looked_ofFired, abandoned]
    exact Token.afterCall_ofFired _ _

/-- What comes after a look that finds the token quiet. -/
theorem fired {stopped next : Pass (Watched σ) α} (last : stopped.Kept)
    (rest : ∀ scene : Scene (Watched σ), scene.token.hasFired = false → (next.run scene).Kept scene) :
    (Pass.fired >>= fun fired => if fired then stopped else next).Kept := by
  intro scene
  have looked : (Pass.fired : Pass (Watched σ) Bool).run scene =
      ⟨.ok scene.token.hasFired, scene.looked, []⟩ := rfl
  have look : (⟨.ok scene.token.hasFired, scene.looked, []⟩ :
      Progress (Watched σ) Bool).Kept scene := by
    intro fired token
    refine ⟨[], fired, (List.append_nil _).symm, ?_, .done⟩
    simp only [Scene.looked, token, Token.looked_ofFired]
  rw [Pass.run_bind_of_ok looked]
  cases before : scene.token.hasFired with
  | true =>
    rw [before] at look
    exact look.after (last scene.looked)
  | false =>
    rw [before] at look
    intro fired token
    refine look.after (rest scene.looked ?_) fired token
    rw [token, Token.hasFired_ofFired] at before
    rw [Scene.looked, token, Token.looked_ofFired, Token.hasFired_ofFired, before]

end Pass.Kept

/-! ## Watched passes -/

theorem Call.kept_watch (event : α → Event) (c : Call σ α) :
    ((watch σ).call event c).Kept event :=
  fun _ => .inl rfl

theorem Call.kept_answer (event : α → Event) (a : α) :
    (Call.answer a : Call (Watched σ) α).Kept event :=
  fun _ => .inr ⟨rfl, rfl⟩

theorem Registry.judge_kept (r : Registry σ) (o : Object) :
    ((r.guised (watch σ)).judge o).Kept (.judged o) := by
  unfold judge
  cases o.type? with
  | none => exact Call.kept_answer _ _
  | some t =>
    simp only [r.find?_guised]
    cases r.find? t with
    | none => exact Call.kept_answer _ _
    | some predicate => exact Call.kept_watch _ _

theorem Strategy.select_kept (strategy : Strategy σ) (candidates : List Object) (now : Instant) :
    ((strategy.guised (watch σ)).select candidates now).Kept (.selected candidates) := by
  cases strategy with
  | maxCount count => exact Call.kept_answer _ _
  | maxAge age => exact Call.kept_answer _ _
  | olderThan cutoff => exact Call.kept_answer _ _
  | custom selector =>
    cases selector with
    | none => exact Call.kept_answer _ _
    | some select =>
      refine fun w => .inl ?_
      change w.moments ++ [_] = w.moments ++ [_]
      congr 2
      exact congrArg (Moment.mk _) (Bool.or_false _).symm

namespace Pruner

variable (p : Pruner σ) (store : Store σ)

theorem listed_kept : ((p.guised (watch σ)).listed (store.guised (watch σ))).Kept := by
  unfold listed
  refine .bind (.await (fun _ => rfl) fun answer => by cases answer <;> rfl) fun answer => ?_
  cases answer with
  | none => exact .reportStop _ _
  | some answer =>
    cases answer with
    | error e => exact .reportStop _ _
    | ok objects => exact .done _

theorem considered_kept (o : Object) : ((p.guised (watch σ)).considered o).Kept := by
  unfold considered
  split
  · exact .bind (.report _) fun _ => .done _
  · refine .bind (.call (p.registry.judge_kept o) (fun _ => rfl) (fun _ => rfl) fun _ => rfl)
      fun verdict => ?_
    split
    · exact .done _
    · exact .bind (.report _) fun _ => .done _
    · exact .reportStop _ _

theorem candidates_kept (listed : List Object) : ((p.guised (watch σ)).candidates listed).Kept := by
  induction listed with
  | nil => exact .done _
  | cons first rest ih =>
    unfold candidates
    split
    · exact .stop _
    · exact .bind (p.considered_kept _) fun keep => .bind ih fun others => .done _

theorem selected_kept (count : Nat) (candidates : List Object) :
    ((p.guised (watch σ)).selected count candidates).Kept := by
  unfold selected
  refine .bind (.read _) fun now => ?_
  refine .bind (.call (p.strategy.select_kept candidates now) (fun _ => rfl) (fun _ => rfl)
    fun _ => rfl) fun answer => ?_
  cases answer with
  | error e => exact .reportStop _ _
  | ok selection => exact .bind (.report _) fun _ => .done _

/-- The hook is a guarded call only where the token has been looked at. -/
theorem hooked_kept (o : Object) (deleted : List ResourceKey) {scene : Scene (Watched σ)}
    (quiet : scene.token.hasFired = false) :
    (((p.guised (watch σ)).hooked o deleted).run scene).Kept scene := by
  have same : (p.guised (watch σ)).hook =
    p.hook.map fun hook o => (watch σ).call (.hooked o) (hook o) := rfl
  unfold hooked
  rw [same]
  cases p.hook with
  | none => exact Pass.Kept.done () scene
  | some hook =>
    have asked := Pass.Kept.guarded_call (.hooked o) (hook o)
      (scene.called (((watch σ).call (.hooked o) (hook o)).run scene.state)) quiet (fun _ => rfl) rfl
      fun fired token => by
        rw [Scene.called, token, Token.afterCall_ofFired]
        exact congrArg (Token.ofFired <| fired || ·) (Bool.or_false _).symm
    simp only [Option.map_some]
    rw [Pass.run_bind_of_ok (Pass.run_call rfl)]
    refine asked.after ?_
    split
    · exact Pass.Kept.reportStop _ _ _
    · exact Pass.Kept.done () _

theorem deleteOne_kept (o : Object) (deleted : List ResourceKey) :
    ((p.guised (watch σ)).deleteOne (store.guised (watch σ)) o deleted).Kept := by
  unfold deleteOne
  refine .fired (.reportStop _ _) fun scene quiet => ?_
  have before := p.hooked_kept o deleted quiet
  generalize ran : ((p.guised (watch σ)).hooked o deleted).run scene = r at before
  obtain ⟨ending, middle, trace⟩ := r
  cases ending with
  | error e =>
    rw [Pass.run_bind_of_error ran]
    exact before
  | ok _ =>
    rw [Pass.run_bind_of_ok ran]
    refine before.after (Pass.Kept.bind (.await (fun _ => rfl) fun answer => ?_) ?_ middle)
    · cases answer <;> rfl
    · intro answer
      cases answer with
      | none => exact .reportStop _ _
      | some answer =>
        cases answer with
        | error e => exact .reportStop _ _
        | ok _ => exact .report _

theorem deleteAll_kept (selection : List Object) (deleted : List ResourceKey) :
    ((p.guised (watch σ)).deleteAll (store.guised (watch σ)) selection deleted).Kept := by
  induction selection generalizing deleted with
  | nil => exact .done _
  | cons o rest ih => exact .bind (p.deleteOne_kept store o deleted) fun _ => ih _

theorem wouldDelete_kept (selection : List Object) :
    (wouldDelete selection : Pass (Watched σ) Unit).Kept := by
  induction selection with
  | nil => exact .done _
  | cons o rest ih => exact .bind (.report _) fun _ => ih

/-- The moments of a watched pass are as its trace and its tokens say. -/
theorem prune_kept : ((p.guised (watch σ)).prune (store.guised (watch σ))).Kept := by
  unfold prune
  refine .bind ?_ fun selection => .bind ?_ fun _ => .done _
  · unfold chosen checked
    refine .bind ?_ fun _ => .bind (.report _) fun _ => ?_
    · cases (p.guised (watch σ)).check with
      | error e => exact .stop _
      | ok _ => exact .done _
    · refine .bind (p.listed_kept store) fun listed => ?_
      exact .bind (p.candidates_kept listed) fun candidates => p.selected_kept _ candidates
  · unfold removed
    split
    · exact .bind (wouldDelete_kept selection) fun _ => .report _
    · exact .bind (p.deleteAll_kept store selection []) fun _ => .report _

end Pruner

end Retention
