import Retention.Pruner.Prune

/-!
# Passes amid other surroundings

The code that a pass calls can be wrapped, all of it in the same way, so that it runs amid other
surroundings: ones that keep a record of its calls, or ones in which no call fires the token.  A
`Guise` is such a way, and a pruner and a store put on a guise part by part (`Pruner.guised`,
`Store.guised`).

The pass in a guise does what the plain pass does, up to the point where the plain one is cancelled
by a token that the other one did not see fire (`prune_follows`).  Where the guise lets every call
fire the token that fires it, the two passes are the same (`prune_alike`).
-/

namespace Retention

/-! ## Guises -/

/-- A way of making calls, and of leaving the event of each, amid other surroundings.  What is
called answers the same and does the same to what is left of its own surroundings, and where it does
not fire the token, it does not do so in the guise. -/
structure Guise (σ τ : Type) where
  /-- What the called code sees of the surroundings. -/
  plain : τ → σ
  call : {α : Type} → (α → Event) → Call σ α → Call τ α
  answer_call : ∀ {α : Type} (event : α → Event) (c : Call σ α) (t : τ),
    ((call event c).run t).answer = (c.run (plain t)).answer
  state_call : ∀ {α : Type} (event : α → Event) (c : Call σ α) (t : τ),
    plain ((call event c).run t).state = (c.run (plain t)).state
  log_call : ∀ {α : Type} (event : α → Event) (c : Call σ α) (t : τ),
    ((call event c).run t).log = (c.run (plain t)).log
  fired_of_call : ∀ {α : Type} (event : α → Event) (c : Call σ α) (t : τ),
    ((call event c).run t).fired = true → (c.run (plain t)).fired = true

variable {σ τ α β : Type}

/-- A call fires the token in the guise wherever it does so plainly. -/
def Guise.Loud (g : Guise σ τ) : Prop :=
  ∀ {α : Type} (event : α → Event) (c : Call σ α) (t : τ),
    ((g.call event c).run t).fired = (c.run (g.plain t)).fired

def Store.guised (store : Store σ) (g : Guise σ τ) : Store τ where
  list request := g.call (.listed request) (store.list request)
  delete type o := g.call (.deleted type o) (store.delete type o)

/-- The registry with its predicates in a guise. -/
def Registry.guised (r : Registry σ) (g : Guise σ τ) : Registry τ where
  entries := r.entries.map fun entry => (entry.1, fun o => g.call (.judged o) (entry.2 o))
  distinct := by
    rw [List.map_map]
    exact r.distinct

/-- The strategy with its function, where it has one, in a guise. -/
def Strategy.guised (strategy : Strategy σ) (g : Guise σ τ) : Strategy τ :=
  match strategy with
  | maxCount count => maxCount count
  | maxAge age => maxAge age
  | olderThan cutoff => olderThan cutoff
  | custom selector => custom <| selector.map fun select candidates =>
    g.call (fun answer => .selected candidates (answer.mapError .custom)) (select candidates)

/-- The pruner with all the code that it calls in a guise. -/
def Pruner.guised (p : Pruner σ) (g : Guise σ τ) : Pruner τ where
  type := p.type
  strategy := p.strategy.guised g
  registry := p.registry.guised g
  labels := p.labels
  ns := p.ns
  dryRun := p.dryRun
  respectPreserve := p.respectPreserve
  hook := p.hook.map fun hook o => g.call (.hooked o) (hook o)
  clock := p.clock ∘ g.plain

theorem Registry.find?_guised (r : Registry σ) (g : Guise σ τ) (t : TypeIdentifier) :
    (r.guised g).find? t =
      (r.find? t).map fun predicate o => g.call (.judged o) (predicate o) := by
  unfold find? guised
  simp only
  induction r.entries with
  | nil => rfl
  | cons entry rest ih =>
    rw [List.map_cons, List.lookup_cons, List.lookup_cons]
    cases t == entry.1 with
    | true => rfl
    | false => exact ih

@[simp]
theorem Strategy.mode_guised (strategy : Strategy σ) (g : Guise σ τ) :
    (strategy.guised g).mode = strategy.mode := by
  cases strategy <;> rfl

@[simp]
theorem Strategy.check_guised (strategy : Strategy σ) (g : Guise σ τ) :
    (strategy.guised g).check = strategy.check := by
  cases strategy with
  | custom selector => cases selector <;> rfl
  | _ => rfl

/-- A guise leaves the settings of a pruner alone. -/
@[simp]
theorem Pruner.check_guised (p : Pruner σ) (g : Guise σ τ) : (p.guised g).check = p.check := by
  have strategy : (p.guised g).strategy.check = p.strategy.check := p.strategy.check_guised g
  unfold check
  rw [strategy]
  rfl

/-! ## Calls in a guise -/

/-- A call does in a guise what another one does plainly. -/
structure Call.Follows (g : Guise σ τ) (plain : Call σ α) (guised : Call τ α) : Prop where
  answer : ∀ t, (guised.run t).answer = (plain.run (g.plain t)).answer
  state : ∀ t, g.plain (guised.run t).state = (plain.run (g.plain t)).state
  log : ∀ t, (guised.run t).log = (plain.run (g.plain t)).log
  fired : ∀ t, (guised.run t).fired = true → (plain.run (g.plain t)).fired = true
  loud : g.Loud → ∀ t, (guised.run t).fired = (plain.run (g.plain t)).fired

namespace Call.Follows

variable {g : Guise σ τ}

theorem call (event : α → Event) (c : Call σ α) : Follows g c (g.call event c) where
  answer := g.answer_call event c
  state := g.state_call event c
  log := g.log_call event c
  fired := g.fired_of_call event c
  loud := fun loud => loud event c

theorem answer_self (a : α) : Follows g (Call.answer a) (Call.answer a) where
  answer _ := rfl
  state _ := rfl
  log _ := rfl
  fired _ := id
  loud _ _ := rfl

/-- What is made of the answer of a call is no other call. -/
theorem map {plain : Call σ α} {guised : Call τ α} (follows : Follows g plain guised) (f : α → β) :
    Follows g (plain >>= fun a => pure (f a)) (guised >>= fun a => pure (f a)) where
  answer t := congrArg f (follows.answer t)
  state := follows.state
  log t := congrArg (· ++ []) (follows.log t)
  fired t fired := by
    have first : ((guised.run t).fired || false) = true := fired
    rw [Bool.or_false] at first
    change ((plain.run (g.plain t)).fired || false) = true
    rw [follows.fired t first, Bool.true_or]
  loud loud t := congrArg (· || false) (follows.loud loud t)

end Call.Follows

theorem Registry.judge_follows (r : Registry σ) (g : Guise σ τ) (o : Object) :
    (r.judge o).Follows g ((r.guised g).judge o) := by
  unfold judge
  cases o.type? with
  | none => exact .answer_self _
  | some t =>
    simp only [r.find?_guised g]
    cases r.find? t with
    | none => exact .answer_self _
    | some predicate => exact .call _ _

theorem Strategy.select_follows (strategy : Strategy σ) (g : Guise σ τ) (candidates : List Object)
    (now : Instant) :
    (strategy.select candidates now).Follows g ((strategy.guised g).select candidates now) := by
  cases strategy with
  | maxCount count => exact .answer_self _
  | maxAge age => exact .answer_self _
  | olderThan cutoff => exact .answer_self _
  | custom selector =>
    cases selector with
    | none => exact .answer_self _
    | some select => exact (Call.Follows.call _ (select candidates)).map _

/-! ## Tokens -/

namespace Token

@[simp]
theorem hasFired_ofFired (fired : Bool) : (ofFired fired).hasFired = fired := by
  cases fired <;> rfl

@[simp]
theorem looked_ofFired (fired : Bool) : (ofFired fired).looked = ofFired fired := by
  cases fired <;> rfl

@[simp]
theorem afterCall_ofFired (before during : Bool) :
    (ofFired before).afterCall during = ofFired (before || during) := by
  cases before <;> cases during <;> rfl

end Token

/-- The tokens of a plain pass and of one in a guise: what the second one has seen, the first one
has. -/
def Guise.Abreast (g : Guise σ τ) (plain guised : Token) : Prop :=
  ∃ a b, plain = .ofFired a ∧ guised = .ofFired b ∧ (b = true → a = true) ∧ (g.Loud → b = a)

section Tokens

variable {g : Guise σ τ} {plain guised : Token}

theorem Guise.abreast_ofFired (fired : Bool) : g.Abreast (.ofFired fired) (.ofFired fired) :=
  ⟨fired, fired, rfl, rfl, id, fun _ => rfl⟩

theorem Guise.Abreast.looked (abreast : g.Abreast plain guised) :
    g.Abreast plain.looked guised.looked := by
  obtain ⟨a, b, rfl, rfl, seen, loud⟩ := abreast
  exact ⟨a, b, Token.looked_ofFired a, Token.looked_ofFired b, seen, loud⟩

theorem Guise.Abreast.afterCall {during heard : Bool} (abreast : g.Abreast plain guised)
    (seen : heard = true → during = true) (loud : g.Loud → heard = during) :
    g.Abreast (plain.afterCall during) (guised.afterCall heard) := by
  obtain ⟨a, b, rfl, rfl, before, same⟩ := abreast
  refine ⟨a || during, b || heard, Token.afterCall_ofFired a during,
    Token.afterCall_ofFired b heard, ?_, ?_⟩
  · simp only [Bool.or_eq_true]
    exact Or.imp before seen
  · exact fun holds => congr (congrArg or (same holds)) (loud holds)

end Tokens

/-! ## Parts of a pass in a guise -/

/-- What a part of a plain pass comes to, and what the part comes to in a guise. -/
inductive Progress.Follows (g : Guise σ τ) (plain : Progress σ α) (guised : Progress τ α) : Prop
  | alike : guised.outcome = plain.outcome → guised.trace = plain.trace →
    g.plain guised.scene.state = plain.scene.state →
    g.Abreast plain.scene.token guised.scene.token → Follows g plain guised
  /-- The plain part is cancelled by a token that the other one does not see. -/
  | cancelled {deleted : List ResourceKey} : ¬ g.Loud →
    plain.outcome = .error (.cancelled deleted) → Follows g plain guised

/-- Parts that come to the same from any such surroundings. -/
def Pass.Follows (g : Guise σ τ) (plain : Pass σ α) (guised : Pass τ α) : Prop :=
  ∀ t k k', g.Abreast k k' → (plain.run ⟨g.plain t, k⟩).Follows g (guised.run ⟨t, k'⟩)

section Parts

variable {g : Guise σ τ}

theorem Progress.Follows.after {plain : Progress σ α} {guised : Progress τ α}
    (follows : plain.Follows g guised) (earlier : List Event) :
    (plain.after earlier).Follows g (guised.after earlier) := by
  cases follows with
  | alike outcome trace state abreast =>
    exact .alike outcome (congrArg (earlier ++ ·) trace) state abreast
  | cancelled quiet stops => exact .cancelled quiet stops

namespace Pass.Follows

theorem bind {first : Pass σ α} {second : Pass τ α} {next : α → Pass σ β} {later : α → Pass τ β}
    (follows : first.Follows g second) (rest : ∀ a, (next a).Follows g (later a)) :
    (first >>= next).Follows g (second >>= later) := by
  intro t k k' abreast
  have before := follows t k k' abreast
  generalize left : first.run ⟨g.plain t, k⟩ = r at before
  generalize right : second.run ⟨t, k'⟩ = q at before
  obtain ⟨ending, ⟨s, j⟩, trace⟩ := r
  obtain ⟨ending', ⟨u, j'⟩, trace'⟩ := q
  cases before with
  | cancelled quiet stops =>
    simp only at stops
    subst stops
    rw [Pass.run_bind_of_error left]
    exact .cancelled quiet rfl
  | alike outcome same state tokens =>
    simp only at outcome same state tokens
    subst outcome same state
    cases ending' with
    | error e =>
      rw [Pass.run_bind_of_error left, Pass.run_bind_of_error right]
      exact .alike rfl rfl rfl tokens
    | ok a =>
      rw [Pass.run_bind_of_ok left, Pass.run_bind_of_ok right]
      exact (rest a u j j' tokens).after trace'

theorem done (a : α) : Follows g (Pass.done a) (Pass.done a) :=
  fun _ _ _ abreast => .alike rfl rfl rfl abreast

theorem stop (e : PruneError) : Follows g (Pass.stop e : Pass σ α) (Pass.stop e) :=
  fun _ _ _ abreast => .alike rfl rfl rfl abreast

theorem report (notice : Notice) : Follows g (Pass.report notice) (Pass.report notice) :=
  fun _ _ _ abreast => .alike rfl rfl rfl abreast

theorem reportStop (notice : Notice) (e : PruneError) :
    Follows g (Pass.reportStop notice e : Pass σ α) (Pass.reportStop notice e) :=
  fun _ _ _ abreast => .alike rfl rfl rfl abreast

theorem read (f : σ → α) : Follows g (Pass.read f) (Pass.read (f ∘ g.plain)) :=
  fun _ _ _ abreast => .alike rfl rfl rfl abreast

theorem call {event : α → Event} {plain : Call σ α} {guised : Call τ α}
    (follows : plain.Follows g guised) :
    Follows g (Pass.call event plain) (Pass.call event guised) := by
  intro t k k' abreast
  rw [Pass.run_call rfl, Pass.run_call rfl]
  apply Progress.Follows.alike
  · exact congrArg Except.ok (follows.answer t)
  · simp only [follows.answer t, follows.log t]
  · exact follows.state t
  · exact abreast.afterCall (follows.fired t) fun loud => follows.loud loud t

/-- A look at the token, where the part that finds it fired stops the pass as cancelled. -/
theorem fired {notice : Notice} {deleted : List ResourceKey} {next : Pass σ α} {later : Pass τ α}
    (rest : next.Follows g later) :
    Follows g
      (Pass.fired >>= fun fired =>
        if fired then Pass.reportStop notice (.cancelled deleted) else next)
      (Pass.fired >>= fun fired =>
        if fired then Pass.reportStop notice (.cancelled deleted) else later) := by
  intro t k k' abreast
  have left : (Pass.fired : Pass σ Bool).run ⟨g.plain t, k⟩ =
    ⟨.ok k.hasFired, ⟨g.plain t, k.looked⟩, []⟩ := rfl
  have right : (Pass.fired : Pass τ Bool).run ⟨t, k'⟩ = ⟨.ok k'.hasFired, ⟨t, k'.looked⟩, []⟩ := rfl
  rw [Pass.run_bind_of_ok left, Pass.run_bind_of_ok right]
  have looked := abreast.looked
  obtain ⟨a, b, rfl, rfl, seen, loud⟩ := abreast
  simp only [Token.hasFired_ofFired]
  cases a with
  | true =>
    cases b with
    | true => exact .alike rfl rfl rfl looked
    | false => exact .cancelled (fun holds => nomatch loud holds) rfl
  | false =>
    cases b with
    | true => cases seen rfl
    | false => exact (rest t _ _ looked).after []

/-- A call that can be given up, where the part that has no answer of it stops the pass as
cancelled. -/
theorem await {event : Option α → Event} {plain : Call σ (Option α)} {guised : Call τ (Option α)}
    {next : Option α → Pass σ β} {later : Option α → Pass τ β} {notice : Notice}
    {deleted : List ResourceKey} (follows : plain.Follows g guised)
    (stops : next none = .reportStop notice (.cancelled deleted))
    (rest : ∀ answer, (next answer).Follows g (later answer)) :
    Follows g (Pass.await event plain >>= next) (Pass.await event guised >>= later) := by
  intro t k k' abreast
  have tokens := abreast
  obtain ⟨a, b, rfl, rfl, seen, loud⟩ := abreast
  cases a with
  | true =>
    rw [Pass.run_bind_of_ok (Pass.run_await_of_hasFired (Token.hasFired_ofFired true))]
    cases b with
    | true =>
      rw [Pass.run_bind_of_ok (Pass.run_await_of_hasFired (Token.hasFired_ofFired true))]
      exact (rest none t _ _ tokens).after []
    | false =>
      rw [stops]
      exact .cancelled (fun holds => nomatch loud holds) rfl
  | false =>
    cases b with
    | true => cases seen rfl
    | false =>
      rw [Pass.run_bind_of_ok (Pass.run_await_of_quiet (Token.hasFired_ofFired false) rfl),
        Pass.run_bind_of_ok (Pass.run_await_of_quiet (Token.hasFired_ofFired false) rfl)]
      simp only [Scene.awaited, follows.answer t, follows.log t, ← follows.state t]
      refine (rest _ _ _ _ ?_).after _
      refine tokens.looked.afterCall ?_ fun holds => ?_
      · simp only [Bool.or_eq_true]
        exact Or.imp_left (follows.fired t)
      · rw [follows.loud holds t]

end Pass.Follows

end Parts

/-! ## Passes in a guise -/

namespace Pruner

variable (p : Pruner σ) (store : Store σ) (g : Guise σ τ)

theorem listed_follows :
    (p.listed store).Follows g ((p.guised g).listed (store.guised g)) := by
  unfold listed
  refine .await (.call _ _) rfl fun answer => ?_
  cases answer with
  | none => exact .reportStop _ _
  | some answer =>
    cases answer with
    | error e => exact .reportStop _ _
    | ok objects => exact .done _

theorem considered_follows (o : Object) : (p.considered o).Follows g ((p.guised g).considered o) := by
  have same : (p.guised g).preserves o = p.preserves o := rfl
  unfold considered
  rw [same]
  split
  · exact .bind (.report _) fun _ => .done _
  · refine .bind (.call (p.registry.judge_follows g o)) fun verdict => ?_
    split
    · exact .done _
    · exact .bind (.report _) fun _ => .done _
    · exact .reportStop _ _

theorem candidates_follows (listed : List Object) :
    (p.candidates listed).Follows g ((p.guised g).candidates listed) := by
  induction listed with
  | nil => exact .done _
  | cons first rest ih =>
    have same : (p.guised g).type = p.type := rfl
    unfold candidates
    rw [same]
    cases first.coerce p.type with
    | error reported => exact .stop _
    | ok o =>
      refine .bind (p.considered_follows g o) fun keep => ?_
      exact .bind ih fun others => .done _

theorem selected_follows (count : Nat) (candidates : List Object) :
    (p.selected count candidates).Follows g ((p.guised g).selected count candidates) := by
  unfold selected
  refine .bind (.read p.clock) fun now => ?_
  refine .bind (.call (p.strategy.select_follows g candidates now)) fun answer => ?_
  cases answer with
  | error e => exact .reportStop _ _
  | ok selection => exact .bind (.report _) fun _ => .done _

theorem hooked_follows (o : Object) (deleted : List ResourceKey) :
    (p.hooked o deleted).Follows g ((p.guised g).hooked o deleted) := by
  have same : (p.guised g).hook = p.hook.map fun hook o => g.call (.hooked o) (hook o) := rfl
  unfold hooked
  rw [same]
  cases p.hook with
  | none => exact .done _
  | some hook =>
    refine .bind (.call (.call _ _)) fun answer => ?_
    cases answer with
    | error text => exact .reportStop _ _
    | ok _ => exact .done _

theorem deleteOne_follows (o : Object) (deleted : List ResourceKey) :
    (p.deleteOne store o deleted).Follows g
      ((p.guised g).deleteOne (store.guised g) o deleted) := by
  unfold deleteOne
  refine .fired (.bind (p.hooked_follows g o deleted) fun _ => ?_)
  refine .await (.call _ _) rfl fun answer => ?_
  cases answer with
  | none => exact .reportStop _ _
  | some answer =>
    cases answer with
    | error e => exact .reportStop _ _
    | ok _ => exact .report _

theorem deleteAll_follows (selection : List Object) (deleted : List ResourceKey) :
    (p.deleteAll store selection deleted).Follows g
      ((p.guised g).deleteAll (store.guised g) selection deleted) := by
  induction selection generalizing deleted with
  | nil => exact .done _
  | cons o rest ih => exact .bind (p.deleteOne_follows store g o deleted) fun _ => ih _

theorem wouldDelete_follows (selection : List Object) :
    (wouldDelete selection).Follows g (wouldDelete selection) := by
  induction selection with
  | nil => exact .done _
  | cons o rest ih => exact .bind (.report _) fun _ => ih

theorem removed_follows (selection : List Object) :
    (p.removed store selection).Follows g ((p.guised g).removed (store.guised g) selection) := by
  have same : (p.guised g).dryRun = p.dryRun := rfl
  unfold removed
  rw [same]
  split
  · exact .bind (wouldDelete_follows g selection) fun _ => .report _
  · exact .bind (p.deleteAll_follows store g selection []) fun _ => .report _

theorem chosen_follows : (p.chosen store).Follows g ((p.guised g).chosen (store.guised g)) := by
  have mode : (p.guised g).strategy.mode = p.strategy.mode := p.strategy.mode_guised g
  unfold chosen checked
  rw [check_guised, mode]
  refine .bind ?_ fun _ => .bind (.report _) fun _ => ?_
  · cases p.check with
    | error e => exact .stop _
    | ok _ => exact .done _
  · refine .bind (p.listed_follows store g) fun listed => ?_
    exact .bind (p.candidates_follows g listed) fun candidates => p.selected_follows g _ candidates

/-- A pass in a guise does what the plain pass does, unless the plain one is cancelled. -/
theorem prune_follows : (p.prune store).Follows g ((p.guised g).prune (store.guised g)) := by
  unfold prune
  refine .bind (p.chosen_follows store g) fun selection => ?_
  exact .bind (p.removed_follows store g selection) fun _ => .done _

variable {g} in
/-- Where the guise hides no firing of the token, the two passes are the same. -/
theorem prune_alike (loud : g.Loud) (t : τ) (fired : Bool) :
    let plain := (p.prune store).run ⟨g.plain t, .ofFired fired⟩
    let guised := ((p.guised g).prune (store.guised g)).run ⟨t, .ofFired fired⟩
    guised.outcome = plain.outcome ∧ guised.trace = plain.trace ∧
      g.plain guised.scene.state = plain.scene.state ∧ guised.scene.token = plain.scene.token := by
  cases p.prune_follows store g t _ _ (g.abreast_ofFired fired) with
  | cancelled quiet _ => exact (quiet loud).elim
  | alike outcome trace state abreast =>
    obtain ⟨a, b, plain, guised, -, same⟩ := abreast
    refine ⟨outcome, trace, state, ?_⟩
    rw [plain, guised, same loud]

end Pruner

end Retention
