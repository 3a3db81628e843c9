import Retention.Proofs.Pages
import Retention.Proofs.Verdicts
import Retention.Rehearsal.Responder

/-!
# The order in which objects are listed

Two passes whose stores list the same objects, in any two orders and split into any pages, select the
same objects, as long as no object stops a pass and no two objects share a key.  Each pass selects
what its strategy selects among the survivors of what is listed (`Meets.chooses`), and neither the
survivors nor the selection depend on the order, but for the order in which objects are selected.
-/

namespace Retention

variable {σ : Type}

namespace Pruner

variable {p q : Pruner σ} {store : Store σ} {scene : Scene σ} {verdict : Object → Verdict}
  {now : Instant} {listed : List Object} {r : Progress σ (List Object)}

/-! ## One pass -/

/-- What a pass meets: its settings are valid, its token is quiet when it asks, the store supplies
these objects, the registry gives these verdicts, and the clock shows this instant.  A strategy that
selects by itself leaves the state alone, so what the clock showed can be read off afterwards. -/
structure Meets (p : Pruner σ) (store : Store σ) (scene : Scene σ) (verdict : Object → Verdict)
    (now : Instant) (listed : List Object) : Prop where
  valid : p.check = .ok ()
  quiet : scene.token.hasFired = false
  supply : Supply store p.request scene.state listed
  judged : JudgedBy verdict ((p.prune store).run scene).trace
  clock : p.clock ((p.chosen store).run scene).scene.state = now

/-- A pass made this selection, and it returns no other. -/
structure Chooses (pass : Progress σ (List Object)) (selection : List Object) : Prop where
  selected : selections pass.trace = [selection]
  returned : ∀ objects, pass.outcome = .ok objects → objects = selection

theorem Listing.outcome_of_answer (listing : p.Listing store scene r)
    (quiet : scene.token.hasFired = false)
    (answer : ((store.list p.request).run scene.state).answer = some (.ok listed)) :
    r.outcome = .ok listed := by
  cases listing with
  | cancelledBefore fired =>
    rw [quiet] at fired
    cases fired
  | givenUp _ called none =>
    rw [called, none] at answer
    cases answer
  | failed _ called failed =>
    rw [called, failed] at answer
    cases answer
  | answered _ called answered =>
    rw [called, answered] at answer
    cases answer
    rfl

/-- With objects that do not stop it, a pass comes to what its strategy selects of the survivors. -/
theorem Choice.outcome_of_judgedBy (choice : p.Choice store scene r)
    (builtIn : p.strategy.isBuiltIn = true) (valid : p.check = .ok ())
    (quiet : scene.token.hasFired = false)
    (answer : ((store.list p.request).run scene.state).answer = some (.ok listed))
    (judged : JudgedBy verdict r.trace) (faultless : ∀ l ∈ listed, p.Faultless verdict l) :
    r.outcome = (p.strategy.builtInSelection (p.survivors verdict listed)
      (p.clock r.scene.state)).mapError .strategy := by
  cases choice with
  | invalid invalid =>
    rw [valid] at invalid
    cases invalid
  | unlisted _ listing => cases listing.outcome_of_answer quiet answer
  | unfiltered _ listing filtering =>
    cases listing.outcome_of_answer quiet answer
    cases filtering.outcome_of_judgedBy (JudgedBy.append.mp judged).2 faultless
  | selected _ listing filtering selecting =>
    cases listing.outcome_of_answer quiet answer
    have filtered := (JudgedBy.append.mp (JudgedBy.append.mp judged).1).2
    cases filtering.outcome_of_judgedBy filtered faultless
    cases selecting with
    | failed called answered | answered called answered =>
      rw [Strategy.run_select builtIn] at called
      subst called
      simp only at answered
      simp only [Progress.after, Scene.called, answered, Except.mapError]

theorem Meets.chooses (meets : p.Meets store scene verdict now listed)
    (builtIn : p.strategy.isBuiltIn = true) (reaches : p.strategy.Reaches now)
    (faultless : ∀ l ∈ listed, p.Faultless verdict l) :
    ∃ selection, p.strategy.builtInSelection (p.survivors verdict listed) now = .ok selection ∧
      Chooses ((p.prune store).run scene) selection := by
  have course := prune_course (p := p) store scene
  have judged := meets.judged
  have clock := meets.clock
  generalize (p.prune store).run scene = pass at course judged ⊢
  have strategy := (check_ok_iff.mp meets.valid).2
  obtain ⟨selection, selected⟩ :=
    Strategy.exists_builtInSelection builtIn strategy reaches (p.survivors verdict listed)
  have outcome {r : Progress σ (List Object)} (chosen : (p.chosen store).run scene = r)
      (judged : JudgedBy verdict r.trace) : r.outcome = .ok selection := by
    have coming := (choice_of_run chosen).outcome_of_judgedBy builtIn meets.valid meets.quiet
      meets.supply.answer judged faultless
    rw [chosen] at clock
    rw [coming, clock, selected]
    rfl
  refine ⟨selection, selected, ?_⟩
  rcases course.continuation with
    ⟨e, after, trace, chosen, rfl⟩ | ⟨selection', middle, first, later, chosen, continued⟩
  · cases outcome chosen judged
  · rw [continued.trace] at judged
    cases outcome chosen (JudgedBy.append.mp judged).1
    have made := (choice_of_run chosen).selections_eq
    constructor
    case selected =>
      rw [← selections_inquiries, continued.inquiries_eq, selections_inquiries, made]
      rfl
    case returned => exact continued.returned

/-! ## Two passes -/

/-- Two pruners with one type, one strategy, and one setting for annotations.  They may differ in
what they list, in their hooks, and in whether they delete. -/
structure DecidesAs (p q : Pruner σ) : Prop where
  type : q.type = p.type
  strategy : q.strategy = p.strategy
  respectPreserve : q.respectPreserve = p.respectPreserve

theorem DecidesAs.faultless (alike : p.DecidesAs q) {l : Object}
    (faultless : p.Faultless verdict l) : q.Faultless verdict l := by
  obtain ⟨o, coerced, decided⟩ := faultless
  refine ⟨o, alike.type ▸ coerced, fun heard => decided ?_⟩
  rw [preserves, alike.respectPreserve] at heard
  exact heard

theorem DecidesAs.survivors_eq (alike : p.DecidesAs q) :
    q.survivors verdict listed = p.survivors verdict listed := by
  have eligible : q.eligible? = p.eligible? := by
    funext l
    unfold eligible? preserves
    rw [alike.type, alike.respectPreserve]
  rw [survivors, survivors, eligible]

/-- Whatever the order in which objects are listed, and however a cluster splits them into pages, the
same of them are selected; where the strategy counts, they are selected in the same order. -/
theorem selection_perm {store' : Store σ} {scene' : Scene σ} {others : List Object}
    (alike : p.DecidesAs q) (builtIn : p.strategy.isBuiltIn = true)
    (reaches : p.strategy.Reaches now) (first : p.Meets store scene verdict now listed)
    (second : q.Meets store' scene' verdict now others) (perm : listed.Perm others)
    (distinct : (listed.map Object.key).Nodup)
    (faultless : ∀ l ∈ listed, p.Faultless verdict l) :
    ∃ selection selection', Chooses ((p.prune store).run scene) selection ∧
      Chooses ((q.prune store').run scene') selection' ∧ selection.Perm selection' ∧
      ∀ count, p.strategy = .maxCount count → selection = selection' := by
  obtain ⟨selection, selected, chooses⟩ := first.chooses builtIn reaches faultless
  obtain ⟨selection', selected', chooses'⟩ := second.chooses (alike.strategy ▸ builtIn)
    (alike.strategy ▸ reaches) fun l mem => alike.faultless (faultless l (perm.symm.subset mem))
  rw [alike.strategy, alike.survivors_eq] at selected'
  obtain ⟨_, same, permuted, ordered⟩ := Strategy.builtInSelection_perm (survivors_perm perm)
    (survivors_distinct distinct) selected
  cases same.symm.trans selected'
  exact ⟨selection, selection', chooses, chooses', permuted, ordered⟩

end Pruner

/-! ## Rehearsed passes -/

namespace Rehearsed

/-- The resource of pods. -/
def podResource : Cluster.ApiResource := ⟨"", "v1", "pods", true⟩

/-- A cluster that gives a list of pods in these pages. -/
def paging (pages : List Cluster.Page) : Cluster.State Responder :=
  ⟨[(.pod, podResource)], pages.map givingPage, .epoch, []⟩

/-- A pod of which nothing is listed but its name. -/
def named (name : String) : Object :=
  ⟨none, { Metadata.blank with name := some name }, .object []⟩

/-- Lets all objects go but one. -/
def holding (o : Object) : Verdict :=
  if o.key.name = "b" then .error (.unprunable o.key "held") else .ok ()

/-- A pruner of all pods but this one. -/
def holdingPruner : Pruner (Cluster.State Responder) :=
  { Pruner.ofStrategy (.maxCount 0) (fun _ => .epoch) with
    registry := Registry.empty.register .pod fun o => .answer (holding o) }

/-- The verdicts of its registry. -/
def heldVerdict (o : Object) : Verdict :=
  match o.type? with
  | none => .error (.missingTypeMeta o.key)
  | some t => if t == .pod then holding o else .ok ()

theorem judgesBy_holdingPruner : holdingPruner.JudgesBy heldVerdict := by
  intro o s
  change (((Registry.empty.register .pod fun o => .answer (holding o)).judge o).run s).answer = _
  unfold Registry.judge heldVerdict
  cases o.type? with
  | none => rfl
  | some t =>
    simp only [Registry.find?, Registry.register, Registry.empty, List.filter_nil,
      List.lookup_cons, List.lookup_nil]
    cases t == .pod <;> rfl

theorem faultless_named (name : String) : holdingPruner.Faultless heldVerdict (named name) := by
  refine ⟨{ named name with types := some (.ofType .pod) }, rfl, ?_⟩
  intro _ e stops
  change holding _ = .error e at stops
  unfold holding at stops
  split at stops
  · cases stops
    rfl
  · cases stops

theorem supply_paging {pages : List Cluster.Page} {parts : List (List Object)}
    (paged : Cluster.Paged Responder.service podResource none none none (paging pages) parts) :
    Supply (Cluster.store Responder.service parts.length) holdingPruner.request (paging pages)
      parts.flatten := by
  have resolved : ((Cluster.resolve Responder.service holdingPruner.request.type).toCall.run
    (paging pages)).answer = some (.ok podResource) := rfl
  exact .paged resolved paged (Nat.le_refl _)

def twoPages : List Cluster.Page :=
  [⟨[named "a", named "b"], some "1"⟩, ⟨[named "c"], none⟩]

theorem paged_twoPages :
    Cluster.Paged Responder.service podResource none none none (paging twoPages)
      [[named "a", named "b"], [named "c"]] := by
  generalize initial : paging twoPages = state
  have first : ((Cluster.page Responder.service podResource none none none).toCall.run
      state).answer = some (.ok ⟨[named "a", named "b"], some "1"⟩) := by
    subst initial
    decide +kernel
  have second : ((Cluster.page Responder.service podResource none none (some "1")).toCall.run
      ((Cluster.page Responder.service podResource none none none).toCall.run
        state).state).answer = some (.ok ⟨[named "c"], none⟩) := by
    subst initial
    decide +kernel
  exact .next first rfl (.last second rfl)

/-- The same pods in one page, and in another order. -/
def onePage : List Cluster.Page := [⟨[named "c", named "a", named "b"], none⟩]

theorem paged_onePage :
    Cluster.Paged Responder.service podResource none none none (paging onePage)
      [[named "c", named "a", named "b"]] := by
  generalize initial : paging onePage = state
  have only : ((Cluster.page Responder.service podResource none none none).toCall.run
      state).answer = some (.ok ⟨[named "c", named "a", named "b"], none⟩) := by
    subst initial
    decide +kernel
  exact .last only rfl

end Rehearsed

namespace Pruner

open Rehearsed in
theorem selection_perm_rehearsed :
    ∃ selection,
      Chooses ((holdingPruner.prune (Cluster.store Responder.service 2)).run
        ⟨paging twoPages, .quiet⟩) selection ∧
      Chooses ((holdingPruner.prune (Cluster.store Responder.service 1)).run
        ⟨paging onePage, .quiet⟩) selection := by
  have meets {listed : List Object} {limit : Nat} {state : Cluster.State Responder}
      (supply : Supply (Cluster.store Responder.service limit) holdingPruner.request state listed) :
      holdingPruner.Meets (Cluster.store Responder.service limit) ⟨state, .quiet⟩ heldVerdict .epoch
        listed :=
    ⟨rfl, rfl, supply, judgedBy_prune judgesBy_holdingPruner _ _, rfl⟩
  have perm : [named "a", named "b", named "c"].Perm [named "c", named "a", named "b"] := by
    decide
  have distinct : ([named "a", named "b", named "c"].map Object.key).Nodup := by decide
  have faultless : ∀ l ∈ [named "a", named "b", named "c"],
      holdingPruner.Faultless heldVerdict l := by
    simp only [List.forall_mem_cons, faultless_named, List.not_mem_nil, false_implies,
      implies_true, and_self]
  have reaches : holdingPruner.strategy.Reaches .epoch := by rintro _ _ ⟨⟩
  obtain ⟨selection, selection', first, second, -, ordered⟩ := selection_perm
    ⟨rfl, rfl, rfl⟩ rfl reaches (meets (supply_paging paged_twoPages))
    (meets (supply_paging paged_onePage)) perm distinct faultless
  rw [← ordered 0 rfl] at second
  exact ⟨selection, first, second⟩

end Pruner

end Retention
