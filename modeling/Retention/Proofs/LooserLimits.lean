import Mathlib
import Retention.Proofs.Ages
import Retention.Proofs.DryRun

/-!
# Looser limits

A limit is loosened when more objects are kept, when the instant is earlier that objects have to be
created before, and when the age is greater or is counted from an earlier instant.
`Strategy.Loosens` says so of two settings.  The looser one selects less: a beginning of what the
tighter one selects where the strategy counts, and else some of it in its order.

Two dry passes that differ in such limits stop with the same error or end with two such selections,
as long as the store and the registry answer both alike (`Pruner.selects_less_of_loosens`).
-/

namespace Retention

variable {σ α β γ : Type}

/-! ## Selections -/

/-- Where more objects are kept, a beginning of the surplus is left. -/
theorem surplus_prefix {keep keep' : Nat} (more : keep ≤ keep') (candidates : List Object) :
    surplus keep' candidates <+: surplus keep candidates :=
  List.take_prefix_take_left (Nat.sub_le_sub_left more candidates.length)

theorem Instant.lt_of_lt_of_le {r s t : Instant} (before : r < s) (le : s ≤ t) : r < t := by
  rw [lt_iff_rank] at before ⊢
  have ranks : s.rank ≤ t.rank := not_lt.mp fun after => le (lt_iff_rank.mpr after)
  exact before.trans_le ranks

/-- What was created before an instant was created before a later one. -/
theorem selectOlderThan_sublist_of_le {cutoff cutoff' : Instant} (le : cutoff ≤ cutoff')
    (candidates : List Object) :
    (selectOlderThan candidates cutoff).Sublist (selectOlderThan candidates cutoff') := by
  refine List.monotone_filter_right candidates ?_
  intro o older
  unfold Object.isOlderThan at older ⊢
  cases created : o.metadata.createdAt with
  | none =>
    rw [created] at older
    cases older
  | some t =>
    simp only [created, decide_eq_true_eq] at older ⊢
    exact Instant.lt_of_lt_of_le older le

namespace Strategy

/-- As far as the calendar reaches, a strategy for an age selects what was created before the
instant that lies back by it. -/
theorem exists_cutoff {age : String} {d : Duration} {now : Instant}
    (read : Duration.read age = .ok d) (natural : 0 ≤ d.nanos) (plain : now.inLeapSecond = false)
    (reaches : firstSecond * nanosPerSecond ≤ now.sinceEpoch - d.nanos) :
    ∃ cutoff : Instant, cutoff.inLeapSecond = false ∧
      cutoff.sinceEpoch = now.sinceEpoch - d.nanos ∧
      ∀ candidates, (maxAge age : Strategy σ).select candidates now =
        .answer (.ok (selectOlderThan candidates cutoff)) := by
  have size : ((d.nanos.toNat : Nat) : Int) = d.nanos := Int.toNat_of_nonneg natural
  rw [← size] at reaches
  obtain ⟨cutoff, back, plainCutoff, before⟩ := Instant.exists_back plain reaches
  rw [size] at before
  refine ⟨cutoff, plainCutoff, before, ?_⟩
  intro candidates
  simp only [select, selectByMaxAge, readMaxAge, read, if_neg (Int.not_lt.mpr natural), back]

/-! ## Two limits -/

/-- A limit, with the instant at which it is applied, and a looser one.  Ages are compared as they
are read, outside of leap seconds and as far back as the calendar reaches. -/
inductive Loosens : Strategy σ → Instant → Strategy σ → Instant → Prop
  | count {m n : Int64} {now now' : Instant} :
    0 ≤ m → m ≤ n → Loosens (maxCount m) now (maxCount n) now'
  | cutoff {earlier later now now' : Instant} :
    earlier ≤ later → Loosens (olderThan later) now (olderThan earlier) now'
  | age {age age' : String} {d d' : Duration} {earlier later : Instant} :
    Duration.read age = .ok d → Duration.read age' = .ok d' → 0 ≤ d.nanos → d.nanos ≤ d'.nanos →
    earlier ≤ later → earlier.inLeapSecond = false → later.inLeapSecond = false →
    firstSecond * nanosPerSecond ≤ earlier.sinceEpoch - d'.nanos →
    Loosens (maxAge age) later (maxAge age') earlier

/-- What a looser limit selects, next to what the tighter one does. -/
structure Less (loose : Strategy σ) (more fewer : List Object) : Prop where
  sublist : fewer.Sublist more
  counted : ∀ n, loose = maxCount n → fewer <+: more

variable {tight loose : Strategy σ} {now now' : Instant}

/-- Both limits are valid settings. -/
theorem Loosens.check (loosens : tight.Loosens now loose now') :
    tight.check = .ok () ∧ loose.check = .ok () := by
  cases loosens with
  | count natural le =>
    constructor
    · exact if_neg (Int64.not_lt.mpr natural)
    · exact if_neg (Int64.not_lt.mpr (Int64.le_trans natural le))
  | cutoff _ => exact ⟨rfl, rfl⟩
  | age read read' natural le _ _ _ _ =>
    constructor
    · simp [Strategy.check, readMaxAge, read, Int.not_lt.mpr natural, Except.map]
    · simp [Strategy.check, readMaxAge, read', Int.not_lt.mpr (natural.trans le), Except.map]

theorem Loosens.select (loosens : tight.Loosens now loose now') (candidates : List Object) :
    ∃ more fewer, tight.select candidates now = .answer (.ok more) ∧
      loose.select candidates now' = .answer (.ok fewer) ∧ loose.Less more fewer := by
  cases loosens with
  | @count m n _ _ natural le =>
    have natural' : 0 ≤ n := Int64.le_trans natural le
    have kept : m.toInt.toNat ≤ n.toInt.toNat := Int.toNat_le_toNat (Int64.le_iff_toInt_le.mp le)
    have less := surplus_prefix kept candidates
    refine ⟨_, _, ?_, ?_, less.sublist, fun _ _ => less⟩
    · simp only [Strategy.select, selectByMaxCount, if_neg (Int64.not_lt.mpr natural)]
    · simp only [Strategy.select, selectByMaxCount, if_neg (Int64.not_lt.mpr natural')]
  | cutoff le =>
    refine ⟨_, _, rfl, rfl, selectOlderThan_sublist_of_le le candidates, ?_⟩
    rintro _ ⟨⟩
  | age read read' natural le order plain plain' reaches =>
    have span := not_lt.mp ((Instant.lt_iff_sinceEpoch plain' plain).not.mp order)
    obtain ⟨cutoff, plainCutoff, back, selects⟩ :=
      exists_cutoff (σ := σ) read natural plain' (by omega)
    obtain ⟨cutoff', plainCutoff', back', selects'⟩ :=
      exists_cutoff (σ := σ) read' (natural.trans le) plain reaches
    -- What is left is to compare the two cutoffs: the greater age leads to the earlier one.
    have before : cutoff' ≤ cutoff := by
      intro after
      rw [Instant.lt_iff_sinceEpoch plainCutoff plainCutoff'] at after
      omega
    refine ⟨_, _, selects _, selects' _, selectOlderThan_sublist_of_le before candidates, ?_⟩
    rintro _ ⟨⟩

end Strategy

/-! ## Dry passes -/

/-- Two passes stop with the same error, or both end with values in a relation. -/
inductive EndsAlike (rel : α → β → Prop) : Except PruneError α → Except PruneError β → Prop
  | ok {a : α} {b : β} : rel a b → EndsAlike rel (.ok a) (.ok b)
  | error (e : PruneError) : EndsAlike rel (.error e) (.error e)

/-- Parts that went alike and then end alike end alike. -/
theorem Progress.Alike.endsAlike_bind {δ : Type} {same : σ → σ → Prop} {rel : β → γ → Prop}
    {first second : Pass σ δ} {next : δ → Pass σ β} {after : δ → Pass σ γ} {x y : Scene σ}
    (alike : (first.run x).Alike same (second.run y))
    (later : ∀ a x y, same x.state y.state →
      EndsAlike rel ((next a).run x).outcome ((after a).run y).outcome) :
    EndsAlike rel ((first >>= next).run x).outcome ((second >>= after).run y).outcome := by
  obtain ⟨outcome, -, state⟩ := alike
  generalize left : first.run x = r at outcome state
  generalize right : second.run y = q at outcome state
  obtain ⟨ending, middle, trace⟩ := r
  obtain ⟨_, middle', trace'⟩ := q
  simp only at outcome state
  subst outcome
  cases ending with
  | error e =>
    rw [Pass.run_bind_of_error left, Pass.run_bind_of_error right]
    exact .error e
  | ok a =>
    rw [Pass.run_bind_of_ok left, Pass.run_bind_of_ok right]
    exact later a middle middle' state

namespace Pruner

variable {p : Pruner σ} {same : σ → σ → Prop} {store : Store σ} {x y : Scene σ}
  {tight loose : Strategy σ} {clock clock' : σ → Instant}

/-- The pruner that only selects, with another strategy and another clock. -/
def trial (p : Pruner σ) (strategy : Strategy σ) (clock : σ → Instant) : Pruner σ :=
  { p with strategy := strategy, clock := clock, dryRun := true }

/-- A pass that only selects ends as its choice does. -/
theorem outcome_of_dry {scene : Scene σ} (dry : p.dryRun = true) :
    ((p.prune store).run scene).outcome = ((p.chosen store).run scene).outcome := by
  rcases (prune_course (p := p) store scene).continuation with
    ⟨e, after, trace, chosen, ends⟩ | ⟨selection, middle, first, later, chosen, continued⟩
  · rw [chosen, ends]
  · rw [chosen, (continued.dry dry).1]

theorem listed_alike (list : (store.list p.request).Alike same) (related : same x.state y.state)
    (token : x.token.hasFired = y.token.hasFired) :
    ((p.listed store).run x).Alike same ((p.listed store).run y) := by
  unfold listed
  refine (Progress.Alike.await list related token).bind fun answer => ?_
  split
  · exact .reportStop _ _
  · exact .reportStop _ _
  · exact .done _

theorem outcome_selected {count : Nat} {candidates selection : List Object} {scene : Scene σ}
    (selects : p.strategy.select candidates (p.clock scene.state) = .answer (.ok selection)) :
    ((p.selected count candidates).run scene).outcome = .ok selection := by
  have selecting := selected_selecting (p := p) count candidates scene
  generalize (p.selected count candidates).run scene = r at selecting ⊢
  cases selecting with
  | failed called answer =>
    rw [selects] at called
    subst called
    cases answer
  | answered called answer =>
    rw [selects] at called
    subst called
    cases answer
    rfl

/-- With a valid strategy, such a pass stops where what it lists is not valid, or chooses. -/
theorem outcome_trial {strategy : Strategy σ} (valid : strategy.check = .ok ())
    (clock : σ → Instant) (store : Store σ) (scene : Scene σ) :
    (((p.trial strategy clock).prune store).run scene).outcome =
      match checkTarget p.type p.ns p.labels with
      | .error e => .error (.config e)
      | .ok () =>
        ((do
          let listed ← p.listed store
          let candidates ← p.candidates listed
          (p.trial strategy clock).selected listed.length candidates).run scene).outcome := by
  have chosen := run_chosen (p := p.trial strategy clock) true store scene
  have check : (p.trial strategy clock).check = checkTarget p.type p.ns p.labels := by
    change (match checkTarget p.type p.ns p.labels with
      | .error e => Except.error e
      | .ok () => strategy.check) = _
    rw [valid]
    cases checkTarget p.type p.ns p.labels <;> rfl
  rw [outcome_of_dry rfl]
  refine (congrArg Progress.outcome chosen).trans ?_
  rw [check]
  cases checkTarget p.type p.ns p.labels with
  | error e => rfl
  | ok _ =>
    simp only [candidates_congr (p := p.trial strategy clock) (q := p) rfl rfl rfl]
    rfl

/-- Where the limits that two clocks give are a tighter and a looser one, the dry passes with them
select more and less. -/
theorem trial_endsAlike (judge : ∀ o, (p.registry.judge o).Alike same)
    (list : (store.list p.request).Alike same)
    (loosens : ∀ s t, same s t → tight.Loosens (clock s) loose (clock' t))
    (related : same x.state y.state) (token : x.token.hasFired = y.token.hasFired) :
    EndsAlike loose.Less (((p.trial tight clock).prune store).run x).outcome
      (((p.trial loose clock').prune store).run y).outcome := by
  obtain ⟨valid, valid'⟩ := (loosens _ _ related).check
  rw [outcome_trial valid, outcome_trial valid']
  cases checkTarget p.type p.ns p.labels with
  | error e => exact .error _
  | ok _ =>
    -- Up to the strategy both passes go alike, so it is asked about the same candidates.
    refine (listed_alike list related token).endsAlike_bind fun listed x y related => ?_
    refine (candidates_alike judge listed x y related).endsAlike_bind fun found x y related => ?_
    obtain ⟨more, fewer, selects, selects', less⟩ := (loosens _ _ related).select found
    rw [outcome_selected selects, outcome_selected selects']
    exact .ok less

/-- A looser limit selects less of the same candidates, and so does a dry pass with it over the same
store and registry, where the code that is asked cannot tell the states of the two passes apart. -/
theorem selects_less_of_loosens :
    (∀ {tight loose : Strategy σ} {now now' : Instant}, tight.Loosens now loose now' →
      ∀ candidates, ∃ more fewer, tight.select candidates now = .answer (.ok more) ∧
        loose.select candidates now' = .answer (.ok fewer) ∧ loose.Less more fewer) ∧
    ∀ (p : Pruner σ) (store : Store σ) (same : σ → σ → Prop) (tight loose : Strategy σ)
      (clock clock' : σ → Instant) (x y : Scene σ),
      (∀ o, (p.registry.judge o).Alike same) → (store.list p.request).Alike same →
      (∀ s t, same s t → tight.Loosens (clock s) loose (clock' t)) →
      same x.state y.state → x.token.hasFired = y.token.hasFired →
      EndsAlike loose.Less (((p.trial tight clock).prune store).run x).outcome
        (((p.trial loose clock').prune store).run y).outcome :=
  ⟨Strategy.Loosens.select,
    fun _ _ _ _ _ _ _ _ _ judge list loosens => trial_endsAlike judge list loosens⟩

end Pruner

/-! ## Rehearsed passes -/

namespace Rehearsed

/-- The two stages have the same objects and list them. -/
def SameShelf (s t : Stage) : Prop :=
  s.objects = t.objects ∧ s.listFault = none ∧ t.listFault = none

theorem list_alike (request : ListRequest) : (Stage.store.list request).Alike SameShelf := by
  rintro ⟨objects, _, _, _, _, _⟩ ⟨_, _, _, _, _, _⟩ ⟨rfl, rfl, rfl⟩
  exact ⟨rfl, rfl, rfl, rfl⟩

theorem judge_alike (o : Object) : (pruner.registry.judge o).Alike SameShelf := by
  intro s t related
  change ((Registry.empty.judge o).run s).answer = ((Registry.empty.judge o).run t).answer ∧
    SameShelf ((Registry.empty.judge o).run s).state ((Registry.empty.judge o).run t).state
  unfold Registry.judge
  cases o.type? with
  | none => exact ⟨rfl, related⟩
  | some type => exact ⟨rfl, related⟩

/-- The last second before 1970. -/
def lastBefore1970 : Instant := ⟨-1, 0, by decide, by decide, Instant.epoch.nano_lt, by decide⟩

/-- The stage that a dry pass leaves. -/
def tried : Stage :=
  (((pruner.trial (.olderThan .epoch) Stage.now).prune Stage.store).run ⟨stage, .quiet⟩).scene.state

end Rehearsed

namespace Pruner

open Rehearsed in
theorem selects_less_of_loosens_rehearsed :
    (Strategy.maxAge "3h" : Strategy Stage).Loosens .epoch (.maxAge "3h") lastBefore1970 ∧
      (∃ more fewer,
        (Strategy.maxAge "3h" : Strategy Stage).select threeHoursOld .epoch = .answer (.ok more) ∧
        (Strategy.maxAge "3h" : Strategy Stage).select threeHoursOld lastBefore1970 =
          .answer (.ok fewer) ∧
        fewer.Sublist more) ∧
      SameShelf stage tried ∧
      (((Rehearsed.pruner.trial (.olderThan .epoch) Stage.now).prune Stage.store).run
        ⟨stage, .quiet⟩).outcome = .ok [pod "a" (-2), pod "b" (-1)] ∧
      (((Rehearsed.pruner.trial (.olderThan lastBefore1970) Stage.now).prune Stage.store).run
        ⟨tried, .quiet⟩).outcome = .ok [pod "a" (-2)] ∧
      EndsAlike (Strategy.Less (.olderThan lastBefore1970 : Strategy Stage))
        (((Rehearsed.pruner.trial (.olderThan .epoch) Stage.now).prune Stage.store).run
          ⟨stage, .quiet⟩).outcome
        (((Rehearsed.pruner.trial (.olderThan lastBefore1970) Stage.now).prune Stage.store).run
          ⟨tried, .quiet⟩).outcome := by
  obtain ⟨selects, passes⟩ := selects_less_of_loosens (σ := Stage)
  have aged : Strategy.Loosens (σ := Stage) (.maxAge "3h") .epoch (.maxAge "3h") lastBefore1970 :=
    .age read_threeHours read_threeHours (by decide) le_rfl (by decide) rfl rfl (by decide)
  obtain ⟨more, fewer, selected, selected', less⟩ := selects aged threeHoursOld
  have shelf : SameShelf stage tried := ⟨rfl, rfl, rfl⟩
  refine ⟨aged, ⟨more, fewer, selected, selected', less.sublist⟩, shelf, rfl, rfl, ?_⟩
  exact passes _ _ _ _ _ _ _ _ _ judge_alike (list_alike _) (fun _ _ _ => .cutoff (by decide)) shelf
    rfl

end Pruner

end Retention
