import Mathlib.Data.List.Nodup
import Mathlib.Data.List.Perm.Subperm
import Retention.Proofs.RemovalOrder

/-!
# What the strategies select

The strategies without a function of the user look at nothing but the candidates and the instant
(`Strategy.run_select`), and select objects among the candidates, none more often than it is there
(`Strategy.subperm_of_builtIn`).  `Strategy.builtInSelection_without` says what they select once the
first objects of a selection are gone: the rest of it, in the same order.  Which objects they select
does not depend on the order of the candidates (`Strategy.builtInSelection_perm`).
-/

namespace Retention

variable {σ : Type}

namespace Strategy

/-- Whether a strategy selects by itself, with no function of the user. -/
def isBuiltIn : Strategy σ → Bool
  | custom _ => false
  | _ => true

/-- What a strategy selects by itself. -/
def builtInSelection (strategy : Strategy σ) (candidates : List Object) (now : Instant) :
    Except StrategyError (List Object) :=
  match strategy with
  | maxCount count => selectByMaxCount candidates count
  | maxAge age => selectByMaxAge candidates age now
  | olderThan cutoff => .ok (selectOlderThan candidates cutoff)
  | custom _ => .error (.config .missingCustomStrategy)

/-- A strategy that selects by itself leaves the surroundings alone. -/
theorem run_select {strategy : Strategy σ} (builtIn : strategy.isBuiltIn = true)
    (candidates : List Object) (now : Instant) (s : σ) :
    (strategy.select candidates now).run s =
      ⟨strategy.builtInSelection candidates now, s, false, []⟩ := by
  cases strategy with
  | custom _ => cases builtIn
  | _ => rfl

/-- The age that a strategy looks back by stays within the calendar. -/
def Reaches (strategy : Strategy σ) (now : Instant) : Prop :=
  ∀ age nanos, strategy = .maxAge age → readMaxAge age = .ok nanos → (now.back nanos).isSome = true

/-- With valid settings, a strategy that selects by itself comes to a selection. -/
theorem exists_builtInSelection {strategy : Strategy σ} {now : Instant}
    (builtIn : strategy.isBuiltIn = true) (valid : strategy.check = .ok ())
    (reaches : strategy.Reaches now) (candidates : List Object) :
    ∃ selection, strategy.builtInSelection candidates now = .ok selection := by
  cases strategy with
  | maxCount count =>
    simp only [check] at valid
    simp only [builtInSelection, selectByMaxCount]
    split at valid
    · cases valid
    next natural => exact ⟨_, if_neg natural⟩
  | maxAge age =>
    simp only [check] at valid
    simp only [builtInSelection, selectByMaxAge]
    cases read : readMaxAge age with
    | error e =>
      rw [read] at valid
      cases valid
    | ok nanos =>
      obtain ⟨cutoff, reached⟩ := Option.isSome_iff_exists.mp (reaches age nanos rfl read)
      simp only [reached]
      exact ⟨_, rfl⟩
  | olderThan cutoff => exact ⟨_, rfl⟩
  | custom _ => cases builtIn

end Strategy

/-! ## Selections among candidates -/

theorem surplus_subperm (keep : Nat) (candidates : List Object) :
    (surplus keep candidates).Subperm candidates :=
  (List.take_sublist _ _).subperm.trans (candidates.mergeSort_perm Object.precedes).subperm

theorem selectOlderThan_sublist (candidates : List Object) (cutoff : Instant) :
    (selectOlderThan candidates cutoff).Sublist candidates :=
  List.filter_sublist

/-- Selected objects are candidates, and none is selected more often than it is there. -/
theorem Strategy.subperm_of_builtIn {strategy : Strategy σ} {candidates selection : List Object}
    {now : Instant} (selected : strategy.builtInSelection candidates now = .ok selection) :
    selection.Subperm candidates := by
  cases strategy with
  | maxCount count =>
    simp only [builtInSelection, selectByMaxCount] at selected
    split at selected
    · cases selected
    · cases selected
      exact surplus_subperm _ _
  | maxAge age =>
    simp only [builtInSelection, selectByMaxAge] at selected
    split at selected
    · cases selected
    · split at selected
      · cases selected
      · cases selected
        exact (selectOlderThan_sublist _ _).subperm
  | olderThan cutoff =>
    cases selected
    exact (selectOlderThan_sublist _ _).subperm
  | custom _ => cases selected

/-! ## Selections from what is left -/

/-- The objects with other keys than the given ones. -/
def withoutKeys (keys : List ResourceKey) (objects : List Object) : List Object :=
  objects.filter fun o => !keys.contains o.key

section Without

variable {objects : List Object} (distinct : (objects.map Object.key).Nodup)

include distinct

/-- Of objects with distinct keys, those without the keys of the first are the others. -/
theorem withoutKeys_take (k : Nat) :
    withoutKeys ((objects.take k).map Object.key) objects = objects.drop k := by
  have apart : ∀ o ∈ objects.drop k, o.key ∉ (objects.take k).map Object.key := by
    rw [← List.take_append_drop k objects, List.map_append, List.nodup_append] at distinct
    intro o mem first
    exact distinct.2.2 _ first _ (List.mem_map_of_mem mem) rfl
  have none : withoutKeys ((objects.take k).map Object.key) (objects.take k) = [] := by
    rw [withoutKeys, List.filter_eq_nil_iff]
    intro o mem
    have key : o.key ∈ (objects.take k).map Object.key := List.mem_map_of_mem mem
    simpa [-List.map_take] using key
  have all : withoutKeys ((objects.take k).map Object.key) (objects.drop k) = objects.drop k := by
    rw [withoutKeys, List.filter_eq_self]
    intro o mem
    simpa [-List.map_take] using apart o mem
  calc withoutKeys ((objects.take k).map Object.key) objects
      = withoutKeys ((objects.take k).map Object.key) (objects.take k ++ objects.drop k) := by
        rw [List.take_append_drop]
    _ = objects.drop k := by
        rw [withoutKeys, List.filter_append, ← withoutKeys, ← withoutKeys, none, all,
          List.nil_append]

/-- Objects with distinct keys are put in the order of removal in one way only. -/
theorem eq_of_precedes_of_perm {others : List Object} (perm : objects.Perm others)
    (sorted : objects.Pairwise fun a b => a.precedes b = true)
    (sortedOthers : others.Pairwise fun a b => a.precedes b = true) : objects = others := by
  refine perm.eq_of_pairwise ?_ sorted sortedOthers
  intro a b memA memB first second
  exact List.inj_on_of_nodup_map distinct memA (perm.symm.subset memB)
    (Object.key_eq_of_precedes first second)

theorem mergeSort_filter (p : Object → Bool) :
    (objects.filter p).mergeSort Object.precedes =
      (objects.mergeSort Object.precedes).filter p := by
  have sorted := List.pairwise_mergeSort Object.precedes_trans Object.precedes_total
  have same : ((objects.filter p).mergeSort Object.precedes).Perm (objects.filter p) :=
    List.mergeSort_perm _ _
  refine eq_of_precedes_of_perm ?_ ?_ (sorted _) ((sorted objects).filter p)
  · exact (same.map Object.key).nodup_iff.mpr
      (distinct.sublist (List.filter_sublist.map Object.key))
  · exact same.trans ((List.mergeSort_perm objects _).filter p).symm

/-- Once the first `k` of the surplus are gone, the rest of it is the surplus. -/
theorem surplus_without (keep : Nat) {k : Nat} (le : k ≤ (surplus keep objects).length) :
    surplus keep (withoutKeys (((surplus keep objects).take k).map Object.key) objects) =
      (surplus keep objects).drop k := by
  have perm : (objects.mergeSort Object.precedes).Perm objects := List.mergeSort_perm _ _
  have sortedDistinct : ((objects.mergeSort Object.precedes).map Object.key).Nodup :=
    (perm.map Object.key).nodup_iff.mpr distinct
  rw [surplus, List.length_take, List.length_mergeSort] at le
  have first : (surplus keep objects).take k = (objects.mergeSort Object.precedes).take k := by
    rw [surplus, List.take_take, Nat.min_eq_left (by omega)]
  have sorted : (withoutKeys (((objects.mergeSort Object.precedes).take k).map Object.key)
      objects).mergeSort Object.precedes = (objects.mergeSort Object.precedes).drop k := by
    rw [← withoutKeys_take sortedDistinct k, withoutKeys, withoutKeys]
    exact mergeSort_filter distinct _
  have length : (withoutKeys (((objects.mergeSort Object.precedes).take k).map Object.key)
      objects).length = objects.length - k := by
    rw [← (List.mergeSort_perm _ Object.precedes).length_eq, sorted, List.length_drop,
      List.length_mergeSort]
  -- As many candidates are gone as the surplus shrinks by, so the same ones are kept.
  rw [first, surplus, surplus, sorted, length, List.drop_take]
  congr 1
  omega

theorem selectOlderThan_without (cutoff : Instant) (k : Nat) :
    selectOlderThan
        (withoutKeys (((selectOlderThan objects cutoff).take k).map Object.key) objects) cutoff =
      (selectOlderThan objects cutoff).drop k := by
  have selectedDistinct : ((selectOlderThan objects cutoff).map Object.key).Nodup :=
    distinct.sublist ((selectOlderThan_sublist objects cutoff).map Object.key)
  rw [← withoutKeys_take selectedDistinct k, selectOlderThan, withoutKeys, withoutKeys,
    List.filter_comm]
  rfl

/-- Once the first `k` objects of a selection are gone, a built-in strategy selects the others. -/
theorem Strategy.builtInSelection_without {strategy : Strategy σ} {selection : List Object}
    {now : Instant} (selected : strategy.builtInSelection objects now = .ok selection) {k : Nat}
    (le : k ≤ selection.length) :
    strategy.builtInSelection (withoutKeys ((selection.take k).map Object.key) objects) now =
      .ok (selection.drop k) := by
  cases strategy with
  | maxCount count =>
    simp only [builtInSelection, selectByMaxCount] at selected ⊢
    split at selected
    · cases selected
    next valid =>
      cases selected
      rw [if_neg valid, surplus_without distinct _ le]
  | maxAge age =>
    simp only [builtInSelection, selectByMaxAge] at selected ⊢
    split at selected
    · cases selected
    next nanos read =>
      split at selected
      · cases selected
      next cutoff reached =>
        cases selected
        rw [selectOlderThan_without distinct]
  | olderThan cutoff =>
    cases selected
    simp only [builtInSelection]
    rw [selectOlderThan_without distinct]
  | custom _ => cases selected

end Without

/-! ## Selections among candidates in another order -/

section Order

variable {objects others : List Object} (perm : objects.Perm others)

include perm

theorem surplus_eq_of_perm (distinct : (objects.map Object.key).Nodup) (keep : Nat) :
    surplus keep objects = surplus keep others := by
  have sorted := List.pairwise_mergeSort Object.precedes_trans Object.precedes_total
  have first : (objects.mergeSort Object.precedes).Perm objects := List.mergeSort_perm _ _
  have second : (others.mergeSort Object.precedes).Perm others := List.mergeSort_perm _ _
  have same : objects.mergeSort Object.precedes = others.mergeSort Object.precedes := by
    refine eq_of_precedes_of_perm ?_ (first.trans (perm.trans second.symm)) (sorted _) (sorted _)
    exact (first.map Object.key).nodup_iff.mpr distinct
  rw [surplus, surplus, same, perm.length_eq]

theorem selectOlderThan_perm (cutoff : Instant) :
    (selectOlderThan objects cutoff).Perm (selectOlderThan others cutoff) :=
  perm.filter _

/-- From candidates in another order the same objects are selected; where the strategy counts, they
are selected in the same order. -/
theorem Strategy.builtInSelection_perm {strategy : Strategy σ} {selection : List Object}
    {now : Instant} (distinct : (objects.map Object.key).Nodup)
    (selected : strategy.builtInSelection objects now = .ok selection) :
    ∃ selection', strategy.builtInSelection others now = .ok selection' ∧
      selection.Perm selection' ∧ ∀ count, strategy = .maxCount count → selection = selection' := by
  cases strategy with
  | maxCount count =>
    have same : selectByMaxCount objects count = selectByMaxCount others count := by
      rw [selectByMaxCount, selectByMaxCount, surplus_eq_of_perm perm distinct]
    exact ⟨selection, same.symm.trans selected, .refl _, fun _ _ => rfl⟩
  | maxAge age =>
    simp only [builtInSelection, selectByMaxAge] at selected ⊢
    split at selected
    · cases selected
    · split at selected
      · cases selected
      next cutoff reached =>
        cases selected
        exact ⟨_, rfl, selectOlderThan_perm perm cutoff, nofun⟩
  | olderThan cutoff =>
    cases selected
    exact ⟨_, rfl, selectOlderThan_perm perm cutoff, nofun⟩
  | custom _ => cases selected

end Order

end Retention
