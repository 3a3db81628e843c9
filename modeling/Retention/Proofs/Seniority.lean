import Mathlib
import Retention.Proofs.Accounting
import Retention.Proofs.ByteOrder
import Retention.Proofs.RemovalOrder

/-!
# The oldest objects

A strategy that counts keeps the newest objects and selects all others, oldest first.  Which object
is older is told by its `Seniority`: whether the creation time is missing, then this time, the
namespace and the name, both by their bytes.  `surplus_splits` says that the selected
objects come before all that are kept, and that objects of one seniority stay in the order in which
they were listed.
-/

namespace Retention

/-- The namespace, absent before present, and the name, both by their bytes. -/
def ResourceKey.byteRank (k : ResourceKey) : WithBot (List Nat) ×ₗ List Nat :=
  toLex (k.ns.elim ⊥ fun ns => Text.bytes ns, Text.bytes k.name)

theorem ResourceKey.rank_le_iff_byteRank {a b : ResourceKey} :
    a.rank ≤ b.rank ↔ a.byteRank ≤ b.byteRank := by
  obtain ⟨m, x⟩ := a
  obtain ⟨n, y⟩ := b
  have less := @Text.bytes_strictMono.lt_iff_lt
  have le := @Text.bytes_strictMono.le_iff_le
  have same := @Text.bytes_strictMono.injective.eq_iff
  rw [rank, rank, byteRank, byteRank, Prod.Lex.toLex_le_toLex, Prod.Lex.toLex_le_toLex]
  cases m <;> cases n <;> simp [less, le, same]

/-- What tells the older of two objects: whether it has no creation time, this time, and the key. -/
abbrev Seniority : Type := Bool ×ₗ WithBot (Int ×ₗ Nat) ×ₗ WithBot (List Nat) ×ₗ List Nat

namespace Object

/-- The seniority of an object, which is less the older it is.  An object without a creation time is
younger than all that have one. -/
def seniority (o : Object) : Seniority :=
  toLex (o.metadata.createdAt.isNone,
    toLex (o.metadata.createdAt.elim ⊥ fun t => t.rank, o.key.byteRank))

theorem precedes_iff_seniority {a b : Object} :
    a.precedes b = true ↔ a.seniority ≤ b.seniority := by
  rw [precedes_iff, rank, rank, seniority, seniority]
  simp only [Prod.Lex.toLex_le_toLex, ResourceKey.rank_le_iff_byteRank]
  cases a.metadata.createdAt <;> cases b.metadata.createdAt <;> simp

/-- Objects of one seniority are sorted into the order in which they were listed. -/
theorem filter_mergeSort_precedes (candidates : List Object) (place : Seniority) :
    (candidates.mergeSort precedes).filter (fun o => o.seniority = place) =
      candidates.filter fun o => o.seniority = place := by
  have tied : (candidates.filter fun o => o.seniority = place).Pairwise
      fun a b => a.precedes b = true := by
    rw [List.pairwise_iff_forall_sublist]
    intro a b pair
    have first := (List.mem_filter.mp (pair.subset List.mem_cons_self)).2
    have second := (List.mem_filter.mp (pair.subset (List.mem_cons_of_mem a List.mem_cons_self))).2
    rw [precedes_iff_seniority, of_decide_eq_true first, of_decide_eq_true second]
  have kept := List.sublist_mergeSort precedes_trans precedes_total tied List.filter_sublist
  have perm : (candidates.mergeSort precedes).Perm candidates := List.mergeSort_perm _ _
  have sublist := kept.filter fun o => o.seniority = place
  simp only [List.filter_filter, Bool.and_self] at sublist
  exact (sublist.eq_of_length (perm.filter _).symm.length_eq).symm

end Object

/-! ## The surplus -/

/-- The selected objects are the oldest of the candidates, oldest first, and the others are kept. -/
structure SplitsByAge (candidates selected kept : List Object) : Prop where
  perm : (selected ++ kept).Perm candidates
  ordered : selected.Pairwise fun a b => a.seniority ≤ b.seniority
  oldest : ∀ a ∈ selected, ∀ b ∈ kept, a.seniority ≤ b.seniority
  /-- Of objects of one seniority those listed first are selected, and in this order. -/
  stable : ∀ place, selected.filter (fun o => o.seniority = place) <+:
    candidates.filter fun o => o.seniority = place
  /-- An object without a creation time is selected only with all that have one. -/
  dated : ∀ a ∈ selected, a.metadata.createdAt = none → ∀ b ∈ kept, b.metadata.createdAt = none

theorem createdAt_eq_none_of_seniority_le {a b : Object} (le : a.seniority ≤ b.seniority)
    (undated : a.metadata.createdAt = none) : b.metadata.createdAt = none := by
  rw [Object.seniority, Object.seniority, Prod.Lex.toLex_le_toLex, undated] at le
  cases created : b.metadata.createdAt with
  | none => rfl
  | some t =>
    rw [created] at le
    rcases le with less | ⟨same, -⟩
    · exact absurd (show true < false from less) (by decide)
    · cases same

theorem surplus_splits (keep : Nat) (candidates : List Object) :
    SplitsByAge candidates (surplus keep candidates)
      ((candidates.mergeSort Object.precedes).drop (candidates.length - keep)) := by
  have sorted : (candidates.mergeSort Object.precedes).Pairwise
      fun a b => a.seniority ≤ b.seniority := by
    refine (List.pairwise_mergeSort Object.precedes_trans Object.precedes_total _).imp ?_
    exact Object.precedes_iff_seniority.mp
  rw [← List.take_append_drop (candidates.length - keep) (candidates.mergeSort _),
    List.pairwise_append, ← surplus] at sorted
  obtain ⟨ordered, -, oldest⟩ := sorted
  refine ⟨?_, ordered, oldest, ?_, ?_⟩
  · rw [surplus, List.take_append_drop]
    exact List.mergeSort_perm _ _
  · intro place
    rw [← Object.filter_mergeSort_precedes candidates]
    exact (List.take_prefix _ _).filter _
  · intro a first undated b second
    exact createdAt_eq_none_of_seniority_le (oldest a first b second) undated

/-- A strategy that counts selects the oldest candidates, as many as there are beyond the count, and
refuses a negative count. -/
theorem selectByMaxCount_oldest (candidates : List Object) (count : Int64) :
    (count < 0 →
      selectByMaxCount candidates count = .error (.config (.negativeMaxCount count))) ∧
    (0 ≤ count → ∃ selected kept, selectByMaxCount candidates count = .ok selected ∧
      (selected.length : Int) = max 0 (candidates.length - count.toInt) ∧
      SplitsByAge candidates selected kept) := by
  constructor
  · intro negative
    rw [selectByMaxCount, if_pos negative]
  · intro natural
    have nonneg : 0 ≤ count.toInt := by
      simpa using Int64.le_iff_toInt_le.mp natural
    have length : ((surplus count.toInt.toNat candidates).length : Int) =
        max 0 (candidates.length - count.toInt) := by
      rw [surplus, List.length_take, List.length_mergeSort]
      omega
    refine ⟨_, _, ?_, length, surplus_splits _ _⟩
    rw [selectByMaxCount, if_neg (Int64.not_lt.mpr natural)]

/-! ## Rehearsed candidates -/

namespace Rehearsed

/-- Candidates of which one has no creation time, and four were created in one second.  Two of these
have one key as well. -/
def aged : List Object :=
  [{ bare "n" 0 with metadata := { Metadata.blank with name := some "n" } },
    bare "é" 5, pod "z" 5, bare "b" 5, bare "z" 5]

end Rehearsed

open Rehearsed in
theorem selectByMaxCount_oldest_rehearsed :
    (0 : Int64) ≤ 2 ∧ selectByMaxCount aged 2 = .ok [bare "b" 5, pod "z" 5, bare "z" 5] ∧
      ∃ kept, SplitsByAge aged [bare "b" 5, pod "z" 5, bare "z" 5] kept := by
  obtain ⟨selected, kept, answered, -, splits⟩ := (selectByMaxCount_oldest aged 2).2 (by decide)
  have evaluated : selectByMaxCount aged 2 = .ok [bare "b" 5, pod "z" 5, bare "z" 5] := by
    cbv
  cases answered.symm.trans evaluated
  exact ⟨by decide, evaluated, kept, splits⟩

end Retention
