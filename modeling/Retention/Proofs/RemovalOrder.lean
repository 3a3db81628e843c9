import Mathlib
import Retention.Strategy.Selection

/-!
# The order of removal

`Object.rank` puts what `Object.precedes` compares into one value of a linear order: the instant of
creation, with none as the last of all, and then the key, with an absent namespace as the first of
all.  `Object.precedes_iff` says that the two orders are the same, so `Object.precedes` is total and
transitive, and objects that precede each other have one key.
-/

namespace Retention

/-! ## Ranks -/

/-- The instant as its second and the nanosecond in it. -/
def Instant.rank (t : Instant) : Int ×ₗ Nat := toLex (t.second, t.nano)

theorem Instant.lt_iff_rank {s t : Instant} : s < t ↔ s.rank < t.rank := by
  rw [rank, rank, Prod.Lex.toLex_lt_toLex]
  rfl

theorem Instant.rank_injective : Function.Injective Instant.rank := by
  intro s t same
  have parts := congrArg ofLex same
  simp only [rank, ofLex_toLex, Prod.mk.injEq] at parts
  cases s
  cases t
  simp_all

/-- The key as its namespace, absent before present, and its name. -/
def ResourceKey.rank (k : ResourceKey) : WithBot String ×ₗ String :=
  toLex (k.ns.elim ⊥ WithBot.some, k.name)

theorem ResourceKey.le_iff_rank {a b : ResourceKey} : a.le b = true ↔ a.rank ≤ b.rank := by
  obtain ⟨m, x⟩ := a
  obtain ⟨n, y⟩ := b
  rw [rank, rank, Prod.Lex.toLex_le_toLex]
  cases m <;> cases n <;> simp [le]

theorem ResourceKey.rank_injective : Function.Injective ResourceKey.rank := by
  intro a b same
  obtain ⟨m, x⟩ := a
  obtain ⟨n, y⟩ := b
  have parts := congrArg ofLex same
  cases m <;> cases n <;> simp_all [rank]

namespace Object

/-- What decides when an object is removed: its instant of creation, none after all others, and then
its key. -/
def rank (o : Object) : WithTop (Int ×ₗ Nat) ×ₗ (WithBot String ×ₗ String) :=
  toLex (o.metadata.createdAt.elim ⊤ fun t => WithTop.some t.rank, o.key.rank)

theorem precedes_iff {a b : Object} : a.precedes b = true ↔ a.rank ≤ b.rank := by
  rw [rank, rank, Prod.Lex.toLex_le_toLex]
  unfold precedes
  split
  next s t first second =>
    simp [first, second, Instant.lt_iff_rank, ResourceKey.le_iff_rank,
      Instant.rank_injective.eq_iff]
  next first second => simp [first, second]
  next first second => simp [first, second]
  next first second => simp [first, second, ResourceKey.le_iff_rank]

theorem precedes_trans (a b c : Object) (first : a.precedes b = true)
    (second : b.precedes c = true) : a.precedes c = true := by
  rw [precedes_iff] at first second ⊢
  exact first.trans second

theorem precedes_total (a b : Object) : (a.precedes b || b.precedes a) = true := by
  rw [Bool.or_eq_true, precedes_iff, precedes_iff]
  exact le_total a.rank b.rank

/-- Objects that precede each other have one key. -/
theorem key_eq_of_precedes {a b : Object} (first : a.precedes b = true)
    (second : b.precedes a = true) : a.key = b.key := by
  rw [precedes_iff] at first second
  have same := congrArg (fun r => (ofLex r).2) (le_antisymm first second)
  exact ResourceKey.rank_injective same

end Object

end Retention
