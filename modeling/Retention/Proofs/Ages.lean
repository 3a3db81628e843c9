import Mathlib
import Retention.Proofs.Accounting
import Retention.Proofs.Selection
import Retention.Proofs.Spellings

/-!
# Ages

Outside of leap seconds an instant is a number of nanoseconds: instants are ordered by these numbers,
and an age is gone back by taking it from them (`Instant.back_eq_at?`), as far as the calendar
reaches.  So a strategy for an age selects the objects whose age in nanoseconds is over it, and no
object that is exactly as old (`Strategy.select_over_age`).
-/

namespace Retention

/-! ## Instants as numbers -/

namespace Instant

variable {s t : Instant} {nanos : Int}

/-- The instant this many nanoseconds after the start of 1970, or before it. -/
def at? (nanos : Int) : Option Instant :=
  of? (nanos / nanosPerSecond) (nanos % nanosPerSecond).toNat

theorem inLeapSecond_eq_false_iff : t.inLeapSecond = false ↔ t.nano < nanosPerSecond := by
  rw [inLeapSecond, decide_eq_false_iff_not, Nat.not_le]

theorem lt_iff_sinceEpoch (plain : s.inLeapSecond = false) (plain' : t.inLeapSecond = false) :
    s < t ↔ s.sinceEpoch < t.sinceEpoch := by
  rw [inLeapSecond_eq_false_iff] at plain plain'
  change s.second < t.second ∨ s.second = t.second ∧ s.nano < t.nano ↔ _
  unfold sinceEpoch
  unfold nanosPerSecond at *
  omega

/-- There is an instant for every number of nanoseconds within the calendar. -/
theorem exists_at? (first : firstSecond * nanosPerSecond ≤ nanos)
    (last : nanos < (lastSecond + 1) * nanosPerSecond) :
    ∃ t, at? nanos = some t ∧ t.inLeapSecond = false ∧ t.sinceEpoch = nanos := by
  have inside : (firstSecond ≤ nanos / nanosPerSecond ∧ nanos / nanosPerSecond ≤ lastSecond) ∧
      (nanos % nanosPerSecond).toNat < 2 * nanosPerSecond ∧
      (nanosPerSecond ≤ (nanos % nanosPerSecond).toNat → nanos / nanosPerSecond % 60 = 59) := by
    unfold firstSecond lastSecond nanosPerSecond at *
    omega
  refine ⟨_, dif_pos inside, ?_, ?_⟩
  · rw [inLeapSecond_eq_false_iff]
    change (nanos % nanosPerSecond).toNat < nanosPerSecond
    unfold nanosPerSecond
    omega
  · change nanos / nanosPerSecond * nanosPerSecond + ((nanos % nanosPerSecond).toNat : Int) = nanos
    unfold nanosPerSecond
    omega

/-- To go back by an age takes it from the number of nanoseconds. -/
theorem back_eq_at? (plain : t.inLeapSecond = false) (age : Nat) :
    t.back age = at? (t.sinceEpoch - age) := by
  have nano := inLeapSecond_eq_false_iff.mp plain
  unfold back
  simp only [plain, Bool.false_and, Bool.false_eq_true, if_false]
  unfold at? sinceEpoch
  unfold nanosPerSecond at *
  split
  next enough =>
    congr 1
    · omega
    · omega
  next short =>
    congr 1
    · omega
    · omega

/-- As far as the calendar reaches, an age lies between an instant and one before it. -/
theorem exists_back (plain : t.inLeapSecond = false) {age : Nat}
    (reaches : firstSecond * nanosPerSecond ≤ t.sinceEpoch - age) :
    ∃ s, t.back age = some s ∧ s.inLeapSecond = false ∧ s.sinceEpoch = t.sinceEpoch - age := by
  rw [back_eq_at? plain]
  apply exists_at? reaches
  have nano := inLeapSecond_eq_false_iff.mp plain
  have second := t.le_last
  unfold sinceEpoch
  unfold nanosPerSecond lastSecond at *
  omega

end Instant

/-! ## Objects over an age -/

/-- The object was created more than this many nanoseconds before an instant. -/
def Object.IsOver (age : Int) (now : Instant) (o : Object) : Prop :=
  ∃ t ∈ o.metadata.createdAt, age < now.sinceEpoch - t.sinceEpoch

instance (age : Int) (now : Instant) (o : Object) : Decidable (o.IsOver age now) :=
  inferInstanceAs (Decidable (∃ t ∈ o.metadata.createdAt, age < now.sinceEpoch - t.sinceEpoch))

/-- No object of a list was created inside a leap second. -/
def Plain (candidates : List Object) : Prop :=
  ∀ o ∈ candidates, ∀ t ∈ o.metadata.createdAt, t.inLeapSecond = false

theorem selectOlderThan_eq {candidates : List Object} {now cutoff : Instant} {age : Int}
    (plain : Plain candidates) (plainCutoff : cutoff.inLeapSecond = false)
    (before : cutoff.sinceEpoch = now.sinceEpoch - age) :
    selectOlderThan candidates cutoff = candidates.filter fun o => o.IsOver age now := by
  apply List.filter_congr
  intro o mem
  rw [Bool.eq_iff_iff, decide_eq_true_iff]
  unfold Object.isOlderThan Object.IsOver
  cases created : o.metadata.createdAt with
  | none => simp
  | some t =>
    have plainTime := plain o mem t created
    simp only [decide_eq_true_eq, Option.mem_some_iff, exists_eq_left',
      Instant.lt_iff_sinceEpoch plainTime plainCutoff, before]
    omega

/-! ## The strategy for an age -/

namespace Strategy

variable {σ : Type}

/-- A strategy for an age selects the candidates whose age in nanoseconds is over it, in their order
and as often as they are there, and so does the one for the instant that lies back by this age.  An
age that cannot be read or is negative is refused, whatever the candidates. -/
theorem select_over_age (age : String) (candidates : List Object) (now : Instant) :
    (∀ e, Duration.read age = .error e →
      (maxAge age : Strategy σ).select candidates now =
        .answer (.error (.config (.invalidMaxAge age (.unreadable e))))) ∧
    (∀ d, Duration.read age = .ok d → d.nanos < 0 →
      (maxAge age : Strategy σ).select candidates now =
        .answer (.error (.config (.invalidMaxAge age .negative)))) ∧
    ∀ d, Duration.read age = .ok d → 0 ≤ d.nanos → now.inLeapSecond = false → Plain candidates →
      firstSecond * nanosPerSecond ≤ now.sinceEpoch - d.nanos →
      (maxAge age : Strategy σ).select candidates now =
        .answer (.ok (candidates.filter fun o => o.IsOver d.nanos now)) ∧
      ∃ cutoff : Instant, cutoff.inLeapSecond = false ∧
        cutoff.sinceEpoch = now.sinceEpoch - d.nanos ∧
        ∀ other, (olderThan cutoff : Strategy σ).select candidates other =
          .answer (.ok (candidates.filter fun o => o.IsOver d.nanos now)) := by
  refine ⟨?_, ?_, ?_⟩
  · intro e unread
    simp only [select, selectByMaxAge, readMaxAge, unread]
  · intro d read negative
    simp only [select, selectByMaxAge, readMaxAge, read, if_pos negative]
  · intro d read natural plain plainCandidates reaches
    have size : ((d.nanos.toNat : Nat) : Int) = d.nanos := Int.toNat_of_nonneg natural
    rw [← size] at reaches
    obtain ⟨cutoff, back, plainCutoff, before⟩ := Instant.exists_back plain reaches
    rw [size] at before
    have selected := selectOlderThan_eq plainCandidates plainCutoff before
    refine ⟨?_, cutoff, plainCutoff, before, ?_⟩
    · simp only [select, selectByMaxAge, readMaxAge, read, if_neg (Int.not_lt.mpr natural), back,
        selected]
    · intro other
      simp only [select, selected]

end Strategy

/-! ## Rehearsed candidates -/

namespace Rehearsed

theorem read_threeHours : Duration.read "3h" = .ok ⟨10800000000000⟩ := by
  have only : Component.WrittenAs ⟨['3'], [], .hour⟩ "3h".toList :=
    .mk (.plain (by decide) (by simp)) List.mem_cons_self
  have written : (Spelling.mk false [⟨['3'], [], .hour⟩]).WrittenAs "3h".toList :=
    Spelling.writtenAs_flatten (by decide) (.cons only .nil)
  rw [Duration.read_of_writtenAs written]
  decide +kernel

/-- Candidates of which one is over three hours old at the start of 1970, and is there twice, one is
exactly as old, one is yet to come, and one has no creation time. -/
def threeHoursOld : List Object :=
  [bare "a" (-10801), bare "b" (-10800), bare "a" (-10801), bare "c" 5,
    { bare "d" 0 with metadata := .blank }]

end Rehearsed

namespace Strategy

open Rehearsed in
theorem select_over_age_rehearsed :
    Duration.read "3h" = .ok ⟨10800000000000⟩ ∧ Instant.epoch.inLeapSecond = false ∧
      Plain threeHoursOld ∧
      firstSecond * nanosPerSecond ≤ Instant.epoch.sinceEpoch - 10800000000000 ∧
      (maxAge "3h" : Strategy Unit).select threeHoursOld .epoch =
        .answer (.ok [bare "a" (-10801), bare "a" (-10801)]) := by
  have plain : Plain threeHoursOld := by
    unfold Plain
    decide +kernel
  have evaluated : (threeHoursOld.filter fun o => o.IsOver 10800000000000 .epoch) =
      [bare "a" (-10801), bare "a" (-10801)] := by
    decide +kernel
  obtain ⟨-, -, selects⟩ := select_over_age (σ := Unit) "3h" threeHoursOld .epoch
  obtain ⟨selected, -⟩ := selects _ read_threeHours (by decide) rfl plain (by decide)
  rw [evaluated] at selected
  exact ⟨read_threeHours, rfl, plain, by decide, selected⟩

end Strategy

end Retention
