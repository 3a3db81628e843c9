import Retention.Proofs.Ages
import Retention.Proofs.Phases

/-!
# The start of the calendar

To go back from an instant by an age fails exactly where that would lead past the start of the
calendar (`Instant.back_eq_none_iff`), and selecting by an age fails in this way exactly then
(`Strategy.select_beforeCalendar_iff`).  An age that can be read is shorter than 293 years, so it
never happens where the clock shows an instant at least `Duration.maxNanos` after the start.
-/

namespace Retention

variable {σ : Type}

/-! ## Going back from an instant -/

namespace Instant

/-- The start of the calendar. -/
def calendarStart : Instant :=
  ⟨firstSecond, 0, Int.le_refl firstSecond, by decide, epoch.nano_lt, by decide⟩

example : read? "-262143-01-01T00:00:00Z" = some calendarStart := by decide +kernel

theorem calendarStart_le (t : Instant) : calendarStart ≤ t := by
  rintro (less | ⟨_, less⟩)
  · exact Int.not_lt.mpr t.first_le less
  · exact Nat.not_lt_zero _ less

/-- Outside of leap seconds there is no instant only before the start of the calendar. -/
theorem of?_eq_none_iff {second : Int} {nano : Nat} (plain : nano < nanosPerSecond)
    (last : second ≤ lastSecond) : of? second nano = none ↔ second < firstSecond := by
  unfold of?
  unfold nanosPerSecond at *
  split
  next inside => exact iff_of_false (Option.some_ne_none _) (Int.not_lt.mpr inside.1.1)
  next outside =>
    refine iff_of_true rfl ?_
    by_contra reached
    exact outside ⟨⟨Int.not_lt.mp reached, last⟩, by omega, by omega⟩

/-- An age taken from seconds and nanoseconds, with a second borrowed where it has to be. -/
theorem borrowed_eq_none_iff {second : Int} {nano age : Nat} (plain : nano < nanosPerSecond)
    (last : second - (age / nanosPerSecond : Nat) ≤ lastSecond) :
    (if age % nanosPerSecond ≤ nano then
        of? (second - (age / nanosPerSecond : Nat)) (nano - age % nanosPerSecond)
      else
        of? (second - (age / nanosPerSecond : Nat) - 1)
          (nano + nanosPerSecond - age % nanosPerSecond)) = none ↔
      second * nanosPerSecond + nano - age < firstSecond * nanosPerSecond := by
  unfold nanosPerSecond at *
  split
  next enough =>
    rw [of?_eq_none_iff (by unfold nanosPerSecond; omega) last]
    omega
  next short =>
    rw [of?_eq_none_iff (by unfold nanosPerSecond; omega) (by omega)]
    omega

/-- An age reaches back from an instant, inside of leap seconds as well as outside, exactly as far
as the calendar. -/
theorem back_eq_none_iff {t : Instant} {age : Nat} :
    t.back age = none ↔ t.sinceEpoch - age < calendarStart.sinceEpoch := by
  have start : calendarStart.sinceEpoch = firstSecond * nanosPerSecond := rfl
  have last := t.le_last
  have seconds : (0 : Int) ≤ (age / nanosPerSecond : Nat) := Int.natCast_nonneg _
  rw [start, sinceEpoch]
  unfold back
  cases inLeap : t.inLeapSecond with
  | false =>
    simp only [Bool.false_and, Bool.false_eq_true, if_false]
    exact borrowed_eq_none_iff (inLeapSecond_eq_false_iff.mp inLeap) (by linarith)
  | true =>
    have inside : nanosPerSecond ≤ t.nano := of_decide_eq_true inLeap
    have first := t.first_le
    have bound := t.nano_lt
    have minute := t.leap inside
    simp only [Bool.true_and, decide_eq_true_eq, if_true]
    split
    next within =>
      -- The calendar does not start with the last second of a minute.
      have held : of? t.second (t.nano - age % nanosPerSecond) ≠ none := by
        unfold of?
        rw [dif_pos ⟨⟨first, last⟩, by omega, fun _ => minute⟩]
        exact Option.some_ne_none _
      refine iff_of_false held ?_
      unfold firstSecond nanosPerSecond at *
      omega
    next beyond =>
      have whole : 0 < age / nanosPerSecond := Nat.pos_of_ne_zero beyond
      have after : t.second * nanosPerSecond + t.nano =
          (t.second + 1) * nanosPerSecond + (t.nano - nanosPerSecond : Nat) := by
        unfold nanosPerSecond at *
        omega
      rw [after]
      exact borrowed_eq_none_iff (by omega) (by omega)

end Instant

/-! ## Selecting -/

theorem selectByMaxAge_beforeCalendar_iff {candidates : List Object} {age : String}
    {now : Instant} :
    selectByMaxAge candidates age now = .error .beforeCalendar ↔
      ∃ d, Duration.read age = .ok d ∧ 0 ≤ d.nanos ∧
        now.sinceEpoch - d.nanos < Instant.calendarStart.sinceEpoch := by
  unfold selectByMaxAge readMaxAge
  cases read : Duration.read age with
  | error e => simp
  | ok d =>
    by_cases negative : d.nanos < 0
    · simp [if_pos negative, Int.not_le.mpr negative]
    · have natural := Int.not_lt.mp negative
      have size : ((d.nanos.toNat : Nat) : Int) = d.nanos := Int.toNat_of_nonneg natural
      have reach : now.back d.nanos.toNat = none ↔ _ := Instant.back_eq_none_iff
      rw [size] at reach
      simp only [if_neg negative, Except.ok.injEq, exists_eq_left', natural, true_and, ← reach]
      cases now.back d.nanos.toNat with
      | none => simp
      | some cutoff => simp

namespace Strategy

/-- Selecting reaches back past the start of the calendar exactly where the strategy is one for an
age that lies further back. -/
theorem select_beforeCalendar_iff (strategy : Strategy σ) (candidates : List Object) (now : Instant)
    (s : σ) :
    ((strategy.select candidates now).run s).answer = .error .beforeCalendar ↔
      ∃ age d, strategy = .maxAge age ∧ Duration.read age = .ok d ∧ 0 ≤ d.nanos ∧
        now.sinceEpoch - d.nanos < Instant.calendarStart.sinceEpoch := by
  cases strategy with
  | maxCount count =>
    change selectByMaxCount candidates count = .error .beforeCalendar ↔ _
    unfold selectByMaxCount
    split <;> simp
  | maxAge age =>
    change selectByMaxAge candidates age now = .error .beforeCalendar ↔ _
    simp [selectByMaxAge_beforeCalendar_iff]
  | olderThan cutoff =>
    change Except.ok _ = Except.error _ ↔ _
    simp
  | custom selector =>
    cases selector with
    | none =>
      change Except.error _ = Except.error _ ↔ _
      simp
    | some selector =>
      change ((selector candidates).run s).answer.mapError _ = .error _ ↔ _
      cases ((selector candidates).run s).answer <;> simp [Except.mapError]

/-- No age reaches so far back from an instant that lies late enough in the calendar. -/
theorem select_ne_beforeCalendar (strategy : Strategy σ) (candidates : List Object) {now : Instant}
    (late : Instant.calendarStart.sinceEpoch + (2 ^ 63 - 1) ≤ now.sinceEpoch) (s : σ) :
    ((strategy.select candidates now).run s).answer ≠ .error .beforeCalendar := by
  rw [Ne, select_beforeCalendar_iff]
  rintro ⟨age, d, -, read, -, before⟩
  have bound := Duration.natAbs_le_maxNanos read
  have most : Duration.maxNanos = 2 ^ 63 - 1 := rfl
  omega

end Strategy

/-! ## Passes -/

namespace Pruner

variable {p : Pruner σ} {store : Store σ} {scene : Scene σ}

/-- A choice goes past the start of the calendar only in its strategy. -/
theorem Choice.exists_select_of_beforeCalendar {r : Progress σ (List Object)}
    (choice : p.Choice store scene r) (stops : r.outcome = .error (.strategy .beforeCalendar)) :
    ∃ candidates s, ((p.strategy.select candidates (p.clock s)).run s).answer =
      .error .beforeCalendar := by
  cases choice with
  | invalid _ => cases stops
  | unlisted _ listing =>
    cases stops
    rcases listing.error_cases with failed | ⟨_, failed⟩ <;> cases failed
  | unfiltered _ _ filtering =>
    rcases filtering.error_cases stops with ⟨_, _, failed⟩ | ⟨_, _, failed⟩ <;> cases failed
  | selected _ _ _ selecting =>
    cases selecting with
    | answered _ _ => cases stops
    | failed called answer =>
      cases stops
      exact ⟨_, _, called ▸ answer⟩

theorem exists_select_of_beforeCalendar
    (stops : ((p.prune store).run scene).outcome = .error (.strategy .beforeCalendar)) :
    ∃ candidates s, ((p.strategy.select candidates (p.clock s)).run s).answer =
      .error .beforeCalendar := by
  have course := prune_course (p := p) store scene
  generalize (p.prune store).run scene = pass at course stops
  rcases course.continuation with
    ⟨e, after, trace, chosen, rfl⟩ | ⟨selection, middle, first, later, chosen, continued⟩
  · exact (choice_of_run chosen).exists_select_of_beforeCalendar stops
  · cases continued.not_early stops

/-- Selecting reaches back past the first of all instants exactly where the strategy is one for an
age that lies further back.  It never does, and no pass does, where the clock shows an instant that
lies at least the greatest age that can be read after the first. -/
theorem beforeCalendar_iff :
    (∀ t, Instant.calendarStart ≤ t) ∧
    (∀ (strategy : Strategy σ) (candidates : List Object) (now : Instant) (s : σ),
      ((strategy.select candidates now).run s).answer = .error .beforeCalendar ↔
        ∃ age d, strategy = .maxAge age ∧ Duration.read age = .ok d ∧ 0 ≤ d.nanos ∧
          now.sinceEpoch - d.nanos < Instant.calendarStart.sinceEpoch) ∧
    (∀ (strategy : Strategy σ) (candidates : List Object) (now : Instant) (s : σ),
      Instant.calendarStart.sinceEpoch + (2 ^ 63 - 1) ≤ now.sinceEpoch →
      ((strategy.select candidates now).run s).answer ≠ .error .beforeCalendar) ∧
    ∀ (p : Pruner σ) (store : Store σ) (scene : Scene σ),
      (∀ s, Instant.calendarStart.sinceEpoch + (2 ^ 63 - 1) ≤ (p.clock s).sinceEpoch) →
      ((p.prune store).run scene).outcome ≠ .error (.strategy .beforeCalendar) := by
  refine ⟨Instant.calendarStart_le, Strategy.select_beforeCalendar_iff, ?_, ?_⟩
  · intro strategy candidates now s late
    exact strategy.select_ne_beforeCalendar candidates late s
  · intro p store scene late stops
    obtain ⟨candidates, s, answer⟩ := exists_select_of_beforeCalendar stops
    exact p.strategy.select_ne_beforeCalendar candidates (late s) s answer

end Pruner

/-! ## Rehearsed instants -/

namespace Rehearsed

/-- The last instant from which an age can reach back past the start of the calendar. -/
def lastEarly : Instant :=
  ⟨firstSecond + 9223372036, 854775806, by decide, by decide, by decide, by decide⟩

theorem read_greatestAge :
    Duration.read "9223372036854775807ns" = .ok ⟨9223372036854775807⟩ := by
  have only : Component.WrittenAs ⟨"9223372036854775807".toList, [], .nanosecond⟩
      "9223372036854775807ns".toList :=
    .mk (.plain (by decide) (by simp)) List.mem_cons_self
  have written : (Spelling.mk false [⟨"9223372036854775807".toList, [], .nanosecond⟩]).WrittenAs
      "9223372036854775807ns".toList :=
    Spelling.writtenAs_flatten (by decide) (.cons only .nil)
  rw [Duration.read_of_writtenAs written]
  decide +kernel

/-- A pruner of the pods over the greatest age, at the start of 1970. -/
def patientPruner : Pruner Stage :=
  { pruner with strategy := .maxAge "9223372036854775807ns", clock := fun _ => .epoch }

end Rehearsed

namespace Pruner

open Rehearsed in
theorem beforeCalendar_iff_rehearsed :
    ((patientPruner.strategy.select [] lastEarly).run stage).answer = .error .beforeCalendar ∧
      (∀ s, Instant.calendarStart.sinceEpoch + (2 ^ 63 - 1) ≤
        (patientPruner.clock s).sinceEpoch) ∧
      ((patientPruner.prune Stage.store).run ⟨stage, .quiet⟩).outcome ≠
        .error (.strategy .beforeCalendar) := by
  obtain ⟨-, reaches, -, passes⟩ := beforeCalendar_iff (σ := Stage)
  have late : Instant.calendarStart.sinceEpoch + (2 ^ 63 - 1) ≤ Instant.epoch.sinceEpoch := by
    decide
  refine ⟨?_, fun _ => late, passes _ _ _ fun _ => late⟩
  exact (reaches _ _ _ _).mpr ⟨_, _, rfl, read_greatestAge, by decide, by decide⟩

end Pruner

end Retention
