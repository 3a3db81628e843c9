import Retention.Proofs.Candidates
import Retention.Proofs.Continuation

/-!
# The verdicts in a trace

A pass asks its registry about coerced objects, and about nothing else, so every verdict in its trace
is the registry's on a coerced object, in the state that the registry was asked in (`judged_of_mem`).
-/

namespace Retention

variable {σ : Type}

namespace Pruner

variable {p : Pruner σ} {store : Store σ} {scene : Scene σ}

/-- The verdicts of a choice are those of its filtering. -/
theorem Choice.judgements_cases {r : Progress σ (List Object)} (choice : p.Choice store scene r) :
    judgements r.trace = [] ∨ ∃ listed middle q, p.Filtering listed middle q ∧
      judgements r.trace = judgements q.trace := by
  cases choice with
  | invalid _ => exact .inl rfl
  | @unlisted _ _ trace _ listing =>
    have first : judgements trace = [] := listing.judgements_eq
    exact .inl (by simp [startedEvent, first])
  | @unfiltered _ _ _ _ trace _ _ listing filtering =>
    have first : judgements trace = [] := listing.judgements_eq
    exact .inr ⟨_, _, _, filtering, by simp [startedEvent, first]⟩
  | @selected _ _ _ _ trace _ _ _ listing filtering selecting =>
    have first : judgements trace = [] := listing.judgements_eq
    have third := selecting.judgements_eq
    exact .inr ⟨_, _, _, filtering, by simp [startedEvent, Progress.after, first, third]⟩

/-- Wherever a pass has an object judged, the object was coerced and the verdict is the registry's. -/
theorem judged_of_mem {o : Object} {v : Verdict}
    (judged : .judged o v ∈ ((p.prune store).run scene).trace) :
    ∃ l : Object, l.coerce p.type = .ok o ∧
      ∃ s, v = ((p.registry.judge o).run s).answer := by
  have course := prune_course (p := p) store scene
  generalize (p.prune store).run scene = pass at course judged
  rw [← mem_judgements] at judged
  have found {r : Progress σ (List Object)} (choice : p.Choice store scene r)
      (judged : (o, v) ∈ judgements r.trace) :
      ∃ l : Object, l.coerce p.type = .ok o ∧
        ∃ s, v = ((p.registry.judge o).run s).answer := by
    rcases choice.judgements_cases with none | ⟨listed, middle, q, filtering, same⟩
    · simp [none] at judged
    · rw [same] at judged
      obtain ⟨l, -, coerced, answered⟩ := filtering.judged_mem judged
      exact ⟨l, coerced, answered⟩
  rcases course.continuation with
    ⟨e, after, trace, chosen, rfl⟩ | ⟨selection, middle, first, later, chosen, continued⟩
  · exact found (choice_of_run chosen) judged
  · rw [← judgements_inquiries, continued.inquiries_eq, judgements_inquiries] at judged
    exact found (choice_of_run chosen) judged

/-- A registry that judges each object by itself does so in every pass. -/
theorem judgedBy_prune {verdict : Object → Verdict} (judges : p.JudgesBy verdict) (store : Store σ)
    (scene : Scene σ) : JudgedBy verdict ((p.prune store).run scene).trace := by
  intro o answer mem
  obtain ⟨_, _, s, rfl⟩ := judged_of_mem mem
  exact judges o s

end Pruner

end Retention
