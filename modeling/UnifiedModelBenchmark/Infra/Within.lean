import UnifiedModelBenchmark.Infra.Trace

/-!
# What comes about within a number of steps

A system whose threads take turns. Which thread makes the next step is up to the scheduler; what the
step finds is up to the environment. `Within step Goal n s` says that from `s` some scheduler gets
to `Goal` in `n` steps at most, whatever the environment does, and is never stuck on the way.

It is shown with a rank: where the goal is not reached, some thread can make a step, and every
outcome of this step has a lower rank (`Within.of_rank`).
-/

namespace Infra

universe u v w

variable {σ : Type u} {ι : Type v} {ε : Type w}

def Within (step : σ → ι → ε → Option σ) (Goal : σ → Prop) : Nat → σ → Prop
  | 0, s => Goal s
  | n + 1, s => Goal s ∨ ∃ i, ∀ e, ∃ s', step s i e = some s' ∧ Within step Goal n s'

theorem Within.of_goal {step : σ → ι → ε → Option σ} {Goal : σ → Prop} {s : σ} (h : Goal s) :
    ∀ n, Within step Goal n s
  | 0 => h
  | _ + 1 => .inl h

/-- **A rank that can always be lowered** bounds the number of steps. -/
theorem Within.of_rank {step : σ → ι → ε → Option σ} {Goal : σ → Prop} (Inv : σ → Prop)
    (rank : σ → Nat) (hstep : ∀ s, Inv s → ¬ Goal s → 0 < rank s ∧
      ∃ i, ∀ e, ∃ s', step s i e = some s' ∧ (Goal s' ∨ (Inv s' ∧ rank s' < rank s))) :
    ∀ (n : Nat) {s : σ}, Inv s → rank s ≤ n → Within step Goal n s
  | 0, s, hs, hn => by
    by_contra hgoal
    have hpos := (hstep s hs hgoal).1
    omega
  | n + 1, s, hs, hn => by
    by_cases hgoal : Goal s
    · exact .inl hgoal
    · obtain ⟨-, i, hi⟩ := hstep s hs hgoal
      refine .inr ⟨i, fun e => ?_⟩
      obtain ⟨s', hs', hreached | ⟨hinv, hlt⟩⟩ := hi e
      · exact ⟨s', hs', .of_goal hreached n⟩
      · exact ⟨s', hs', of_rank Inv rank hstep n hinv (by omega)⟩

end Infra
