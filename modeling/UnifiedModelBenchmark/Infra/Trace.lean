import Mathlib.Data.List.Basic

/-!
# Traces of a labelled transition relation

`Trace Step s as s'` is a run from `s` to `s'` with the labels `as`, in order. What holds along a
run is shown with `Trace.invariant`: it holds at the start, and one more step keeps it. The
invariant may speak about the labels seen so far.

A program loop whose body may throw is a run of this kind (`trace_of_foldlM`).
-/

namespace Infra

universe u v w

variable {σ : Type u} {α : Type v} {ε : Type w} {Step : σ → α → σ → Prop}

/-- The runs of a transition relation, grown at the end. -/
inductive Trace (Step : σ → α → σ → Prop) (s : σ) : List α → σ → Prop
  | nil : Trace Step s [] s
  | snoc {as : List α} {s₁ s₂ : σ} {a : α} (h : Trace Step s as s₁) (hstep : Step s₁ a s₂) :
      Trace Step s (as ++ [a]) s₂

namespace Trace

/-- **Induction over a run**: what holds at the start and is kept by every step holds at the end. -/
theorem invariant (Inv : List α → σ → Prop) {s : σ} (hinit : Inv [] s)
    (hstep : ∀ as s₁ a s₂, Inv as s₁ → Step s₁ a s₂ → Inv (as ++ [a]) s₂) {as : List α} {s' : σ}
    (h : Trace Step s as s') : Inv as s' := by
  induction h with
  | nil => exact hinit
  | snoc _ hs ih => exact hstep _ _ _ _ ih hs

theorem single {s s' : σ} {a : α} (h : Step s a s') : Trace Step s [a] s' := .snoc .nil h

theorem append {s s₁ s₂ : σ} {as bs : List α} (h : Trace Step s as s₁)
    (h' : Trace Step s₁ bs s₂) : Trace Step s (as ++ bs) s₂ := by
  induction h' with
  | nil => rw [List.append_nil]; exact h
  | snoc _ hs ih => rw [← List.append_assoc]; exact .snoc ih hs

theorem cons {s s₁ s₂ : σ} {a : α} {as : List α} (h : Step s a s₁) (h' : Trace Step s₁ as s₂) :
    Trace Step s (a :: as) s₂ := (single h).append h'

end Trace

/-- A loop whose body may throw, if it ends normally, is a run of its body. -/
theorem trace_of_foldlM {f : σ → α → Except ε σ} : ∀ {as : List α} {s s' : σ},
    as.foldlM f s = .ok s' → Trace (fun s₁ a s₂ => f s₁ a = .ok s₂) s as s'
  | [], s, s', h => by
    obtain rfl : s = s' := by simpa [pure, Except.pure] using h
    exact .nil
  | a :: as, s, s', h => by
    rw [List.foldlM_cons] at h
    cases hs : f s a with
    | error e => rw [hs] at h; simp [bind, Except.bind] at h
    | ok s₁ =>
      rw [hs] at h
      exact .cons hs (trace_of_foldlM h)

/-- The same for a transition function that says which actions are possible. -/
theorem trace_of_foldlM_some {f : σ → α → Option σ} : ∀ {as : List α} {s s' : σ},
    as.foldlM f s = some s' → Trace (fun s₁ a s₂ => f s₁ a = some s₂) s as s'
  | [], s, s', h => by
    obtain rfl : s = s' := by simpa using h
    exact .nil
  | a :: as, s, s', h => by
    rw [List.foldlM_cons] at h
    obtain ⟨s₁, hs, hrest⟩ := Option.bind_eq_some_iff.mp h
    exact .cons hs (trace_of_foldlM_some hrest)

/-- A loop whose body may throw ends normally if its body does in all states of an invariant. -/
theorem foldlM_ok (Inv : σ → Prop) {f : σ → α → Except ε σ} : ∀ {as : List α} {s : σ},
    Inv s → (∀ a ∈ as, ∀ s, Inv s → ∃ s', f s a = .ok s' ∧ Inv s') →
      ∃ s', as.foldlM f s = .ok s' ∧ Inv s'
  | [], s, hs, _ => ⟨s, rfl, hs⟩
  | a :: as, s, hs, hbody => by
    obtain ⟨s₁, h, hs₁⟩ := hbody a (List.mem_cons_self ..) s hs
    rw [List.foldlM_cons, h]
    exact foldlM_ok Inv hs₁ fun b hb => hbody b (List.mem_cons_of_mem a hb)

end Infra
