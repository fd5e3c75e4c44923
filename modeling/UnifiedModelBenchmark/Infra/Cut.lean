import Mathlib.Data.List.Basic

/-!
# Cutting a list at a delimiter

`cut d s` splits `s` around the first occurrence of `d`. `cutWhile p d s` does the same but gives
up at the first symbol before `d` that does not satisfy `p`.

The two agree on a stretch of `p` symbols whatever follows it (`cutWhile_append`), as long as
what follows starts with a symbol that neither is `d` nor satisfies `p`.
-/

namespace Infra

universe u

variable {α : Type u} [DecidableEq α]

/-- `s` split around the first `d`. -/
def cut (d : α) : List α → Option (List α × List α)
  | [] => none
  | c :: s => if c = d then some ([], s) else (cut d s).map fun x => (c :: x.1, x.2)

/-- `s` split around the first `d`, if only `p` symbols stand before it. -/
def cutWhile (p : α → Bool) (d : α) : List α → Option (List α × List α)
  | [] => none
  | c :: s =>
    if c = d then some ([], s)
    else if p c then (cutWhile p d s).map fun x => (c :: x.1, x.2)
    else none

variable {p : α → Bool} {d : α}

theorem cut_append_cons : ∀ {a : List α}, d ∉ a → ∀ b, cut d (a ++ d :: b) = some (a, b)
  | [], _, b => by simp [cut]
  | c :: a, h, b => by
    have hc : c ≠ d := fun he => h (by simp [he])
    rw [List.cons_append, cut, if_neg hc, cut_append_cons (fun hm => h (by simp [hm])) b]
    rfl

/-- What stands before the first delimiter and what follows it are determined. -/
theorem append_cons_inj {a a' b b' : List α} (ha : d ∉ a) (ha' : d ∉ a')
    (h : a ++ d :: b = a' ++ d :: b') : a = a' ∧ b = b' := by
  have hcut := cut_append_cons ha b
  rw [h, cut_append_cons ha' b'] at hcut
  obtain ⟨hl, hr⟩ := Prod.mk.inj (Option.some.inj hcut)
  exact ⟨hl.symm, hr.symm⟩

theorem cut_eq_some : ∀ {s a b : List α}, cut d s = some (a, b) → s = a ++ d :: b ∧ d ∉ a
  | [], _, _, h => by simp [cut] at h
  | c :: s, a, b, h => by
    rw [cut] at h
    split at h
    · next hc =>
      simp only [Option.some.injEq, Prod.mk.injEq] at h
      obtain ⟨rfl, rfl⟩ := h
      simp [hc]
    · next hc =>
      obtain ⟨⟨a', b'⟩, hcut, he⟩ := Option.map_eq_some_iff.mp h
      simp only [Prod.mk.injEq] at he
      obtain ⟨rfl, rfl⟩ := he
      obtain ⟨rfl, hd⟩ := cut_eq_some hcut
      exact ⟨rfl, by simp [Ne.symm hc, hd]⟩

theorem cut_eq_none : ∀ {s : List α}, cut d s = none ↔ d ∉ s
  | [] => by simp [cut]
  | c :: s => by
    rw [cut]
    by_cases hc : c = d
    · simp [hc]
    · simp [hc, Ne.symm hc, cut_eq_none (s := s)]

/-- What `cut` leaves is shorter than what it was given. -/
theorem cut_length {s a b : List α} (h : cut d s = some (a, b)) : b.length < s.length := by
  rw [(cut_eq_some h).1]
  simp only [List.length_append, List.length_cons]
  omega

/-- **On a stretch of `p` symbols `cutWhile` is `cut`**, and what follows the stretch is handed
through. -/
theorem cutWhile_append : ∀ {seg tail : List α}, (∀ c ∈ seg, p c = true) →
    (∀ c ∈ tail.head?, p c = false ∧ c ≠ d) →
    cutWhile p d (seg ++ tail) = (cut d seg).map fun x => (x.1, x.2 ++ tail)
  | [], tail, _, ht => by
    cases tail with
    | nil => rfl
    | cons c t =>
      obtain ⟨hp, hd⟩ := ht c rfl
      simp [cut, cutWhile, hp, hd]
  | c :: seg, tail, hs, ht => by
    rw [List.cons_append, cutWhile, cut]
    by_cases hc : c = d
    · simp [hc]
    · rw [cutWhile_append (fun x hx => hs x (List.mem_cons_of_mem _ hx)) ht]
      simp [hc, hs c List.mem_cons_self, Function.comp_def]

/-- If every element has `P` or `Q`, then all have `P`, or there is a first one that has `Q`. -/
theorem exists_first {β : Type u} {P Q : β → Prop} : ∀ {l : List β}, (∀ b ∈ l, P b ∨ Q b) →
    (∀ b ∈ l, P b) ∨ ∃ before b after, l = before ++ b :: after ∧ (∀ a ∈ before, P a) ∧ Q b
  | [], _ => .inl (by simp)
  | b :: l, h => by
    obtain ⟨hb, hl⟩ := List.forall_mem_cons.mp h
    rcases hb with hP | hQ
    · rcases exists_first hl with hall | ⟨before, b', after, rfl, hbefore, hb'⟩
      · exact .inl (List.forall_mem_cons.mpr ⟨hP, hall⟩)
      · exact .inr ⟨b :: before, b', after, rfl, List.forall_mem_cons.mpr ⟨hP, hbefore⟩, hb'⟩
    · exact .inr ⟨[], b, l, rfl, by simp, hQ⟩

end Infra
