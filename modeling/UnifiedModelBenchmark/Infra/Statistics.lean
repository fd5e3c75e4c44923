import Mathlib.Algebra.Order.BigOperators.Group.List
import Mathlib.Algebra.Order.Field.Basic
import Mathlib.Data.List.Perm.Basic
import Mathlib.Order.Bounds.Basic
import Mathlib.Tactic.FieldSimp
import Mathlib.Tactic.Linarith
import Mathlib.Tactic.Ring

/-!
# Extremes, mean and variance of a list

* `foldl_max`, `foldl_min` — a loop that keeps the largest (smallest) element so far has to start
  somewhere, and what it starts from is one of the candidates.
* `isGreatest_iff_of_insert` — when such a loop over a part of a set finds the greatest element
  of the set.
* `variance_le` — the variance is at most `(M - mean) * (mean - m)` for all bounds `m` and `M` of
  the elements. They need not be elements themselves.
* `variance_append` — the variance of two lists together, from their sizes, means and variances.
* `all_eq_of_sum_take` — a part of a list has the same sum in every order of the list only if all
  elements are equal.
-/

namespace Infra

universe u

/-! ## Running extremes -/

section

variable {K : Type u} [LinearOrder K]

/-- **A running maximum** is the greatest of the elements and of what it was started from. -/
theorem foldl_max : ∀ (b : K) (l : List K),
    IsGreatest (insert b {x | x ∈ l}) (l.foldl max b)
  | b, [] => ⟨Set.mem_insert b _, by simp [upperBounds]⟩
  | b, x :: l => by
    obtain ⟨hmem, hub⟩ := foldl_max (max b x) l
    rw [List.foldl_cons]
    refine ⟨?_, ?_⟩
    · rcases hmem with heq | hl
      · rcases max_choice b x with hb | hx
        · exact Or.inl (heq.trans hb)
        · exact Or.inr (List.mem_cons.mpr (Or.inl (heq.trans hx)))
      · exact Or.inr (List.mem_cons_of_mem x hl)
    · have hmax : max b x ≤ l.foldl max (max b x) := hub (Set.mem_insert _ _)
      rintro y (rfl | hy)
      · exact (le_max_left y x).trans hmax
      · rcases List.mem_cons.mp hy with rfl | hy
        · exact (le_max_right b y).trans hmax
        · exact hub (Or.inr hy)

/-- **A running minimum**, likewise. -/
theorem foldl_min (b : K) (l : List K) : IsLeast (insert b {x | x ∈ l}) (l.foldl min b) :=
  foldl_max (K := Kᵒᵈ) b l

/-- Two loops that start alike find together what one loop over both lists finds. -/
theorem foldl_max_append (b : K) (l l' : List K) :
    (l ++ l').foldl max b = max (l.foldl max b) (l'.foldl max b) := by
  have hset : insert b {x | x ∈ l ++ l'} = insert b {x | x ∈ l} ∪ insert b {x | x ∈ l'} := by
    ext x
    simp only [Set.mem_insert_iff, Set.mem_ofPred_eq, List.mem_append, Set.mem_union]
    tauto
  have hboth := (foldl_max b l).union (foldl_max b l')
  rw [← hset] at hboth
  exact (foldl_max b (l ++ l')).unique hboth

theorem foldl_min_append (b : K) (l l' : List K) :
    (l ++ l').foldl min b = min (l.foldl min b) (l'.foldl min b) :=
  foldl_max_append (K := Kᵒᵈ) b l l'

/-- The greatest of `b` and some elements of `S` is that of `S` exactly if `S` has a greatest
element, not below `b`, which is `b` or one of these. -/
theorem isGreatest_iff_of_insert {S V : Set K} (hV : V ⊆ S) {b g : K}
    (hg : IsGreatest (insert b V) g) :
    IsGreatest S g ↔ ∃ M, IsGreatest S M ∧ b ≤ M ∧ (M = b ∨ M ∈ V) := by
  constructor
  · intro h
    exact ⟨g, h, hg.2 (Set.mem_insert b V), hg.1⟩
  · rintro ⟨M, hM, hb, hmem⟩
    have hMV : IsGreatest (insert b V) M := by
      refine ⟨hmem, ?_⟩
      rintro y (rfl | hy)
      · exact hb
      · exact hM.2 (hV hy)
    rw [hg.unique hMV]
    exact hM

theorem isLeast_iff_of_insert {S V : Set K} (hV : V ⊆ S) {b g : K} (hg : IsLeast (insert b V) g) :
    IsLeast S g ↔ ∃ m, IsLeast S m ∧ m ≤ b ∧ (m = b ∨ m ∈ V) :=
  isGreatest_iff_of_insert (K := Kᵒᵈ) hV hg

theorem exists_isGreatest {l : List K} (h : l ≠ []) : ∃ M, IsGreatest {x | x ∈ l} M := by
  obtain ⟨a, t, rfl⟩ := List.exists_cons_of_ne_nil h
  have hset : {x | x ∈ a :: t} = insert a {x | x ∈ t} := by
    ext x
    simp
  exact ⟨_, hset ▸ foldl_max a t⟩

theorem exists_isLeast {l : List K} (h : l ≠ []) : ∃ m, IsLeast {x | x ∈ l} m :=
  exists_isGreatest (K := Kᵒᵈ) h

/-- The sum and both extremes in one loop. -/
theorem foldl_sum_max_min [AddMonoid K] : ∀ (l : List K) (s M m : K),
    l.foldl (fun (acc : K × K × K) x => (acc.1 + x, if acc.2.1 < x then x else acc.2.1,
        if x < acc.2.2 then x else acc.2.2)) (s, M, m)
      = (s + l.sum, l.foldl max M, l.foldl min m)
  | [], s, M, m => by simp
  | x :: l, s, M, m => by
    rw [List.foldl_cons, foldl_sum_max_min l, List.sum_cons, add_assoc, List.foldl_cons,
      List.foldl_cons, max_def_lt, min_comm m x, min_def_lt]

end

section

variable {K : Type u} [Field K]

/-! ## Mean and variance -/

def mean (l : List K) : K := l.sum / l.length

/-- The mean of the squared distances to the mean. -/
def variance (l : List K) : K := (l.map fun x => (x - mean l) ^ 2).sum / l.length

theorem mean_perm {l l' : List K} (h : l.Perm l') : mean l = mean l' := by
  unfold mean
  rw [h.sum_eq, h.length_eq]

theorem variance_perm {l l' : List K} (h : l.Perm l') : variance l = variance l' := by
  unfold variance
  rw [mean_perm h, (h.map _).sum_eq, h.length_eq]

/-- The products of the distances to two bounds, in terms of the distances to a `c`. -/
theorem sum_distances (m M c : K) : ∀ l : List K,
    (l.map fun x => (M - x) * (x - m)).sum
      = l.length * ((M - c) * (c - m)) - (l.map fun x => (x - c) ^ 2).sum
        + (M + m - 2 * c) * (l.sum - l.length * c)
  | [] => by simp
  | x :: l => by
    rw [List.map_cons, List.sum_cons, List.map_cons, List.sum_cons, List.sum_cons, List.length_cons,
      sum_distances m M c l, Nat.cast_succ]
    ring

/-- The squared distances to a `c`, in terms of those to a `d`. -/
theorem sum_sq_shift (c d : K) : ∀ l : List K,
    (l.map fun x => (x - c) ^ 2).sum
      = (l.map fun x => (x - d) ^ 2).sum + 2 * (d - c) * (l.sum - l.length * d)
        + l.length * (d - c) ^ 2
  | [] => by simp
  | x :: l => by
    rw [List.map_cons, List.sum_cons, List.map_cons, List.sum_cons, List.sum_cons, List.length_cons,
      sum_sq_shift c d l, Nat.cast_succ]
    ring

end

section

variable {K : Type u} [Field K] [LinearOrder K] [IsStrictOrderedRing K]

/-! ## Bounds of the mean -/

theorem length_pos_cast {l : List K} (h : l ≠ []) : (0 : K) < l.length :=
  Nat.cast_pos.mpr (List.length_pos_iff.mpr h)

theorem length_mul_mean {l : List K} (h : l ≠ []) : l.length * mean l = l.sum := by
  have hpos := length_pos_cast h
  unfold mean
  field_simp

/-- The mean is at most every upper bound of the elements. -/
theorem mean_le {l : List K} (h : l ≠ []) {M : K} (hM : ∀ x ∈ l, x ≤ M) : mean l ≤ M := by
  have hsum : l.sum ≤ l.length • M := List.sum_le_card_nsmul l M hM
  unfold mean
  rw [div_le_iff₀ (length_pos_cast h), mul_comm, ← nsmul_eq_mul]
  exact hsum

theorem le_mean {l : List K} (h : l ≠ []) {m : K} (hm : ∀ x ∈ l, m ≤ x) : m ≤ mean l := by
  have hsum : l.length • m ≤ l.sum := List.card_nsmul_le_sum l m hm
  unfold mean
  rw [le_div_iff₀ (length_pos_cast h), mul_comm, ← nsmul_eq_mul]
  exact hsum

/-! ## Bounds of the variance -/

theorem sum_sq_nonneg (l : List K) (c : K) : 0 ≤ (l.map fun x => (x - c) ^ 2).sum := by
  refine List.sum_nonneg fun y hy => ?_
  obtain ⟨x, -, rfl⟩ := List.mem_map.mp hy
  exact sq_nonneg _

theorem variance_nonneg (l : List K) : 0 ≤ variance l :=
  div_nonneg (sum_sq_nonneg l (mean l)) (Nat.cast_nonneg l.length)

/-- **The variance of a bounded list.** -/
theorem variance_le {l : List K} (h : l ≠ []) {m M : K} (hm : ∀ x ∈ l, m ≤ x)
    (hM : ∀ x ∈ l, x ≤ M) : variance l ≤ (M - mean l) * (mean l - m) := by
  have hdist : 0 ≤ (l.map fun x => (M - x) * (x - m)).sum := by
    refine List.sum_nonneg fun y hy => ?_
    obtain ⟨x, hx, rfl⟩ := List.mem_map.mp hy
    exact mul_nonneg (sub_nonneg.mpr (hM x hx)) (sub_nonneg.mpr (hm x hx))
  -- around the mean the linear part vanishes
  rw [sum_distances m M (mean l), length_mul_mean h, sub_self, mul_zero, add_zero] at hdist
  unfold variance
  rw [div_le_iff₀ (length_pos_cast h), mul_comm]
  linarith

/-- There is no variance exactly if all elements are equal. -/
theorem variance_eq_zero_iff {l : List K} (h : l ≠ []) :
    variance l = 0 ↔ ∀ x ∈ l, ∀ y ∈ l, x = y := by
  have hlen : (l.length : K) ≠ 0 := (length_pos_cast h).ne'
  unfold variance
  rw [div_eq_zero_iff, or_iff_left hlen]
  constructor
  · intro hsum
    have hmean : ∀ x ∈ l, x = mean l := by
      intro x hx
      have hzero := List.all_zero_of_le_zero_le_of_sum_eq_zero (fun y hy => by
        obtain ⟨z, -, rfl⟩ := List.mem_map.mp hy
        exact sq_nonneg _) hsum (List.mem_map_of_mem hx)
      exact sub_eq_zero.mp (pow_eq_zero_iff (two_ne_zero) |>.mp hzero)
    intro x hx y hy
    rw [hmean x hx, hmean y hy]
  · intro hall
    -- the mean lies between bounds that are the one element there is
    have hmean : ∀ x ∈ l, x = mean l := fun x hx =>
      le_antisymm (le_mean h fun y hy => (hall x hx y hy).le)
        (mean_le h fun y hy => (hall y hy x hx).le)
    refine List.sum_eq_zero fun z hz => ?_
    obtain ⟨x, hx, rfl⟩ := List.mem_map.mp hz
    rw [← hmean x hx, sub_self]
    exact zero_pow two_ne_zero

/-! ## Two lists together -/

/-- The squared distances to a `c` are those to the mean, and the one of the mean itself. -/
theorem sum_sq_eq {l : List K} (h : l ≠ []) (c : K) :
    (l.map fun x => (x - c) ^ 2).sum = l.length * variance l + l.length * (mean l - c) ^ 2 := by
  have hlen : (l.length : K) ≠ 0 := (length_pos_cast h).ne'
  rw [sum_sq_shift c (mean l), length_mul_mean h, sub_self, mul_zero, add_zero]
  unfold variance
  rw [mul_div_cancel₀ _ hlen]

theorem mean_append {l l' : List K} (h : l ≠ []) (h' : l' ≠ []) :
    mean (l ++ l') = (l.length * mean l + l'.length * mean l') / (l.length + l'.length) := by
  rw [length_mul_mean h, length_mul_mean h']
  unfold mean
  rw [List.sum_append, List.length_append, Nat.cast_add]

/-- **The variance of two lists together**: what they have on their own, and what the distance of
their means adds. -/
theorem variance_append {l l' : List K} (h : l ≠ []) (h' : l' ≠ []) :
    variance (l ++ l')
      = (l.length * variance l + l'.length * variance l') / (l.length + l'.length)
        + l.length * l'.length / (l.length + l'.length) ^ 2 * (mean l - mean l') ^ 2 := by
  have hpos : (0 : K) < l.length + l'.length := add_pos (length_pos_cast h) (length_pos_cast h')
  have hsum : (l ++ l').length * variance (l ++ l')
      = l.length * variance l + l.length * (mean l - mean (l ++ l')) ^ 2
        + (l'.length * variance l' + l'.length * (mean l' - mean (l ++ l')) ^ 2) := by
    have hall := sum_sq_eq (List.append_ne_nil_of_left_ne_nil h l') (mean (l ++ l'))
    rw [sub_self, zero_pow two_ne_zero, mul_zero, add_zero, List.map_append, List.sum_append,
      sum_sq_eq h, sum_sq_eq h'] at hall
    exact hall.symm
  rw [mean_append h h', List.length_append, Nat.cast_add] at hsum
  have hvariance : variance (l ++ l')
      = ((l.length + l'.length) * variance (l ++ l')) / (l.length + l'.length) :=
    (mul_div_cancel_left₀ _ hpos.ne').symm
  rw [hvariance, hsum]
  field_simp
  ring

/-! ## Parts of a list -/

/-- **Only a list of equal elements** has parts whose sum does not depend on the order. -/
theorem all_eq_of_sum_take {l : List K} {r : Nat} (hr : 0 < r) (hlt : r < l.length)
    (h : ∀ l', l.Perm l' → (l'.take r).sum = (l.take r).sum) : ∀ x ∈ l, ∀ y ∈ l, x = y := by
  intro x hx y hy
  by_contra hne
  obtain ⟨r, rfl⟩ : ∃ k, r = k + 1 := ⟨r - 1, by omega⟩
  have hrest : l.Perm (x :: y :: (l.erase x).erase y) :=
    (List.perm_cons_erase hx).trans
      ((List.perm_cons_erase ((List.mem_erase_of_ne (Ne.symm hne)).mpr hy)).cons x)
  obtain ⟨rest, hrest⟩ : ∃ rest, l.Perm (x :: y :: rest) := ⟨_, hrest⟩
  have hlength : r ≤ rest.length := by
    have hl := hrest.length_eq
    simp only [List.length_cons] at hl
    omega
  -- one of the two in the part, the other one behind it
  have hperm : ∀ a b : K, List.Perm (a :: b :: rest) (a :: (rest.take r ++ b :: rest.drop r)) := by
    intro a b
    refine List.Perm.cons a (List.Perm.trans ?_ List.perm_middle.symm)
    rw [List.take_append_drop]
  have hsum : ∀ a b : K,
      ((a :: (rest.take r ++ b :: rest.drop r)).take (r + 1)).sum = a + (rest.take r).sum := by
    intro a b
    rw [List.take_succ_cons, List.sum_cons, List.take_left' (by rw [List.length_take]; omega)]
  have hfirst := h _ (hrest.trans (hperm x y))
  have hsecond := h _ ((hrest.trans (List.Perm.swap y x rest)).trans (hperm y x))
  rw [hsum] at hfirst hsecond
  exact hne (add_right_cancel (hfirst.trans hsecond.symm))

end

end Infra
