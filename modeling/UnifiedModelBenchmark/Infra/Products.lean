import Mathlib.Algebra.BigOperators.Group.List.Basic
import Mathlib.Algebra.BigOperators.Ring.List
import Mathlib.Algebra.Order.Ring.Int
import Mathlib.Algebra.Ring.Parity

/-!
# Products of integers in a signed range

A loop multiplies the elements of a list and must not leave `[-B, B)` on its way. Without a zero
the magnitudes of the partial products never get smaller, so the last one decides, up to the case
that a partial product is exactly `-B` (`partialsInRange_iff`). Behind a zero all partial products
are zero (`partialsInRange_zero`).
-/

namespace Infra

/-! ## Magnitude and sign -/

/-- The product of the absolute values. -/
def magnitude (l : List Int) : Nat := (l.map Int.natAbs).prod

/-- How many elements are negative. -/
def negatives (l : List Int) : Nat := l.countP (· < 0)

@[simp] theorem magnitude_nil : magnitude [] = 1 := rfl

@[simp] theorem magnitude_cons (x : Int) (l : List Int) :
    magnitude (x :: l) = x.natAbs * magnitude l := List.prod_cons

@[simp] theorem magnitude_append (l l' : List Int) :
    magnitude (l ++ l') = magnitude l * magnitude l' := by
  unfold magnitude
  rw [List.map_append, List.prod_append]

@[simp] theorem negatives_append (l l' : List Int) :
    negatives (l ++ l') = negatives l + negatives l' := List.countP_append

theorem natAbs_prod : ∀ l : List Int, l.prod.natAbs = magnitude l
  | [] => rfl
  | x :: l => by rw [List.prod_cons, Int.natAbs_mul, natAbs_prod l, magnitude_cons]

theorem magnitude_pos : ∀ {l : List Int}, 0 ∉ l → 0 < magnitude l
  | [], _ => Nat.one_pos
  | x :: l, h => by
    rw [List.mem_cons, not_or] at h
    rw [magnitude_cons]
    exact Nat.mul_pos (by omega) (magnitude_pos h.2)

/-- The sign of a product is decided by the number of negative elements. -/
theorem prod_neg_iff : ∀ {l : List Int}, 0 ∉ l → (l.prod < 0 ↔ Odd (negatives l))
  | [], _ => by simp [negatives]
  | x :: l, h => by
    rw [List.mem_cons, not_or] at h
    have ih := prod_neg_iff h.2
    have hne : l.prod ≠ 0 := List.prod_ne_zero h.2
    have hsplit : negatives (x :: l) = (if x < 0 then 1 else 0) + negatives l := by
      unfold negatives
      rw [List.countP_cons]
      simp only [decide_eq_true_eq]
      omega
    rw [List.prod_cons, hsplit]
    by_cases hx : x < 0
    · rw [if_pos hx, Nat.odd_add, iff_true_left odd_one, ← Nat.not_odd_iff_even, ← ih]
      constructor
      · intro hmul hneg
        exact absurd hmul (not_lt.mpr (Int.mul_pos_of_neg_of_neg hx hneg).le)
      · intro hnot
        exact Int.mul_neg_of_neg_of_pos hx (by omega)
    · have hpos : 0 < x := by omega
      rw [if_neg hx, Nat.zero_add, ← ih]
      constructor
      · intro hmul
        by_contra hnot
        have hprod : 0 < l.prod := by omega
        exact absurd hmul (not_lt.mpr (Int.mul_pos hpos hprod).le)
      · exact fun hneg => Int.mul_neg_of_pos_of_neg hpos hneg

/-! ## Partial products -/

/-- The signed range with `2 * B` elements. -/
def InRange (B : Nat) (z : Int) : Prop := -B ≤ z ∧ z < B

/-- A number is in the range if it is small enough, or the lower end. -/
theorem inRange_iff (B : Nat) (z : Int) :
    InRange B z ↔ z.natAbs < B ∨ (z.natAbs = B ∧ z < 0) := by
  unfold InRange
  omega

theorem inRange_prod_iff {B : Nat} {l : List Int} (h : 0 ∉ l) :
    InRange B l.prod ↔ magnitude l < B ∨ (magnitude l = B ∧ Odd (negatives l)) := by
  rw [inRange_iff, natAbs_prod, prod_neg_iff h]

/-- A factor more does not make the magnitude smaller. -/
theorem magnitude_le_append (l : List Int) {suf : List Int} (h : 0 ∉ suf) :
    magnitude l ≤ magnitude (l ++ suf) := by
  rw [magnitude_append]
  exact Nat.le_mul_of_pos_right _ (magnitude_pos h)

/-- Elements of magnitude 1, none of them -1, are not negative. -/
theorem negatives_of_magnitude_one : ∀ {l : List Int}, magnitude l = 1 → -1 ∉ l → negatives l = 0
  | [], _, _ => rfl
  | x :: l, h, hneg => by
    rw [magnitude_cons] at h
    rw [List.mem_cons, not_or] at hneg
    have hx : x.natAbs = 1 := Nat.eq_one_of_mul_eq_one_right h
    have hl : magnitude l = 1 := Nat.eq_one_of_mul_eq_one_left h
    have ih := negatives_of_magnitude_one hl hneg.2
    unfold negatives at ih ⊢
    rw [List.countP_cons, ih]
    simp only [decide_eq_true_eq]
    split <;> omega

/-- A loop that multiplies the elements does not leave the range. -/
def PartialsInRange (B : Nat) (l : List Int) : Prop :=
  ∀ pre suf, l = pre ++ suf → InRange B pre.prod

theorem PartialsInRange.prod {B : Nat} {l : List Int} (h : PartialsInRange B l) :
    InRange B l.prod :=
  h l [] (List.append_nil l).symm

theorem PartialsInRange.of_append {B : Nat} {l l' : List Int} (h : PartialsInRange B (l ++ l')) :
    PartialsInRange B l := by
  rintro pre suf rfl
  exact h pre (suf ++ l') (List.append_assoc ..)

/-- Behind elements that reach the lower end there is no -1: the product would be `B`. -/
theorem PartialsInRange.not_mem_neg_one {B : Nat} {pre suf : List Int}
    (h : PartialsInRange B (pre ++ suf)) (hzero : 0 ∉ pre ++ suf) (hpre : magnitude pre = B)
    (hall : magnitude (pre ++ suf) = B) : -1 ∉ suf := by
  intro hmem
  obtain ⟨s, t, rfl⟩ := List.append_of_mem hmem
  have hsplit : pre ++ (s ++ -1 :: t) = pre ++ s ++ [-1] ++ t := by simp
  rw [hsplit] at h hzero hall
  have hzeroAfter : 0 ∉ pre ++ s ++ [-1] := fun hz => hzero (List.mem_append_left t hz)
  have hzeroBefore : 0 ∉ pre ++ s := fun hz => hzeroAfter (List.mem_append_left [-1] hz)
  have hmag : magnitude (pre ++ s ++ [-1]) = magnitude (pre ++ s) := by
    rw [magnitude_append]
    simp
  have hbefore : magnitude (pre ++ s) = B := by
    have hge := magnitude_le_append pre (fun hz => hzeroBefore (List.mem_append_right pre hz))
    have hle := magnitude_le_append (pre ++ s ++ [-1])
      (fun hz => hzero (List.mem_append_right _ hz))
    omega
  -- the product is `-B` in front of the -1 and behind it
  have hodd : Odd (negatives (pre ++ s)) :=
    (((inRange_prod_iff hzeroBefore).mp h.of_append.of_append.prod).resolve_left (by omega)).2
  have hodd' : Odd (negatives (pre ++ s ++ [-1])) :=
    (((inRange_prod_iff hzeroAfter).mp h.of_append.prod).resolve_left (by omega)).2
  rw [negatives_append] at hodd'
  exact absurd (Nat.odd_add_one.mp hodd') (not_not.mpr hodd)

/-- Small enough, or exactly `-B` from some element on. -/
def FitsSigned (B : Nat) (l : List Int) : Prop :=
  magnitude l < B ∨ (magnitude l = B ∧ Odd (negatives l) ∧
    ∀ pre suf, l = pre ++ suf → magnitude pre = B → -1 ∉ suf)

/-- **Products without a zero**: all of them are in the range if the last one is small enough. If
its magnitude is exactly `B`, it has to be negative, and no -1 may follow the elements that reach
this magnitude. -/
theorem partialsInRange_iff {B : Nat} {l : List Int} (h : 0 ∉ l) :
    PartialsInRange B l ↔ FitsSigned B l := by
  constructor
  · intro hall
    rcases (inRange_prod_iff h).mp hall.prod with hlt | ⟨heq, hodd⟩
    · exact Or.inl hlt
    · refine Or.inr ⟨heq, hodd, ?_⟩
      rintro pre suf rfl hpre
      exact hall.not_mem_neg_one h hpre heq
  · intro hfits pre suf hsplit
    subst hsplit
    have hpre : 0 ∉ pre := fun hz => h (List.mem_append_left suf hz)
    have hsuf : 0 ∉ suf := fun hz => h (List.mem_append_right pre hz)
    have hle := magnitude_le_append pre hsuf
    rw [inRange_prod_iff hpre]
    rcases hfits with hlt | ⟨heq, hodd, hunit⟩
    · exact Or.inl (by omega)
    · by_cases hB : magnitude pre = B
      · -- what follows has the magnitude 1
        have hone : magnitude suf = 1 := by
          rw [magnitude_append, hB] at heq
          have hpos := magnitude_pos hpre
          exact Nat.eq_of_mul_eq_mul_left (by omega) (heq.trans (Nat.mul_one B).symm)
        have hzero := negatives_of_magnitude_one hone (hunit pre suf rfl hB)
        rw [negatives_append, hzero, Nat.add_zero] at hodd
        exact Or.inr ⟨hB, hodd⟩
      · exact Or.inl (by omega)

/-- **Products with a zero**: only those in front of the first zero matter. -/
theorem partialsInRange_zero {B : Nat} (hB : 0 < B) {lead rest : List Int} :
    PartialsInRange B (lead ++ 0 :: rest) ↔ PartialsInRange B lead := by
  constructor
  · exact PartialsInRange.of_append
  · intro hall pre suf hsplit
    rcases List.append_eq_append_iff.mp hsplit with ⟨t, rfl, hrest⟩ | ⟨t, rfl, -⟩
    · cases t with
      | nil =>
        rw [List.append_nil]
        exact hall.prod
      | cons z t =>
        obtain ⟨rfl, -⟩ := List.cons_eq_cons.mp hrest
        have hzero : (lead ++ 0 :: t).prod = 0 := List.prod_eq_zero (by simp)
        rw [hzero]
        unfold InRange
        omega
    · exact hall pre t rfl

end Infra
