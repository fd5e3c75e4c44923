import Mathlib.Analysis.Real.Sqrt
import UnifiedModelBenchmark.Infra.Statistics
import UnifiedModelBenchmark.Mutils.Profiler

/-!
# What `compute_min_max_avg_std` computes

In exact arithmetic the four results are those of `Infra.Statistics`, for the elements that the
loops visit. There are two ways in which they fail to be those of the list.

* The maximum is started from `DBL_MIN`, the smallest *positive* number. It is reported if no
  element is greater.
* `size` is an `int`. A list that is too long is only visited in part, or not at all.
-/

namespace UnifiedModelBenchmark

open Infra Infra.Cxx

/-- Real arithmetic, where the root is exact. Reals are not printed; `text` is the integer part. -/
noncomputable instance : Double ℝ where
  decLt := inferInstance
  dblMin := 1 / 2 ^ 1022
  dblMax := (2 ^ 53 - 1) * 2 ^ 971
  pow := fun x n => x ^ n
  sqrt := Real.sqrt
  text := fun x => decimal ⌊x⌋
  not_mem_text := fun x => not_mem_decimal ⌊x⌋

/-! ## The elements that are visited -/

/-- How many elements the loops visit, if there are `n` of them. -/
def visitedCount (n : Nat) : Nat := if n % 2 ^ 32 < 2 ^ 31 then n % 2 ^ 32 else 0

/-- The elements that the loops visit. -/
def visited {α : Type} (arr : List α) : List α := arr.take (visitedCount arr.length)

/-- The length of a vector as an `int`. -/
theorem toInt_ofNat_eq (n : Nat) : (Int32.ofNat n).toInt
    = if n % 2 ^ 32 < 2 ^ 31 then ((n % 2 ^ 32 : Nat) : Int) else (n % 2 ^ 32 : Nat) - 2 ^ 32 := by
  rw [Int32.toInt_ofNat', Int.bmod_def]
  unfold Int32.size
  split <;> split <;> omega

theorem toNat_intSize {α : Type} (arr : List α) : (intSize arr).toNat = visitedCount arr.length := by
  unfold intSize visitedCount
  rw [toInt_ofNat_eq]
  split <;> omega

theorem visitedCount_le (n : Nat) : visitedCount n ≤ n := by
  unfold visitedCount
  split <;> omega

theorem length_visited {α : Type} (arr : List α) :
    (visited arr).length = visitedCount arr.length := by
  unfold visited
  rw [List.length_take, min_eq_left (visitedCount_le arr.length)]

theorem visited_subset {α : Type} (arr : List α) : {x | x ∈ visited arr} ⊆ {x | x ∈ arr} :=
  fun _ hx => List.mem_of_mem_take hx

theorem visited_eq {α : Type} {arr : List α} (h : arr.length < 2 ^ 31) : visited arr = arr := by
  have hcount : visitedCount arr.length = arr.length := by
    unfold visitedCount
    split <;> omega
  unfold visited
  rw [hcount, List.take_length]

/-- The results in terms of the elements that are visited. -/
theorem computeMinMaxAvgStd_eq {α : Type} [Double α] (arr : List α) :
    computeMinMaxAvgStd arr
      = let size := intSize arr
        let acc := (visited arr).foldl addSample (0.0, Double.dblMin, Double.dblMax)
        let mean := acc.1 / (size : α)
        { minVal := acc.2.2, maxVal := acc.2.1, avgVal := mean
          stdVal := Double.sqrt
            ((visited arr).foldl (fun (s : α) x => s + Double.pow (x - mean) 2) 0.0 / (size : α)) } := by
  have hvisited : arr.take (intSize arr).toNat = visited arr := by
    rw [toNat_intSize]
    rfl
  unfold computeMinMaxAvgStd
  dsimp only
  rw [hvisited]

/-! ## The extremes -/

/-- The sum and the extremes that the first loop leaves. -/
theorem foldl_addSample_rat (l : List ℚ) (s M m : ℚ) :
    l.foldl addSample (s, M, m) = (s + l.sum, l.foldl max M, l.foldl min m) :=
  foldl_sum_max_min l s M m

theorem minVal_rat (xs : List ℚ) :
    (computeMinMaxAvgStd xs).minVal = (visited xs).foldl min Double.dblMax := by
  rw [computeMinMaxAvgStd_eq]
  dsimp only
  rw [foldl_addSample_rat]

theorem maxVal_rat (xs : List ℚ) :
    (computeMinMaxAvgStd xs).maxVal = (visited xs).foldl max Double.dblMin := by
  rw [computeMinMaxAvgStd_eq]
  dsimp only
  rw [foldl_addSample_rat]

/-- The two results are the extremes of the list. -/
def Extremes (xs : List ℚ) (s : Stats ℚ) : Prop :=
  IsLeast {x | x ∈ xs} s.minVal ∧ IsGreatest {x | x ∈ xs} s.maxVal

/-- For a list of any length: the extremes of the list are among the elements that are visited,
or they are what the loop starts from. -/
theorem extremes_iff {xs : List ℚ} (hfin : ∀ x ∈ xs, |x| ≤ Double.dblMax) :
    Extremes xs (computeMinMaxAvgStd xs) ↔
      (∃ m, IsLeast {x | x ∈ xs} m ∧ (m = Double.dblMax ∨ m ∈ visited xs)) ∧
        ∃ M, IsGreatest {x | x ∈ xs} M ∧ Double.dblMin ≤ M ∧
          (M = Double.dblMin ∨ M ∈ visited xs) := by
  unfold Extremes
  rw [minVal_rat, maxVal_rat, isLeast_iff_of_insert (visited_subset xs) (foldl_min _ _),
    isGreatest_iff_of_insert (visited_subset xs) (foldl_max _ _)]
  refine and_congr_left fun _ => exists_congr fun m => and_congr_right fun hm => ?_
  exact and_iff_right ((le_abs_self m).trans (hfin m hm.1))

/-- For a list that is visited as a whole: not all elements are below `DBL_MIN`. -/
theorem extremes_iff_of_visited {xs : List ℚ} (hne : xs ≠ []) (hvisited : visited xs = xs)
    (hfin : ∀ x ∈ xs, |x| ≤ Double.dblMax) :
    Extremes xs (computeMinMaxAvgStd xs) ↔ ∃ x ∈ xs, Double.dblMin ≤ x := by
  obtain ⟨m, hm⟩ := exists_isLeast hne
  obtain ⟨M, hM⟩ := exists_isGreatest hne
  rw [extremes_iff hfin, hvisited]
  constructor
  · rintro ⟨-, M', hM', hle, -⟩
    exact ⟨M', hM'.1, hle⟩
  · rintro ⟨x, hx, hle⟩
    exact ⟨⟨m, hm, Or.inr hm.1⟩, M, hM, hle.trans (hM.2 hx), Or.inr hM.1⟩

/--
**When the extremes are those of the list**: exactly if the list has an element that is not below
`DBL_MIN`. For lists that do not fit an `int` the extremes also have to be among the elements that
are visited.
-/
theorem computeMinMaxAvgStd_extremes (xs : List ℚ) (hne : xs ≠ [])
    (hfin : ∀ x ∈ xs, |x| ≤ Double.dblMax) :
    (xs.length < 2 ^ 31 →
      (Extremes xs (computeMinMaxAvgStd xs) ↔ ∃ x ∈ xs, Double.dblMin ≤ x)) ∧
    (Extremes xs (computeMinMaxAvgStd xs) ↔
      (∃ m, IsLeast {x | x ∈ xs} m ∧ (m = Double.dblMax ∨ m ∈ visited xs)) ∧
        ∃ M, IsGreatest {x | x ∈ xs} M ∧ Double.dblMin ≤ M ∧
          (M = Double.dblMin ∨ M ∈ visited xs)) :=
  ⟨fun hlt => extremes_iff_of_visited hne (visited_eq hlt) hfin, extremes_iff hfin⟩

/-- Two latencies, one of them 0: the extremes are reported. -/
theorem computeMinMaxAvgStd_extremes_two :
    Extremes [0, 3] (computeMinMaxAvgStd [0, 3]) :=
  ((computeMinMaxAvgStd_extremes [0, 3] (by decide) (by decide +kernel)).1 (by decide)).mpr
    ⟨3, by decide, by decide +kernel⟩

/-- Latencies that are all 0, and a negative energy: the maximum is `DBL_MIN`. -/
theorem computeMinMaxAvgStd_extremes_not :
    ¬ Extremes [0, 0] (computeMinMaxAvgStd [0, 0]) ∧
      ¬ Extremes [-1] (computeMinMaxAvgStd [-1]) := by
  constructor
  · intro h
    exact absurd h.2.1 (by decide +kernel)
  · intro h
    exact absurd h.2.1 (by decide +kernel)

/-! ## Mean and standard deviation -/

theorem foldl_addSample_real (l : List ℝ) (s M m : ℝ) :
    l.foldl addSample (s, M, m) = (s + l.sum, l.foldl max M, l.foldl min m) :=
  foldl_sum_max_min l s M m

/-- The sum that the second loop leaves. -/
theorem foldl_pow (mean : ℝ) : ∀ (l : List ℝ) (s : ℝ),
    l.foldl (fun s x => s + Double.pow (x - mean) 2) s = s + (l.map fun x => (x - mean) ^ 2).sum
  | [], s => by simp
  | x :: l, s => by
    rw [List.foldl_cons, foldl_pow mean l, List.map_cons, List.sum_cons, ← add_assoc]
    rfl

/-- Nothing is lost of the length of a list whose elements are visited. -/
theorem intSize_eq {α : Type} {arr : List α} (h : visited arr ≠ []) :
    intSize arr = (visited arr).length := by
  have hpos : 0 < (visited arr).length := List.length_pos_iff.mpr h
  rw [length_visited, ← toNat_intSize] at hpos ⊢
  omega

/-- The literal that the sums start at. -/
theorem zero_literal : (0.0 : ℝ) = 0 := by norm_num

/-- **The four results**, if an element is visited. -/
theorem computeMinMaxAvgStd_real {xs : List ℝ} (h : visited xs ≠ []) :
    computeMinMaxAvgStd xs
      = { minVal := (visited xs).foldl min Double.dblMax
          maxVal := (visited xs).foldl max Double.dblMin
          avgVal := mean (visited xs)
          stdVal := √(variance (visited xs)) } := by
  have hmean : ((0.0 : ℝ) + (visited xs).sum) / (((visited xs).length : Int) : ℝ)
      = mean (visited xs) := by
    rw [zero_literal, zero_add, Int.cast_natCast]
    rfl
  have hvariance : ((0.0 : ℝ) + ((visited xs).map fun x => (x - mean (visited xs)) ^ 2).sum)
      / (((visited xs).length : Int) : ℝ) = variance (visited xs) := by
    rw [zero_literal, zero_add, Int.cast_natCast]
    rfl
  rw [computeMinMaxAvgStd_eq, intSize_eq h, foldl_addSample_real]
  show Stats.mk _ _ (((0.0 : ℝ) + (visited xs).sum) / (((visited xs).length : Int) : ℝ))
    (√((visited xs).foldl (fun s x => s + Double.pow (x - ((0.0 : ℝ) + (visited xs).sum)
      / (((visited xs).length : Int) : ℝ)) 2) (0.0 : ℝ) / (((visited xs).length : Int) : ℝ))) = _
  rw [hmean, foldl_pow, hvariance]

/-- Without a visited element the minimum is `DBL_MAX` and the mean 0. -/
theorem avgVal_lt_minVal {xs : List ℝ} (h : visited xs = []) :
    (computeMinMaxAvgStd xs).avgVal < (computeMinMaxAvgStd xs).minVal := by
  rw [computeMinMaxAvgStd_eq, h]
  show (0.0 : ℝ) / (intSize xs : ℝ) < (2 ^ 53 - 1) * 2 ^ 971
  rw [zero_literal, zero_div]
  norm_num

/-! ## Consistency -/

/-- The four results fit together, and do not depend on the order of the list. -/
structure Consistent (xs : List ℝ) : Prop where
  min_le_avg : (computeMinMaxAvgStd xs).minVal ≤ (computeMinMaxAvgStd xs).avgVal
  avg_le_max : (computeMinMaxAvgStd xs).avgVal ≤ (computeMinMaxAvgStd xs).maxVal
  std_sq_le : (computeMinMaxAvgStd xs).stdVal ^ 2
    ≤ ((computeMinMaxAvgStd xs).maxVal - (computeMinMaxAvgStd xs).avgVal)
      * ((computeMinMaxAvgStd xs).avgVal - (computeMinMaxAvgStd xs).minVal)
  std_eq_zero : (computeMinMaxAvgStd xs).stdVal ^ 2 = 0 ↔ ∀ x ∈ xs, ∀ y ∈ xs, x = y
  perm : ∀ ys, xs.Perm ys → computeMinMaxAvgStd ys = computeMinMaxAvgStd xs

theorem stdVal_sq {xs : List ℝ} (h : visited xs ≠ []) :
    (computeMinMaxAvgStd xs).stdVal ^ 2 = variance (visited xs) := by
  rw [computeMinMaxAvgStd_real h]
  exact Real.sq_sqrt (variance_nonneg (visited xs))

/-- The inequalities hold for the elements that are visited, since the sentinels are bounds too. -/
theorem bounds_of_visited {xs : List ℝ} (h : visited xs ≠ []) :
    (computeMinMaxAvgStd xs).minVal ≤ (computeMinMaxAvgStd xs).avgVal ∧
      (computeMinMaxAvgStd xs).avgVal ≤ (computeMinMaxAvgStd xs).maxVal ∧
      (computeMinMaxAvgStd xs).stdVal ^ 2
        ≤ ((computeMinMaxAvgStd xs).maxVal - (computeMinMaxAvgStd xs).avgVal)
          * ((computeMinMaxAvgStd xs).avgVal - (computeMinMaxAvgStd xs).minVal) := by
  have hmin : ∀ x ∈ visited xs, (visited xs).foldl min Double.dblMax ≤ x :=
    fun x hx => (foldl_min _ _).2 (Or.inr hx)
  have hmax : ∀ x ∈ visited xs, x ≤ (visited xs).foldl max Double.dblMin :=
    fun x hx => (foldl_max _ _).2 (Or.inr hx)
  rw [stdVal_sq h, computeMinMaxAvgStd_real h]
  exact ⟨le_mean h hmin, mean_le h hmax, variance_le h hmin hmax⟩

/-- A list that is visited as a whole has the same results in every order. -/
theorem computeMinMaxAvgStd_perm {xs ys : List ℝ} (hne : xs ≠ []) (hxs : visited xs = xs)
    (hys : visited ys = ys) (h : xs.Perm ys) :
    computeMinMaxAvgStd ys = computeMinMaxAvgStd xs := by
  have hset : {x | x ∈ ys} = {x | x ∈ xs} := Set.ext fun x => h.symm.mem_iff
  have hne' : ys ≠ [] := fun hnil => hne (hnil ▸ h).eq_nil
  have hmin : ys.foldl min (Double.dblMax : ℝ) = xs.foldl min Double.dblMax :=
    (foldl_min _ ys).unique (hset ▸ foldl_min _ xs)
  have hmax : ys.foldl max (Double.dblMin : ℝ) = xs.foldl max Double.dblMin :=
    (foldl_max _ ys).unique (hset ▸ foldl_max _ xs)
  rw [computeMinMaxAvgStd_real (hys.symm ▸ hne'), computeMinMaxAvgStd_real (hxs.symm ▸ hne), hys,
    hxs, hmin, hmax, mean_perm h, variance_perm h]

theorem consistent_of_visited {xs : List ℝ} (hne : xs ≠ []) (hlt : xs.length < 2 ^ 31) :
    Consistent xs := by
  have hvisited := visited_eq hlt
  have hne' : visited xs ≠ [] := hvisited.symm ▸ hne
  obtain ⟨hmin, hmax, hstd⟩ := bounds_of_visited hne'
  refine ⟨hmin, hmax, hstd, ?_, fun ys h => ?_⟩
  · rw [stdVal_sq hne', hvisited]
    exact variance_eq_zero_iff hne
  · exact computeMinMaxAvgStd_perm hne hvisited (visited_eq (h.length_eq ▸ hlt)) h

/-- Equal elements do not need to be visited all. -/
theorem consistent_of_all_eq {xs : List ℝ} (h : visited xs ≠ [])
    (hall : ∀ x ∈ xs, ∀ y ∈ xs, x = y) : Consistent xs := by
  obtain ⟨hmin, hmax, hstd⟩ := bounds_of_visited h
  refine ⟨hmin, hmax, hstd, ?_, fun ys hperm => ?_⟩
  · rw [stdVal_sq h]
    refine iff_of_true ((variance_eq_zero_iff h).mpr ?_) hall
    exact fun x hx y hy => hall x (visited_subset xs hx) y (visited_subset xs hy)
  · -- the list is its own only permutation
    obtain ⟨a, ha⟩ := List.exists_mem_of_ne_nil _ h
    have hrep : xs = List.replicate xs.length a :=
      List.eq_replicate_of_mem fun x hx => hall x hx a (visited_subset xs ha)
    have hys : ys = List.replicate xs.length a := by
      rw [hrep] at hperm
      exact List.perm_replicate.mp hperm.symm
    rw [hys, ← hrep]

/-- If only a part is visited, the mean depends on which part that is. -/
theorem all_eq_of_consistent {xs : List ℝ} (h : Consistent xs) (hpos : 0 < visitedCount xs.length)
    (hlt : visitedCount xs.length < xs.length) : ∀ x ∈ xs, ∀ y ∈ xs, x = y := by
  have hvisited : ∀ ys : List ℝ, xs.Perm ys → visited ys ≠ [] := by
    intro ys hys
    rw [← List.length_pos_iff, length_visited, ← hys.length_eq]
    exact hpos
  have hxs : visited xs ≠ [] := hvisited xs (.refl xs)
  refine all_eq_of_sum_take hpos hlt fun ys hys => ?_
  have havg : mean (visited ys) = mean (visited xs) := by
    have hperm := congrArg Stats.avgVal (h.perm ys hys)
    rwa [computeMinMaxAvgStd_real (hvisited ys hys), computeMinMaxAvgStd_real hxs] at hperm
  have hlength : (visited ys).length = (visited xs).length := by
    rw [length_visited, length_visited, hys.length_eq]
  have hsum : (visited ys).sum = (visited xs).sum := by
    rw [← length_mul_mean (hvisited ys hys), ← length_mul_mean hxs, havg, hlength]
  unfold visited at hsum
  rwa [← hys.length_eq] at hsum

/--
**When the four results fit together**: for every list whose length fits an `int`. A longer list is
visited in part only; then an element has to be visited, and all elements have to be equal.
-/
theorem computeMinMaxAvgStd_consistent (xs : List ℝ) (hne : xs ≠ []) :
    Consistent xs ↔ xs.length < 2 ^ 31 ∨
      (0 < xs.length % 2 ^ 32 ∧ xs.length % 2 ^ 32 < 2 ^ 31 ∧ ∀ x ∈ xs, ∀ y ∈ xs, x = y) := by
  constructor
  · intro h
    by_cases hlt : xs.length < 2 ^ 31
    · exact Or.inl hlt
    · have hpos : 0 < visitedCount xs.length := by
        rw [← length_visited]
        refine List.length_pos_iff.mpr fun hnil => ?_
        exact absurd h.min_le_avg (not_le.mpr (avgVal_lt_minVal hnil))
      have hcount : 0 < xs.length % 2 ^ 32 ∧ xs.length % 2 ^ 32 < 2 ^ 31 ∧
          visitedCount xs.length < xs.length := by
        unfold visitedCount at hpos ⊢
        split at hpos <;> split <;> omega
      exact Or.inr ⟨hcount.1, hcount.2.1, all_eq_of_consistent h hpos hcount.2.2⟩
  · rintro (hlt | ⟨hpos, hlt, hall⟩)
    · exact consistent_of_visited hne hlt
    · refine consistent_of_all_eq ?_ hall
      rw [← List.length_pos_iff, length_visited]
      unfold visitedCount
      rwa [if_pos hlt]

theorem computeMinMaxAvgStd_consistent_two : Consistent [0, 3] :=
  (computeMinMaxAvgStd_consistent [0, 3] (by simp)).mpr (Or.inl (by simp))

/-- `2 ^ 31` latencies of 0: `size` is negative, and the minimum is `DBL_MAX`. -/
theorem computeMinMaxAvgStd_consistent_not : ¬ Consistent (List.replicate (2 ^ 31) 0) := by
  intro h
  have hnil : visited (List.replicate (2 ^ 31) (0 : ℝ)) = [] := by
    rw [← List.length_eq_zero_iff, length_visited, List.length_replicate]
    decide
  exact absurd h.min_le_avg (not_le.mpr (avgVal_lt_minVal hnil))

end UnifiedModelBenchmark
