import Mathlib.Algebra.BigOperators.Group.List.Basic
import Mathlib.Algebra.Order.Ring.Int

/-!
# Gaps between time points, in a coarser unit

A sampler reads a clock and reports the time since its last reading in a unit of `u` ticks, cut
off. `gaps u t ts` is what it reports if the readings after `t` are `ts`. Each gap is cut off on
its own, so the reports fall short of the elapsed time by less than one unit each, and never
exceed it (`sum_gaps`).
-/

namespace Infra

/-- The gaps between the time points `t :: ts`. -/
def gaps (u : Int) (t : Int) : List Int → List Int
  | [] => []
  | t' :: ts => (t' - t).tdiv u :: gaps u t' ts

@[simp] theorem gaps_nil (u t : Int) : gaps u t [] = [] := rfl

@[simp] theorem gaps_cons (u t t' : Int) (ts : List Int) :
    gaps u t (t' :: ts) = (t' - t).tdiv u :: gaps u t' ts := rfl

@[simp] theorem length_gaps (u : Int) : ∀ (t : Int) (ts : List Int), (gaps u t ts).length = ts.length
  | _, [] => rfl
  | t, t' :: ts => by rw [gaps_cons, List.length_cons, length_gaps u t' ts, List.length_cons]

/-- What one cut takes away from a time that is not negative. -/
theorem cutoff_bounds {u d : Int} (hu : 0 < u) (hd : 0 ≤ d) :
    0 ≤ d - u * d.tdiv u ∧ d - u * d.tdiv u ≤ u - 1 := by
  have hsplit : u * d.tdiv u + d.tmod u = d := Int.mul_tdiv_add_tmod d u
  have hnonneg : 0 ≤ d.tmod u := Int.tmod_nonneg u hd
  have hlt : d.tmod u < u := Int.tmod_lt_of_pos d hu
  omega

/-- On a clock that does not go back no gap is negative. -/
theorem gaps_nonneg {u : Int} (hu : 0 < u) : ∀ {t : Int} {ts : List Int},
    (t :: ts).Pairwise (· ≤ ·) → ∀ g ∈ gaps u t ts, 0 ≤ g
  | _, [], _ => by simp
  | t, t' :: ts, h => by
    intro g hg
    rw [List.pairwise_cons] at h
    rcases List.mem_cons.mp hg with rfl | hg
    · have hle : t ≤ t' := h.1 t' (List.mem_cons_self ..)
      exact Int.tdiv_nonneg (by omega) hu.le
    · exact gaps_nonneg hu h.2 g hg

/-- **No time is lost but by cutting off**: less than one unit for each gap. -/
theorem sum_gaps {u : Int} (hu : 0 < u) : ∀ {t : Int} {ts : List Int},
    (t :: ts).Pairwise (· ≤ ·) →
      0 ≤ (ts.getLastD t - t) - u * (gaps u t ts).sum ∧
        (ts.getLastD t - t) - u * (gaps u t ts).sum ≤ (u - 1) * ts.length
  | t, [], _ => by simp
  | t, t' :: ts, h => by
    rw [List.pairwise_cons] at h
    have hle : t ≤ t' := h.1 t' (List.mem_cons_self ..)
    have hcut := cutoff_bounds hu (show 0 ≤ t' - t by omega)
    have hrest := sum_gaps hu h.2
    -- the elapsed time and the gaps both telescope at `t'`
    rw [List.getLastD_cons, gaps_cons, List.sum_cons, Int.mul_add, List.length_cons, Nat.cast_succ,
      Int.mul_add, Int.mul_one]
    omega

end Infra
