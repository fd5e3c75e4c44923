import UnifiedModelBenchmark.Properties.Steps

/-!
# The listing of the samples

`debug` writes three of the four numbers of a sample. The fourth one is 0 in every sample that a
monitor takes (`data_run`), so nothing is lost: a listing that the caller makes between two rounds,
when no monitor runs, can be read back to the samples (`readListing_debug`). During a round the
samples may change while `debug` goes through them, and nothing is said of its listing then.
-/

namespace UnifiedModelBenchmark

open Infra Infra.Cxx

/-! ## Reading a listing -/

/-- The sample on a line: the second, the fourth and the sixth word. -/
def Spec.readSample (text : Str) : Option RuntimeProileData :=
  match text.splitOn ' ' with
  | [_, time, _, current, _, voltage] =>
    (strtol time).bind fun t => (strtol current).bind fun i => (strtol voltage).map fun u =>
      { intervalTime := t, currentValue := i, voltageValue := u, memoryValue := 0 }
  | _ => none

/-- The samples on the lines behind the first one, if it has their number. -/
def Spec.readListing : List Str → Option (List RuntimeProileData)
  | [] => none
  | size :: lines =>
    if strtol size = some (lines.length : Int) then lines.mapM readSample else none

open Spec

theorem not_mem_decimal_blank (i : Int) : ' ' ∉ decimal i := by
  intro h
  rcases mem_intText (intText_decimal i) h with h | h | h <;> simp at h

/-- The words of a line. -/
theorem splitOn_sample (t i u : Int) :
    ("time: ".toList ++ decimal t ++ " current: ".toList ++ decimal i ++ " volatge: ".toList
      ++ decimal u).splitOn ' '
      = ["time:".toList, decimal t, "current:".toList, decimal i, "volatge:".toList,
        decimal u] := by
  have hwords : ∀ w ∈ ["time:".toList, decimal t, "current:".toList, decimal i, "volatge:".toList,
      decimal u], ' ' ∉ w := by
    simp [not_mem_decimal_blank]
  rw [← List.splitOn_intercalate ' ' hwords (List.cons_ne_nil _ _)]
  simp [List.intercalate_cons_cons, List.intercalate_singleton]

theorem readSample_line {x : RuntimeProileData} (h : x.memoryValue = 0) :
    readSample ("time: ".toList ++ decimal x.intervalTime ++ " current: ".toList
      ++ decimal x.currentValue ++ " volatge: ".toList ++ decimal x.voltageValue) = some x := by
  unfold readSample
  rw [splitOn_sample]
  dsimp only
  rw [strtol_decimal, strtol_decimal, strtol_decimal]
  obtain ⟨t, i, u, memory⟩ := x
  obtain rfl : memory = 0 := h
  rfl

/-- The listing of samples without a memory value is read back. -/
theorem readListing_of_memory {p : MyProfiler} (h : ∀ x ∈ p.data, x.memoryValue = 0) :
    readListing p.debug = some p.data := by
  rw [MyProfiler.debug, readListing, strtol_decimal, List.length_map, if_pos rfl]
  generalize p.data = data at h
  induction data with
  | nil => rfl
  | cons x data ih =>
    obtain ⟨hx, hdata⟩ := List.forall_mem_cons.mp h
    rw [List.map_cons, List.mapM_cons, readSample_line hx, ih hdata]
    rfl

namespace System

theorem sample_memoryValue {m : Monitor} {x : RuntimeProileData} (h : m.sample = .ok x) :
    x.memoryValue = 0 := by
  unfold Monitor.sample at h
  split at h
  · cases h
  · split at h
    · cases h
    · obtain rfl := Except.ok.inj h
      rfl

/-- No sample of a run has a memory value. -/
theorem data_run {actions : List Action} {s : System} (h : run actions = some s) :
    ∀ x ∈ s.profiler.data, x.memoryValue = 0 := by
  have hinv : Inv s ∧ ∀ x ∈ s.profiler.data, x.memoryValue = 0 := by
    refine (trace_of_foldlM_some h).invariant
      (fun _ s => Inv s ∧ ∀ x ∈ s.profiler.data, x.memoryValue = 0)
      ⟨inv_initial, by simp [initial]⟩ ?_
    intro _ s a s' ⟨hinv, hdata⟩ hs
    refine ⟨inv_step hinv hs, ?_⟩
    obtain ⟨-, ⟨now, rfl, hstep⟩ | ⟨rfl, -, rfl⟩ | ⟨t, r, rfl, ht, hstep⟩⟩ := step_cases hinv hs
    · cases hstep with
      | clearsData _ => simp
      | _ => exact hdata
    · exact hdata
    · cases hstep with
      | pushes x _ hx =>
        intro y hy
        rcases List.mem_append.mp hy with hy | hy
        · exact hdata y hy
        · obtain rfl := List.mem_singleton.mp hy
          exact sample_memoryValue hx
      | _ => exact hdata
  exact hinv.2

/--
**The listing tells the samples.** At a moment of a run where the caller is in no call and between
no `start` and `end`, no monitor is left that could push a sample, and what `debug` writes can be
read back to the samples.
-/
theorem readListing_debug (actions : List Action) (s : System) (h : run actions = some s)
    (hidle : s.caller = .idle) :
    s.threads = [] ∧ readListing s.profiler.debug = some s.profiler.data :=
  ⟨(inv_run h).point.threads_eq_nil (.inl hidle), readListing_of_memory (data_run h)⟩

/-- The sample of the second round. -/
theorem readListing_debug_two :
    readListing afterTwoRounds.profiler.debug = some [⟨3, 5, 7, 0⟩] :=
  (readListing_debug twoRounds afterTwoRounds (by decide +kernel) (by decide +kernel)).2.trans
    (by decide +kernel)

end System

end UnifiedModelBenchmark
