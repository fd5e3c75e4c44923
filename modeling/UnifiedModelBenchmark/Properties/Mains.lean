import UnifiedModelBenchmark.Properties.Runs

/-!
# ONNX Runtime and MNN from the flags

The two drivers differ in what they do with a backend they do not know. The ONNX Runtime driver says
so and runs nothing. The MNN driver says nothing, leaves the type of the configuration unset, and
runs all rounds with what MNN makes of that. The flag for the threads gets to MNN on the CPU only.
-/

namespace UnifiedModelBenchmark

open Infra Infra.Cxx Program Spec

variable {α : Type} [Double α]

namespace Onnxruntime

open Spec.Onnxruntime

theorem printArgs_adds (flags : Flags) (w : World Event) :
    Adds (printArgs flags) w () 0 (argLines flags) [] := by
  unfold printArgs Adds
  rw [bind_eq_ok (Adds.info _ _), bind_eq_ok (Adds.info _ _), bind_eq_ok (Adds.info _ _),
    bind_eq_ok (Adds.info _ _), bind_eq_ok (Adds.info _ _)]
  refine (Adds.info _ _).trans ?_
  simp only [World.after_after]
  rfl

section

variable (android : Bool) (createSession : Str → SessionOptions → Session) (flags : Flags)

/-- With a backend that is known, the driver is `run` on the session. -/
theorem main_known (h : Known flags.backend) :
    main α android createSession flags = printArgs flags >>= fun _ =>
      run α android (createSession flags.model (sessionOptions flags)) flags.numWarmup
        flags.numRuns := by
  unfold main
  by_cases harm : flags.backend = "arm".toList
  · simp only [if_pos harm]
  · simp only [if_neg harm, if_pos (h.resolve_left harm)]

theorem main_unknown (h : ¬ Known flags.backend) :
    main α android createSession flags = printArgs flags >>= fun _ =>
      error ("unkown backend for onnxruntime: ".toList ++ flags.backend) := by
  obtain ⟨harm, hnnapi⟩ := not_or.mp h
  unfold main
  simp only [if_neg harm, if_neg hnnapi]

/--
**A run of the ONNX Runtime driver.** With a backend that is known, it creates one tensor for each
input of the session, in order, and then runs the session once for each round, with a reading of the
clock right before and right after it; the log is that of the flags, the inputs, the outputs and the
two loops.
With another backend, it complains about it and asks nothing of the session.
-/
theorem main_runs (clock : Nat → Int) :
    (Known flags.backend → Adds (main α android createSession flags) { clock } ()
      (2 * (count flags.numWarmup + count flags.numRuns))
      (argLines flags ++ log α (createSession flags.model (sessionOptions flags)) flags.numWarmup
        flags.numRuns clock)
      (events (createSession flags.model (sessionOptions flags)) flags.numWarmup flags.numRuns)) ∧
    (¬ Known flags.backend → Adds (main α android createSession flags) { clock } () 0
      (argLines flags ++ [.error ("unkown backend for onnxruntime: ".toList ++ flags.backend)])
      []) := by
  have hargs := printArgs_adds flags { clock }
  constructor
  · intro h
    rw [main_known android createSession flags h]
    exact hargs.seq (run_adds android _ _ _ rfl)
  · intro h
    rw [main_unknown android createSession flags h]
    exact hargs.seq (Adds.error _ _)

end

end Onnxruntime

namespace Mnn

open Spec.Mnn

theorem printArgs_adds (flags : Flags) (w : World Event) :
    Adds (printArgs flags) w () 0 (argLines flags) [] := by
  unfold printArgs Adds
  rw [bind_eq_ok (Adds.info _ _), bind_eq_ok (Adds.info _ _), bind_eq_ok (Adds.info _ _),
    bind_eq_ok (Adds.info _ _), bind_eq_ok (Adds.info _ _), bind_eq_ok (Adds.info _ _),
    bind_eq_ok (Adds.info _ _)]
  refine (Adds.info _ _).trans ?_
  simp only [World.after_after]
  rfl

theorem configureOpencl_adds (clMemType : Str) (conf : ScheduleConfig) (w : World Event) :
    Adds (configureOpencl clMemType conf) w
      { conf with type := some .opencl, mode := some (gpuMode clMemType), backupType := .cpu } 0
      [modeLine (gpuMode clMemType)] [] := by
  unfold configureOpencl gpuMode
  by_cases hbuffer : clMemType = "cl_mem_buffer".toList
  · have himage : ¬ clMemType = "cl_mem_image".toList := by
      rw [hbuffer]
      decide
    simp only [if_pos hbuffer, if_neg himage]
    rfl
  · by_cases himage : clMemType = "cl_mem_image".toList
    · simp only [if_neg hbuffer, if_pos himage]
      rfl
    · simp only [if_neg hbuffer, if_neg himage]
      rfl

section

variable (linux android : Bool) (flags : Flags)

/-- A backend that is not in the table is not known anywhere. -/
theorem lookup_androidBackends_eq_none {backend : Str} (harm : backend ≠ "arm".toList)
    (hopencl : backend ≠ "opencl".toList) (hnnapi : backend ≠ "nnapi".toList)
    (hnpu : backend ≠ "hw_npu".toList) : androidBackends.lookup backend = none := by
  rw [List.lookup_eq_none_iff]
  intro entry hentry
  unfold androidBackends at hentry
  simp only [List.mem_cons, List.not_mem_nil, or_false] at hentry
  rcases hentry with rfl | rfl | rfl | rfl
  · simpa using harm
  · simpa using hopencl
  · simpa using hnnapi
  · simpa using hnpu

/-- The branches of the driver give the configuration of the table. -/
theorem configure_adds (w : World Event) :
    Adds (configure linux android flags) w (config linux android flags) 0
      (configLines android flags) [] := by
  obtain ⟨model, backend, numThreads, numWarmup, numRuns, clMemType, mnnPrecision⟩ := flags
  by_cases hx64 : backend = "x64".toList
  · subst hx64
    cases linux <;> cases android <;> exact Adds.pure _ w
  have hlinux : ¬ (linux = true ∧ backend = "x64".toList) := fun h => hx64 h.2
  cases android with
  | false =>
    unfold configure config configLines forwardType?
    simp only [if_neg hx64, if_neg hlinux]
    exact Adds.pure _ w
  | true =>
    by_cases harm : backend = "arm".toList
    · subst harm
      cases linux <;> exact (Adds.info _ w).seq (Adds.pure _ _)
    by_cases hopencl : backend = "opencl".toList
    · subst hopencl
      cases linux <;> exact configureOpencl_adds clMemType _ w
    by_cases hnnapi : backend = "nnapi".toList
    · subst hnnapi
      cases linux <;> exact Adds.pure _ w
    by_cases hnpu : backend = "hw_npu".toList
    · subst hnpu
      cases linux <;> exact Adds.pure _ w
    unfold configure config configLines forwardType?
    simp only [if_neg hx64, if_neg hlinux, if_neg harm, if_neg hopencl, if_neg hnnapi,
      if_neg hnpu, lookup_androidBackends_eq_none harm hopencl hnnapi hnpu, if_true, true_and]
    exact Adds.pure _ w

/--
**A run of the MNN driver.** Without an interpreter it ends after its flags. With one, the session
is created from the configuration that the flags stand for on this system; the driver fills the
inputs, creates a host tensor for each output, and a round runs the session and waits for all
outputs between its two readings of the clock, and updates the cache behind the second.
-/
theorem main_benchmarks (createFromFile : Str → Option (ScheduleConfig → Session))
    (clock : Nat → Int) :
    (createFromFile flags.model = none →
      Adds (main α linux android createFromFile flags) { clock } () 0 (argLines flags) []) ∧
    (∀ createSession, createFromFile flags.model = some createSession →
      Adds (main α linux android createFromFile flags) { clock } ()
        (2 * (count flags.numWarmup + count flags.numRuns))
        (argLines flags ++ (configLines android flags
          ++ log α flags.numWarmup flags.numRuns clock))
        (events (createSession (config linux android flags)) flags.numWarmup flags.numRuns)) := by
  have hargs := printArgs_adds flags { clock }
  constructor
  · intro h
    unfold main
    rw [h]
    exact hargs.seq (Adds.pure _ _)
  · intro createSession h
    unfold main
    rw [h]
    refine hargs.seq ((configure_adds linux android flags _).seq ?_)
    exact benchmark_adds android _ _ _ rfl

end

end Mnn

end UnifiedModelBenchmark
