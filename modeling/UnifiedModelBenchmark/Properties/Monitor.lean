import UnifiedModelBenchmark.Infra.Trace
import UnifiedModelBenchmark.Mutils.Profiler

/-!
# What an iteration of the power monitor does

An iteration either finds both streams usable and pushes one sample, or it pushes nothing
(`iteration_cases`). The two streams live as long as the loop: the branch that gives up leaves them
as `open` left them, so a file that was there while the other was missing stays open, and every
later `open` on it fails.

## Recovery

`monitoringPower_recovers` says for which sequences of iterations a failure to open is over with
the iteration it happens in: for those that find both files or none.
-/

namespace UnifiedModelBenchmark

open Infra Infra.Cxx

namespace Reading

/-- Both files can be opened. -/
def Available (r : Reading) : Prop := r.current.isSome ∧ r.voltage.isSome

instance (r : Reading) : Decidable r.Available := by unfold Available; infer_instance

/-- The first line holds an integer. -/
def holdsInteger (content : Str) : Bool := (stoll (IfStream.firstLine content)).isOk

theorem stoll_of_holdsInteger {content : Str} (h : holdsInteger content = true) :
    ∃ n, stoll (IfStream.firstLine content) = .ok n := by
  unfold holdsInteger at h
  cases hs : stoll (IfStream.firstLine content) with
  | error e => rw [hs] at h; cases h
  | ok n => exact ⟨n, rfl⟩

/-- A file that can be opened holds an integer. -/
def Numeric (r : Reading) : Prop :=
  (∀ c ∈ r.current, holdsInteger c = true) ∧ ∀ c ∈ r.voltage, holdsInteger c = true

instance (r : Reading) : Decidable r.Numeric := by unfold Numeric; infer_instance

/-- Both files are there and hold a one. -/
def ones : Reading := { current := some ['1'], voltage := some ['1'], now := 0 }

end Reading

namespace Monitor

/-! ## One iteration -/

/-- Neither file is open. -/
def Closed (m : Monitor) : Prop := m.currentFile.isOpen = false ∧ m.voltageFile.isOpen = false

theorem openFailed_openFiles (m : Monitor) (r : Reading) :
    (m.openFiles r).openFailed = true ↔ ¬ (m.Closed ∧ r.Available) := by
  unfold openFailed openFiles Closed Reading.Available
  rw [IfStream.openFile_failbit, IfStream.openFile_failbit]
  cases m.currentFile.isOpen <;> cases m.voltageFile.isOpen <;> cases r.current <;>
    cases r.voltage <;> simp

@[simp] theorem openFiles_tp1 (m : Monitor) (r : Reading) : (m.openFiles r).tp1 = m.tp1 := rfl

@[simp] theorem readFiles_tp1 (m : Monitor) (r : Reading) : (m.readFiles r).tp1 = m.tp1 := rfl

@[simp] theorem readFiles_tp2 (m : Monitor) (r : Reading) : (m.readFiles r).tp2 = r.now := rfl

@[simp] theorem restart_tp1 (m : Monitor) : m.restart.tp1 = m.tp2 := rfl

@[simp] theorem closeFiles_tp1 (m : Monitor) : m.closeFiles.tp1 = m.tp1 := rfl

theorem closed_closeFiles (m : Monitor) : m.closeFiles.Closed :=
  ⟨IfStream.close_isOpen m.currentFile, IfStream.close_isOpen m.voltageFile⟩

theorem closed_initial (now : Int) : (Monitor.initial now).Closed := ⟨rfl, rfl⟩

/-- A sample covers the time since the one before. -/
theorem sample_intervalTime {m : Monitor} {x : RuntimeProileData} (h : m.sample = .ok x) :
    x.intervalTime = m.timeSpent := by
  unfold sample at h
  split at h
  · cases h
  · split at h
    · cases h
    · rw [← Except.ok.inj h]

theorem timeSpent_readFiles (m : Monitor) (r : Reading) :
    ((m.openFiles r).readFiles r).timeSpent = (r.now - m.tp1).tdiv 1000 := by
  rw [timeSpent, readFiles_tp2, readFiles_tp1, openFiles_tp1]

/-- The state after an iteration that pushes. -/
def pushed (m : Monitor) (r : Reading) : Monitor := ((m.openFiles r).readFiles r).restart.closeFiles

/-- The next sample covers the time from this reading of the clock on. -/
theorem pushed_tp1 (m : Monitor) (r : Reading) : (m.pushed r).tp1 = r.now := by
  rw [pushed, closeFiles_tp1, restart_tp1, readFiles_tp2]

/-- An iteration that gives up always ends normally. -/
theorem iteration_skip {s : Monitor × List RuntimeProileData} {r : Reading}
    (h : ¬ (s.1.Closed ∧ r.Available)) : iteration s r = .ok (s.1.openFiles r, s.2) := by
  unfold iteration
  rw [if_pos ((openFailed_openFiles s.1 r).mpr h)]

/-- An iteration that does not give up ends as the conversions do. -/
theorem iteration_read {s : Monitor × List RuntimeProileData} {r : Reading}
    (h : s.1.Closed ∧ r.Available) :
    iteration s r = ((s.1.openFiles r).readFiles r).sample.map
      fun x => (s.1.pushed r, s.2 ++ [x]) := by
  have hf : ¬ (s.1.openFiles r).openFailed = true :=
    fun hf => (openFailed_openFiles s.1 r).mp hf h
  unfold iteration
  rw [if_neg hf]
  dsimp only
  cases ((s.1.openFiles r).readFiles r).sample <;> rfl

/-- **What an iteration can do**: nothing to the samples, or one more of them. -/
theorem iteration_cases {s s' : Monitor × List RuntimeProileData} {r : Reading}
    (h : iteration s r = .ok s') :
    (¬ (s.1.Closed ∧ r.Available) ∧ s' = (s.1.openFiles r, s.2)) ∨
      ((s.1.Closed ∧ r.Available) ∧ ∃ x, ((s.1.openFiles r).readFiles r).sample = .ok x ∧
        s' = (s.1.pushed r, s.2 ++ [x])) := by
  by_cases hca : s.1.Closed ∧ r.Available
  · rw [iteration_read hca] at h
    cases hx : ((s.1.openFiles r).readFiles r).sample with
    | error e => rw [hx] at h; cases h
    | ok x =>
      rw [hx] at h
      exact Or.inr ⟨hca, x, rfl, (Except.ok.inj h).symm⟩
  · rw [iteration_skip hca] at h
    exact Or.inl ⟨hca, (Except.ok.inj h).symm⟩

/-- The line that an iteration reads from the current file. -/
theorem currentValue_readFiles {m : Monitor} {r : Reading} (hm : m.Closed) {c : Str}
    (hc : r.current = some c) :
    ((m.openFiles r).readFiles r).currentValue = IfStream.firstLine c := by
  show ((m.currentFile.openFile r.current).getline m.currentValue).2 = _
  rw [hc, IfStream.openFile_getline hm.1]

theorem voltageValue_readFiles {m : Monitor} {r : Reading} (hm : m.Closed) {v : Str}
    (hv : r.voltage = some v) :
    ((m.openFiles r).readFiles r).voltageValue = IfStream.firstLine v := by
  show ((m.voltageFile.openFile r.voltage).getline m.voltageValue).2 = _
  rw [hv, IfStream.openFile_getline hm.2]

/-- The two lines that are read decide whether there is a sample. -/
theorem sample_of_numeric {m : Monitor} {r : Reading} (hm : m.Closed) (ha : r.Available)
    (hn : r.Numeric) : ∃ x, ((m.openFiles r).readFiles r).sample = .ok x := by
  obtain ⟨c, hc⟩ := Option.isSome_iff_exists.mp ha.1
  obtain ⟨v, hv⟩ := Option.isSome_iff_exists.mp ha.2
  obtain ⟨i, hi⟩ := Reading.stoll_of_holdsInteger (hn.1 c hc)
  obtain ⟨u, hu⟩ := Reading.stoll_of_holdsInteger (hn.2 v hv)
  unfold sample
  rw [currentValue_readFiles hm hc, voltageValue_readFiles hm hv, hi, hu]
  exact ⟨_, rfl⟩

/-- An iteration that finds both files pushes one sample if no file was left open. -/
theorem iteration_push {s : Monitor × List RuntimeProileData} {r : Reading} (hm : s.1.Closed)
    (ha : r.Available) (hn : r.Numeric) :
    ∃ x, iteration s r = .ok (s.1.pushed r, s.2 ++ [x]) := by
  obtain ⟨x, hx⟩ := sample_of_numeric hm ha hn
  exact ⟨x, by rw [iteration_read ⟨hm, ha⟩, hx]; rfl⟩

/-! ## A file that is left open -/

/-- An open file stays open for an iteration, which therefore pushes nothing. -/
theorem iteration_of_not_closed {s : Monitor × List RuntimeProileData} (h : ¬ s.1.Closed)
    (r : Reading) : ∃ m, iteration s r = .ok (m, s.2) ∧ ¬ m.Closed := by
  refine ⟨s.1.openFiles r, iteration_skip fun hca => h hca.1, ?_⟩
  intro hc
  have hcur := hc.1
  have hvol := hc.2
  unfold openFiles at hcur hvol
  rw [IfStream.openFile_isOpen, Bool.or_eq_false_iff] at hcur hvol
  exact h ⟨hcur.1, hvol.1⟩

/-- **A file that is left open ends the sampling for good.** -/
theorem stuck {s s' : Monitor × List RuntimeProileData} (h : ¬ s.1.Closed) {readings : List Reading}
    (hrun : readings.foldlM iteration s = .ok s') : s'.2 = s.2 ∧ ¬ s'.1.Closed := by
  refine (trace_of_foldlM hrun).invariant (fun _ s₁ => s₁.2 = s.2 ∧ ¬ s₁.1.Closed)
    ⟨rfl, h⟩ ?_
  intro _ s₁ r s₂ hs₁ hstep
  obtain ⟨m, hm, hopen⟩ := iteration_of_not_closed hs₁.2 r
  have hs₂ : (m, s₁.2) = s₂ := Except.ok.inj (hm.symm.trans hstep)
  rw [← hs₂]
  exact ⟨hs₁.1, hopen⟩

/-- An iteration that finds one of the two files opens it, or finds it open. -/
theorem not_closed_of_mixed {m : Monitor} {r : Reading}
    (h : r.current.isSome ≠ r.voltage.isSome) : ¬ (m.openFiles r).Closed := by
  rintro ⟨hcur, hvol⟩
  unfold openFiles at hcur hvol
  rw [IfStream.openFile_isOpen, Bool.or_eq_false_iff] at hcur hvol
  exact h (hcur.2.trans hvol.2.symm)

/-- An iteration that finds both files or none leaves them closed. -/
theorem closed_of_iteration {s s' : Monitor × List RuntimeProileData} {r : Reading}
    (hc : s.1.Closed) (hr : r.current.isSome = r.voltage.isSome) (h : iteration s r = .ok s') :
    s'.1.Closed := by
  rcases iteration_cases h with ⟨hn, rfl⟩ | ⟨-, x, -, rfl⟩
  · -- both files are missing: the two streams fail, but stay closed
    have hcur : r.current.isSome = false := by
      by_contra hs
      rw [Bool.not_eq_false] at hs
      exact hn ⟨hc, hs, hr ▸ hs⟩
    show (s.1.openFiles r).Closed
    unfold openFiles Closed
    rw [IfStream.openFile_isOpen, IfStream.openFile_isOpen, hc.1, hc.2, ← hr, hcur]
    exact ⟨rfl, rfl⟩
  · exact closed_closeFiles _

end Monitor

/-! ## Recovery -/

/-- One more sample after an iteration. -/
def Pushes (s : Monitor × List RuntimeProileData) (r : Reading) : Prop :=
  ∃ m x, Monitor.iteration s r = .ok (m, s.2 ++ [x])

/--
Every iteration does what it is for: if both files can be opened it pushes one sample, otherwise
it pushes none and the next one to find both files and numbers in them will push one.
-/
def Recovers (now : Int) (powerData : List RuntimeProileData) (readings : List Reading) : Prop :=
  ∀ before r after, readings = before ++ r :: after →
    ∃ s, monitoringPower now before powerData = .ok s ∧ (r.Available → Pushes s r) ∧
      (¬ r.Available → ∃ m, Monitor.iteration s r = .ok (m, s.2) ∧
        ∀ next : Reading, next.Available → next.Numeric → Pushes (m, s.2) next)

/-- A run over iterations that find both files or none ends normally, with no file open. -/
theorem monitoringPower_closed (now : Int) (powerData : List RuntimeProileData)
    {readings : List Reading} (hnum : ∀ r ∈ readings, r.Numeric)
    (hboth : ∀ r ∈ readings, r.current.isSome = r.voltage.isSome) :
    ∃ s, monitoringPower now readings powerData = .ok s ∧ s.1.Closed := by
  unfold monitoringPower
  refine foldlM_ok (fun s : Monitor × List RuntimeProileData => s.1.Closed)
    (Monitor.closed_initial now) ?_
  intro r hr s hc
  have hnext : ∃ s', Monitor.iteration s r = .ok s' := by
    by_cases ha : r.Available
    · obtain ⟨x, hx⟩ := Monitor.iteration_push hc ha (hnum r hr)
      exact ⟨_, hx⟩
    · exact ⟨_, Monitor.iteration_skip fun hca => ha hca.2⟩
  obtain ⟨s', hs'⟩ := hnext
  exact ⟨s', hs', Monitor.closed_of_iteration hc (hboth r hr) hs'⟩

/-- An iteration that finds only one of the files is not recovered from. -/
theorem not_recovers_of_mixed {now : Int} {powerData : List RuntimeProileData}
    {readings : List Reading} {r : Reading} (hr : r ∈ readings)
    (hmixed : r.current.isSome ≠ r.voltage.isSome) : ¬ Recovers now powerData readings := by
  intro h
  obtain ⟨before, after, rfl⟩ := List.append_of_mem hr
  obtain ⟨s, -, -, hskip⟩ := h before r after rfl
  have hna : ¬ r.Available := fun ha => hmixed (ha.1.trans ha.2.symm)
  obtain ⟨m, hm, hnext⟩ := hskip hna
  -- the file that was there is still open, so an iteration that finds both pushes nothing
  have hopen : ¬ m.Closed := by
    rw [Monitor.iteration_skip fun hca => hna hca.2] at hm
    obtain ⟨rfl, -⟩ := Prod.mk.inj (Except.ok.inj hm)
    exact Monitor.not_closed_of_mixed hmixed
  obtain ⟨m', x, hpush⟩ := hnext Reading.ones (by decide) (by decide +kernel)
  obtain ⟨m'', hstay, -⟩ := Monitor.iteration_of_not_closed (s := (m, s.2)) hopen Reading.ones
  have hdata := congrArg Prod.snd (Except.ok.inj (hstay.symm.trans hpush))
  simp at hdata

/--
**Recovery from failures to open.** On files that hold integers, every iteration does what it is
for exactly if each of them finds both files or none.
-/
theorem monitoringPower_recovers (now : Int) (powerData : List RuntimeProileData)
    (readings : List Reading) (hnum : ∀ r ∈ readings, r.Numeric) :
    Recovers now powerData readings ↔
      ∀ r ∈ readings, r.current.isSome = r.voltage.isSome := by
  constructor
  · intro h r hr
    by_contra hmixed
    exact not_recovers_of_mixed hr hmixed h
  · -- both streams are closed in front of every iteration
    intro hboth before r after hsplit
    subst hsplit
    have hsub : ∀ r' ∈ before, r' ∈ before ++ r :: after := fun r' h => List.mem_append_left _ h
    have hr : r ∈ before ++ r :: after := List.mem_append_right _ (List.mem_cons_self ..)
    obtain ⟨s, hs, hc⟩ := monitoringPower_closed now powerData
      (fun r' h => hnum r' (hsub r' h)) (fun r' h => hboth r' (hsub r' h))
    refine ⟨s, hs, ?_, ?_⟩
    · intro ha
      obtain ⟨x, hx⟩ := Monitor.iteration_push hc ha (hnum r hr)
      exact ⟨_, x, hx⟩
    · intro ha
      have hskip := Monitor.iteration_skip (s := s) fun hca => ha hca.2
      have hclosed := Monitor.closed_of_iteration hc (hboth r hr) hskip
      refine ⟨_, hskip, fun next hna hnn => ?_⟩
      obtain ⟨x, hx⟩ := Monitor.iteration_push (s := (s.1.openFiles r, s.2)) hclosed hna hnn
      exact ⟨_, x, hx⟩

theorem monitoringPower_recovers_bothMissing :
    Recovers 0 [] [{ current := none, voltage := none, now := 1 },
      { current := some ['5', '\n'], voltage := some ['7', '\n'], now := 2 }] :=
  (monitoringPower_recovers 0 [] _ (by decide +kernel)).mpr (by decide)

/-- The voltage file is missing once, then both files are there. -/
def voltageMissingOnce : List Reading :=
  [{ current := some ['5', '\n'], voltage := none, now := 1 },
    { current := some ['5', '\n'], voltage := some ['7', '\n'], now := 2 }]

/-- One failure to open the voltage file, and there are no samples any more. -/
theorem monitoringPower_recovers_not :
    (∀ r ∈ voltageMissingOnce, r.Numeric)
      ∧ (monitoringPower 0 voltageMissingOnce []).toOption.map Prod.snd = some []
      ∧ ¬ Recovers 0 [] voltageMissingOnce := by
  refine ⟨by decide +kernel, by decide +kernel, ?_⟩
  exact not_recovers_of_mixed (List.mem_cons_self ..) (by decide)

end UnifiedModelBenchmark
