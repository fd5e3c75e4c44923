import UnifiedModelBenchmark.Spec.Sampler
import UnifiedModelBenchmark.Properties.Monitor

/-!
# The power monitor is the sampler

`monitoring_power` keeps two streams over all iterations, so what an iteration does depends on
those before it. All there is to know of them is whether a stream was left open, and when the last
sample was taken (`foldlM_iteration`).
-/

namespace UnifiedModelBenchmark

open Infra Infra.Cxx Spec

namespace Monitor

/-- What is pushed by an iteration that finds both files. -/
theorem sample_eq {m : Monitor} {r : Reading} (hm : m.Closed) {current voltage : Str}
    (hc : r.current = some current) (hv : r.voltage = some voltage) :
    ((m.openFiles r).readFiles r).sample = sampleOf m.tp1 r.now current voltage := by
  cases hi : stoll (IfStream.firstLine current) with
  | error e => simp [sample, sampleOf, currentValue_readFiles hm hc, hi]
  | ok i =>
    cases hu : stoll (IfStream.firstLine voltage) with
    | error e =>
      simp [sample, sampleOf, currentValue_readFiles hm hc, voltageValue_readFiles hm hv, hi, hu]
    | ok u =>
      simp [sample, sampleOf, currentValue_readFiles hm hc, voltageValue_readFiles hm hv,
        timeSpent_readFiles, hi, hu]

/-- With a stream left open the loop goes on without taking samples. -/
theorem foldlM_of_not_closed {s : Monitor × List RuntimeProileData} (h : ¬ s.1.Closed)
    (readings : List Reading) : ∃ m, readings.foldlM iteration s = .ok (m, s.2) := by
  obtain ⟨⟨m, data⟩, hrun, hopen, hdata⟩ := foldlM_ok (f := iteration)
    (fun s₁ : Monitor × List RuntimeProileData => ¬ s₁.1.Closed ∧ s₁.2 = s.2) ⟨h, rfl⟩
    (fun r _ s₁ hs₁ => by
      obtain ⟨m, hm, hopen⟩ := iteration_of_not_closed hs₁.1 r
      exact ⟨_, hm, hopen, hs₁.2⟩)
  exact ⟨m, by rw [hrun, ← hdata]⟩

/-- An iteration that finds only one of the files is the last one that matters. -/
theorem foldlM_of_mixed {s : Monitor × List RuntimeProileData} {r : Reading}
    (h : r.current.isSome ≠ r.voltage.isSome) (rs : List Reading) :
    ((r :: rs).foldlM iteration s).map Prod.snd = .ok s.2 := by
  have hna : ¬ (s.1.Closed ∧ r.Available) := fun hca => h (hca.2.1.trans hca.2.2.symm)
  obtain ⟨m, hm⟩ := foldlM_of_not_closed (s := (s.1.openFiles r, s.2)) (not_closed_of_mixed h) rs
  rw [List.foldlM_cons, iteration_skip hna]
  show (rs.foldlM iteration (s.1.openFiles r, s.2)).map Prod.snd = _
  rw [hm]
  rfl

/-- The loop from a state in which no file is open. -/
theorem foldlM_iteration : ∀ (readings : List Reading) {s : Monitor × List RuntimeProileData},
    s.1.Closed → (readings.foldlM iteration s).map Prod.snd
      = (observe s.1.tp1 readings).map (s.2 ++ ·)
  | [], s, _ => by
    show Except.ok s.2 = Except.ok (s.2 ++ [])
    rw [List.append_nil]
  | r :: rs, s, hs => by
    cases hc : r.current with
    | none =>
      cases hv : r.voltage with
      | none =>
        -- `tp1` stays where it is, so the next sample covers this iteration as well
        have hskip := iteration_skip (s := s) (r := r)
          fun hca => by simp [Reading.Available, hc] at hca
        have hclosed : (s.1.openFiles r).Closed :=
          closed_of_iteration hs (by rw [hc, hv]) hskip
        have ih := foldlM_iteration rs (s := (s.1.openFiles r, s.2)) hclosed
        rw [openFiles_tp1] at ih
        rw [List.foldlM_cons, hskip, observe, hc, hv]
        exact ih
      | some voltage =>
        rw [foldlM_of_mixed (by simp [hc, hv]), observe, hc, hv]
        show Except.ok s.2 = Except.ok (s.2 ++ [])
        rw [List.append_nil]
    | some current =>
      cases hv : r.voltage with
      | none =>
        rw [foldlM_of_mixed (by simp [hc, hv]), observe, hc, hv]
        show Except.ok s.2 = Except.ok (s.2 ++ [])
        rw [List.append_nil]
      | some voltage =>
        have hread := iteration_read (s := s) (r := r) ⟨hs, by simp [Reading.Available, hc, hv]⟩
        rw [sample_eq hs hc hv] at hread
        rw [List.foldlM_cons, hread, observe, hc, hv]
        dsimp only
        cases sampleOf s.1.tp1 r.now current voltage with
        | error e => rfl
        | ok x =>
          have ih := foldlM_iteration rs (s := (s.1.pushed r, s.2 ++ [x])) (closed_closeFiles _)
          rw [pushed_tp1] at ih
          refine ih.trans ?_
          dsimp only
          cases observe r.now rs with
          | error e => rfl
          | ok data =>
            show Except.ok (s.2 ++ [x] ++ data) = Except.ok (s.2 ++ x :: data)
            rw [List.append_assoc, List.singleton_append]

end Monitor

/--
**The power monitor is the sampler.** Whatever its iterations find, it pushes the samples that the
sampler observes and no others, or throws what the sampler throws.
-/
theorem monitoringPower_eq_observe (now : Int) (readings : List Reading)
    (powerData : List RuntimeProileData) :
    (monitoringPower now readings powerData).map Prod.snd
      = (observe now readings).map (powerData ++ ·) :=
  Monitor.foldlM_iteration readings (s := (.initial now, powerData)) (Monitor.closed_initial now)

/-- Two samples, no files in between, and then one of the files only. -/
example : observe 100 [
      { current := some ['5', '\n'], voltage := some ['7', '\n'], now := 2700 },
      { current := none, voltage := none, now := 3000 },
      { current := some ['6', '\n'], voltage := some ['7', '\n'], now := 5600 },
      { current := some ['6', '\n'], voltage := none, now := 6000 },
      { current := some ['8', '\n'], voltage := some ['7', '\n'], now := 7000 }]
    = .ok [⟨2, 5, 7, 0⟩, ⟨2, 6, 7, 0⟩] := by decide +kernel

end UnifiedModelBenchmark
