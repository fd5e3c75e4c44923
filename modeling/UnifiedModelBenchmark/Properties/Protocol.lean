import UnifiedModelBenchmark.Properties.Timing

/-!
# In which order a profiler may be used

`use_energy_profile` is public, so a caller can set it between `start` and `end`. Only the calls
that it makes while the flag is set touch the thread object, and on Android only: `start` assigns a
thread to it, `end` joins it. No such call is an error of `std::thread` exactly if they alternate
(`calls_ok_iff`). A flag that is set after `start`, or taken back before `end`, is enough to break
that.

This is about the calls on the thread object alone. What a monitor does in the meantime is no part
of it, and may well end the program (`Properties/Faults.lean`).
-/

namespace UnifiedModelBenchmark

open Infra Infra.Cxx Program

variable {Event : Type} [Clocked Event]

/-- What a caller may do with its profiler. -/
inductive Call
  | start
  | end
  | useEnergyProfile (b : Bool)
deriving DecidableEq, Repr

namespace MyProfiler

def call (android : Bool) (p : MyProfiler) : Call → Program Stop Event MyProfiler
  | .start => p.performStart android
  | .end => p.performEnd android
  | .useEnergyProfile b => pure { p with useEnergyProfile := b }

def calls (android : Bool) (calls : List Call) (p : MyProfiler) : Program Stop Event MyProfiler :=
  calls.foldlM (call android) p

/-- The object has a thread that must be joined before it is destroyed. -/
def Joinable (p : MyProfiler) : Bool := p.powerMonitorThread.isSome

end MyProfiler

/-- The calls that touch the thread object, `true` for `start` and `false` for `end`. -/
def threadCalls (android : Bool) : Bool → List Call → List Bool
  | _, [] => []
  | _, .useEnergyProfile b :: calls => threadCalls android b calls
  | energy, .start :: calls =>
    if android && energy then true :: threadCalls android energy calls
    else threadCalls android energy calls
  | energy, .end :: calls =>
    if android && energy then false :: threadCalls android energy calls
    else threadCalls android energy calls

/-- The thread object under calls that touch it: whether there is a thread to be joined after them,
or the first of them that does not alternate. -/
def settle : Bool → List Bool → Except Bool Bool
  | joinable, [] => .ok joinable
  | joinable, start :: touches => if start = joinable then .error start else settle start touches

theorem settle_eq_ok : ∀ {touches : List Bool} {joinable last : Bool},
    settle joinable touches = .ok last ↔
      (joinable :: touches).IsChain (· ≠ ·) ∧ (joinable :: touches).getLast? = some last
  | [], joinable, last => by simp [settle]
  | start :: touches, joinable, last => by
    rw [settle, List.isChain_cons_cons, List.getLast?_cons_cons]
    by_cases hclash : start = joinable
    · rw [if_pos hclash]
      simp [hclash]
    · rw [if_neg hclash, settle_eq_ok]
      exact ⟨fun h => ⟨⟨Ne.symm hclash, h.1⟩, h.2⟩, fun h => ⟨h.1.2, h.2⟩⟩

theorem settle_eq_error : ∀ {touches : List Bool} {joinable start : Bool},
    settle joinable touches = .error start ↔ ∃ before after, touches = before ++ start :: after ∧
      settle joinable before = .ok start
  | [], joinable, start => by simp [settle]
  | first :: touches, joinable, start => by
    rw [settle]
    by_cases hclash : first = joinable
    · rw [if_pos hclash]
      constructor
      · intro h
        obtain rfl : first = start := Except.error.inj h
        exact ⟨[], touches, rfl, congrArg Except.ok hclash.symm⟩
      · rintro ⟨before, after, hsplit, hbefore⟩
        cases before with
        | nil => rw [(List.cons.inj hsplit).1]
        | cons b before =>
          obtain rfl : first = b := (List.cons.inj hsplit).1
          rw [settle, if_pos hclash] at hbefore
          cases hbefore
    · rw [if_neg hclash, settle_eq_error]
      constructor
      · rintro ⟨before, after, rfl, hbefore⟩
        exact ⟨first :: before, after, rfl, by rw [settle, if_neg hclash, hbefore]⟩
      · rintro ⟨before, after, hsplit, hbefore⟩
        cases before with
        | nil =>
          obtain rfl : joinable = start := Except.ok.inj hbefore
          exact absurd (List.cons.inj hsplit).1 hclash
        | cons b before =>
          obtain ⟨rfl, hrest⟩ := List.cons.inj hsplit
          rw [settle, if_neg hclash] at hbefore
          exact ⟨before, after, hrest, hbefore⟩

/-- What a call that does not alternate is answered with. -/
def clash (start : Bool) : ThreadError := if start then .assignToJoinable else .joinNotJoinable

namespace MyProfiler

/-! ## One call -/

/-- A call that touches the thread object: `start` needs that there is no thread to be joined, and
`end` that there is one. -/
theorem call_touches {p : MyProfiler} (h : p.useEnergyProfile = true) (start : Bool)
    (w : World Event) :
    (p.Joinable = start → ∃ w', p.call true (if start then .start else .end) w
      = .error (.thread (clash start), w')) ∧
    (p.Joinable ≠ start → ∃ p' w', p.call true (if start then .start else .end) w = .ok (p', w') ∧
      p'.useEnergyProfile = true ∧ p'.Joinable = start) := by
  rcases p with ⟨t₁, t₂, running, thread, lat, energy, data, unit⟩
  obtain rfl : energy = true := h
  cases thread <;> cases start
  · exact ⟨fun _ => ⟨_, rfl⟩, fun hne => absurd rfl hne⟩
  · exact ⟨nofun, fun _ => ⟨_, _, rfl, rfl, rfl⟩⟩
  · exact ⟨nofun, fun _ => ⟨_, _, rfl, rfl, rfl⟩⟩
  · exact ⟨fun _ => ⟨_, rfl⟩, fun hne => absurd rfl hne⟩

/-- A call that does not touch it always succeeds. -/
theorem call_passes {android : Bool} {p : MyProfiler} (h : (android && p.useEnergyProfile) = false)
    (start : Bool) (w : World Event) :
    ∃ p' w', p.call android (if start then .start else .end) w = .ok (p', w') ∧
      p'.useEnergyProfile = p.useEnergyProfile ∧ p'.Joinable = p.Joinable := by
  rcases p with ⟨t₁, t₂, running, thread, lat, energy, data, unit⟩
  have hoff : android = false ∨ energy = false := Bool.and_eq_false_iff.mp h
  rcases hoff with rfl | rfl
  · cases start <;> exact ⟨_, _, rfl, rfl, rfl⟩
  · cases android <;> cases start <;> exact ⟨_, _, rfl, rfl, rfl⟩

end MyProfiler

/-! ## Any number of calls -/

namespace MyProfiler

theorem calls_cons_ok {android : Bool} {p p' : MyProfiler} {c : Call} {w w' : World Event}
    (h : p.call android c w = .ok (p', w')) (calls : List Call) :
    p.calls android (c :: calls) w = p'.calls android calls w' := by
  unfold MyProfiler.calls
  rw [List.foldlM_cons]
  exact bind_eq_ok h

theorem calls_cons_error {android : Bool} {p : MyProfiler} {c : Call} {w : World Event}
    {e : Stop × World Event} (h : p.call android c w = .error e) (calls : List Call) :
    p.calls android (c :: calls) w = .error e := by
  unfold MyProfiler.calls
  rw [List.foldlM_cons]
  exact bind_eq_error h

/-- The calls come to what the touches come to. -/
def Settles (android : Bool) (p : MyProfiler) (w : World Event) (cs : List Call)
    (settled : Except Bool Bool) : Prop :=
  (∀ last, settled = .ok last → ∃ p' w', p.calls android cs w = .ok (p', w') ∧
    p'.Joinable = last) ∧
  ∀ start, settled = .error start → ∃ w', p.calls android cs w = .error (.thread (clash start), w')

/-- Whether or not the first call touches the thread object, it does what `settle` does there. -/
theorem settles_cons {android : Bool} (start : Bool) {cs : List Call}
    (ih : ∀ (p : MyProfiler) (w : World Event),
      p.Settles android w cs (settle p.Joinable (threadCalls android p.useEnergyProfile cs)))
    (p : MyProfiler) (w : World Event) :
    p.Settles android w ((if start then .start else .end) :: cs) (settle p.Joinable
      (if (android && p.useEnergyProfile) = true then
        start :: threadCalls android p.useEnergyProfile cs
      else threadCalls android p.useEnergyProfile cs)) := by
  by_cases htouch : (android && p.useEnergyProfile) = true
  · rw [if_pos htouch, settle]
    obtain ⟨rfl, henergy⟩ : android = true ∧ p.useEnergyProfile = true := by simpa using htouch
    obtain ⟨hclash, hgoesOn⟩ := call_touches henergy start w
    by_cases hj : start = p.Joinable
    · obtain ⟨w', hcall⟩ := hclash hj.symm
      rw [if_pos hj]
      refine ⟨nofun, fun s hs => ⟨w', ?_⟩⟩
      obtain rfl : start = s := Except.error.inj hs
      exact calls_cons_error hcall cs
    · obtain ⟨p', w', hcall, henergy', hj'⟩ := hgoesOn (Ne.symm hj)
      have hrest := ih p' w'
      rw [if_neg hj, henergy]
      rw [hj', henergy'] at hrest
      unfold Settles
      rw [calls_cons_ok hcall cs]
      exact hrest
  · obtain ⟨p', w', hcall, henergy', hj'⟩ := call_passes (Bool.eq_false_iff.mpr htouch) start w
    have hrest := ih p' w'
    rw [hj', henergy'] at hrest
    rw [if_neg htouch]
    unfold Settles
    rw [calls_cons_ok hcall cs]
    exact hrest

/-- **The calls do to the profiler what they do to its thread object.** -/
theorem settles {android : Bool} : ∀ (cs : List Call) (p : MyProfiler) (w : World Event),
    p.Settles android w cs (settle p.Joinable (threadCalls android p.useEnergyProfile cs))
  | [], p, w => ⟨fun _ h => ⟨p, w, rfl, Except.ok.inj h⟩, nofun⟩
  | .useEnergyProfile b :: cs, p, w => settles cs { p with useEnergyProfile := b } w
  | .start :: cs, p, w => settles_cons true (settles cs) p w
  | .end :: cs, p, w => settles_cons false (settles cs) p w

/--
**No call of a new profiler is an error of `std::thread` exactly if those that touch the thread
object alternate**, the first of them being a `start`. There is a thread to be joined afterwards
exactly if the last one is a `start`. Otherwise the error is that of the first of them that is out
of turn. Those in front of it alternate and end with one of the same kind; in front of an `end`
there may be none. Where the build is not for Android, no call touches the thread object.
-/
theorem calls_ok_iff (android : Bool) (cs : List Call) (w : World Event) :
    ((∃ p w', ({} : MyProfiler).calls android cs w = .ok (p, w')) ↔
      (false :: threadCalls android false cs).IsChain (· ≠ ·)) ∧
    (∀ p w', ({} : MyProfiler).calls android cs w = .ok (p, w') →
      (p.Joinable = true ↔ (threadCalls android false cs).getLast? = some true)) ∧
    ∀ e w', ({} : MyProfiler).calls android cs w = .error (e, w') →
      ∃ before start after, threadCalls android false cs = before ++ start :: after ∧
        (false :: before).IsChain (· ≠ ·) ∧ (false :: before).getLast? = some start ∧
        e = .thread (clash start) := by
  obtain ⟨hok, herror⟩ := settles cs {} w
  cases hsettle : settle false (threadCalls android false cs) with
  | ok last =>
    obtain ⟨hchain, hlast⟩ := settle_eq_ok.mp hsettle
    obtain ⟨p, w', hcalls, hj⟩ := hok last hsettle
    refine ⟨iff_of_true ⟨p, w', hcalls⟩ hchain, fun q w'' hq => ?_, fun e w'' he => ?_⟩
    · obtain ⟨rfl, -⟩ := Prod.mk.inj (Except.ok.inj (hcalls.symm.trans hq))
      rw [List.getLast?_cons, Option.some.injEq] at hlast
      rw [hj, ← hlast]
      cases (threadCalls android false cs).getLast? <;> simp
    · cases hcalls.symm.trans he
  | error start =>
    obtain ⟨w', hcalls⟩ := herror start hsettle
    refine ⟨iff_of_false ?_ ?_, fun q w'' hq => ?_, fun e w'' he => ?_⟩
    · rintro ⟨p, w'', hp⟩
      cases hcalls.symm.trans hp
    · intro hchain
      cases hsettle.symm.trans (settle_eq_ok.mpr ⟨hchain, List.getLast?_cons⟩)
    · cases hcalls.symm.trans hq
    · obtain ⟨rfl, -⟩ := Prod.mk.inj (Except.error.inj (hcalls.symm.trans he))
      obtain ⟨before, after, hsplit, hbefore⟩ := settle_eq_error.mp hsettle
      obtain ⟨hchain, hlast⟩ := settle_eq_ok.mp hbefore
      exact ⟨before, start, after, hsplit, hchain, hlast, rfl⟩

end MyProfiler

end UnifiedModelBenchmark
