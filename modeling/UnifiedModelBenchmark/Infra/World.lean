import UnifiedModelBenchmark.Infra.Cxx

/-!
# Programs with a clock, a log and an environment

A `Program` reads a clock, writes a log and asks its environment to do things (`emit`). It may
stop early; the world is then kept as it was left, and nothing is said of what follows.

## Frame rules

* `Timeless` — the program ends normally and does not read the clock
* `Emits P` — however the program ends, it has only added events with `P`

Both are kept by sequencing and by loops. A program that is `Timeless` can stand in front of one
that `Yields` something.
-/

namespace Infra

open Cxx

/-- A line of the log, with its severity. -/
inductive Line
  | info (text : Str)
  | error (text : Str)
deriving DecidableEq, Repr

/-- `clock n` is what the `n`-th reading of the clock gives; `ticks` readings were made so far. -/
structure World (Event : Type) where
  clock : Nat → Int
  ticks : Nat := 0
  log : List Line := []
  events : List Event := []

variable {ε Event α β : Type}

namespace World

/-- The world after `n` more readings of the clock, with more lines and more events. -/
def after (w : World Event) (n : Nat) (lines : List Line) (events : List Event) : World Event :=
  { w with ticks := w.ticks + n, log := w.log ++ lines, events := w.events ++ events }

@[simp] theorem after_clock (w : World Event) (n : Nat) (lines : List Line) (events : List Event) :
    (w.after n lines events).clock = w.clock := rfl

@[simp] theorem after_ticks (w : World Event) (n : Nat) (lines : List Line) (events : List Event) :
    (w.after n lines events).ticks = w.ticks + n := rfl

@[simp] theorem after_log (w : World Event) (n : Nat) (lines : List Line) (events : List Event) :
    (w.after n lines events).log = w.log ++ lines := rfl

@[simp] theorem after_events (w : World Event) (n : Nat) (lines : List Line)
    (events : List Event) : (w.after n lines events).events = w.events ++ events := rfl

@[simp] theorem after_zero (w : World Event) : w.after 0 [] [] = w := by
  unfold after
  rw [List.append_nil, List.append_nil]
  rfl

@[simp] theorem after_after (w : World Event) (n m : Nat) (lines lines' : List Line)
    (events events' : List Event) : (w.after n lines events).after m lines' events'
      = w.after (n + m) (lines ++ lines') (events ++ events') := by
  unfold after
  rw [Nat.add_assoc, List.append_assoc, List.append_assoc]

end World

/-- Programs that may stop with an `ε`. -/
abbrev Program (ε Event : Type) := StateT (World Event) (Except (ε × World Event))

namespace Program

def info (text : Str) : Program ε Event Unit := fun w => .ok ((), w.after 0 [.info text] [])

def error (text : Str) : Program ε Event Unit := fun w => .ok ((), w.after 0 [.error text] [])

def emit (e : Event) : Program ε Event Unit := fun w => .ok ((), w.after 0 [] [e])

def readClock : Program ε Event Int := fun w =>
  .ok (w.clock w.ticks, w.after 1 [] [])

def stop (e : ε) : Program ε Event α := fun w => .error (e, w)

theorem bind_eq_ok {p : Program ε Event α} {q : α → Program ε Event β} {w w' : World Event} {a : α}
    (h : p w = .ok (a, w')) : (p >>= q) w = q a w' := by
  show ((p w).bind fun x => q x.1 x.2) = q a w'
  rw [h]
  rfl

theorem bind_eq_error {p : Program ε Event α} {q : α → Program ε Event β} {w : World Event}
    {e : ε × World Event} (h : p w = .error e) : (p >>= q) w = .error e := by
  show ((p w).bind fun x => q x.1 x.2) = .error e
  rw [h]
  rfl

/-! ## Programs that do not read the clock -/

/-- The program ends normally. It may have added to the log and to the events, and that is all. -/
def Timeless (p : Program ε Event α) : Prop :=
  ∀ w, ∃ a lines events, p w = .ok (a, w.after 0 lines events)

namespace Timeless

theorem pure (a : α) : Timeless (Pure.pure a : Program ε Event α) :=
  fun w => ⟨a, [], [], by rw [w.after_zero]; rfl⟩

theorem info (text : Str) : Timeless (info text : Program ε Event Unit) :=
  fun _ => ⟨(), [.info text], [], rfl⟩

theorem error (text : Str) : Timeless (error text : Program ε Event Unit) :=
  fun _ => ⟨(), [.error text], [], rfl⟩

theorem emit (e : Event) : Timeless (emit e : Program ε Event Unit) :=
  fun _ => ⟨(), [], [e], rfl⟩

theorem bind {p : Program ε Event α} {q : α → Program ε Event β} (hp : Timeless p)
    (hq : ∀ a, Timeless (q a)) : Timeless (p >>= q) := by
  intro w
  obtain ⟨a, lines, events, hpw⟩ := hp w
  obtain ⟨b, lines', events', hqw⟩ := hq a (w.after 0 lines events)
  refine ⟨b, lines ++ lines', events ++ events', ?_⟩
  rw [bind_eq_ok hpw, hqw, World.after_after]

theorem forM {f : β → Program ε Event PUnit} : ∀ {l : List β}, (∀ b ∈ l, Timeless (f b)) →
    Timeless (l.forM f)
  | [], _ => Timeless.pure _
  | b :: l, h => by
    show Timeless (f b >>= fun _ => l.forM f)
    exact (h b (List.mem_cons_self ..)).bind fun _ =>
      Timeless.forM fun b' hb' => h b' (List.mem_cons_of_mem b hb')

theorem ite {c : Prop} [Decidable c] {p q : Program ε Event α} (hp : Timeless p)
    (hq : Timeless q) : Timeless (if c then p else q) := by
  split
  · exact hp
  · exact hq

end Timeless

/-! ## Results that depend on the clock alone -/

/-- With this clock, not read so far, the program ends normally with this result. -/
def Yields (clock : Nat → Int) (b : β) (p : Program ε Event β) : Prop :=
  ∀ w : World Event, w.clock = clock → w.ticks = 0 → ∃ w', p w = .ok (b, w')

theorem Yields.bind {clock : Nat → Int} {b : β} {p : Program ε Event α} {q : α → Program ε Event β}
    (hp : Timeless p) (hq : ∀ a, Yields clock b (q a)) : Yields clock b (p >>= q) := by
  intro w hclock hticks
  obtain ⟨a, lines, events, hpw⟩ := hp w
  rw [bind_eq_ok hpw]
  exact hq a _ hclock (by rw [World.after_ticks, hticks])

/-! ## Programs that only add certain events -/

/-- The world at the end, or where the program stopped. -/
def final (r : Except (ε × World Event) (α × World Event)) : World Event :=
  match r with
  | .error e => e.2
  | .ok x => x.2

/-- However the program ends, it has added nothing but events with `P`. -/
def Emits (P : Event → Prop) (p : Program ε Event α) : Prop :=
  ∀ w, ∃ events, (final (p w)).events = w.events ++ events ∧ ∀ e ∈ events, P e

namespace Emits

variable {P : Event → Prop}

theorem mono {Q : Event → Prop} {p : Program ε Event α} (h : Emits P p) (hPQ : ∀ e, P e → Q e) :
    Emits Q p := by
  intro w
  obtain ⟨events, hev, hP⟩ := h w
  exact ⟨events, hev, fun e he => hPQ e (hP e he)⟩

/-- A program that leaves the events as they are. -/
theorem of_frame {p : Program ε Event α} (h : ∀ w, (final (p w)).events = w.events) : Emits P p :=
  fun w => ⟨[], by rw [h, List.append_nil], by simp⟩

theorem pure (a : α) : Emits P (Pure.pure a : Program ε Event α) := of_frame fun _ => rfl

theorem info (text : Str) : Emits P (info text : Program ε Event Unit) :=
  of_frame fun w => List.append_nil w.events

theorem error (text : Str) : Emits P (error text : Program ε Event Unit) :=
  of_frame fun w => List.append_nil w.events

theorem readClock : Emits P (readClock : Program ε Event Int) :=
  of_frame fun w => List.append_nil w.events

theorem stop (e : ε) : Emits P (stop e : Program ε Event α) := of_frame fun _ => rfl

theorem emit {e : Event} (h : P e) : Emits P (emit e : Program ε Event Unit) :=
  fun w => ⟨[e], w.after_events 0 [] [e], by simpa using h⟩

theorem bind {p : Program ε Event α} {q : α → Program ε Event β} (hp : Emits P p)
    (hq : ∀ a, Emits P (q a)) : Emits P (p >>= q) := by
  intro w
  obtain ⟨events, hev, hP⟩ := hp w
  cases hpw : p w with
  | error e =>
    rw [hpw] at hev
    exact ⟨events, by rw [bind_eq_error hpw]; exact hev, hP⟩
  | ok x =>
    rw [hpw] at hev
    obtain ⟨events', hev', hP'⟩ := hq x.1 x.2
    refine ⟨events ++ events', ?_, ?_⟩
    · have hok : p w = .ok (x.1, x.2) := hpw
      rw [bind_eq_ok hok, hev', ← List.append_assoc]
      exact congrArg (· ++ events') hev
    · intro e he
      rcases List.mem_append.mp he with he | he
      · exact hP e he
      · exact hP' e he

theorem ite {c : Prop} [Decidable c] {p q : Program ε Event α} (hp : Emits P p)
    (hq : Emits P q) : Emits P (if c then p else q) := by
  split
  · exact hp
  · exact hq

theorem forM {f : β → Program ε Event PUnit} : ∀ {l : List β}, (∀ b ∈ l, Emits P (f b)) →
    Emits P (l.forM f)
  | [], _ => Emits.pure _
  | b :: l, h => by
    show Emits P (f b >>= fun _ => l.forM f)
    exact (h b (List.mem_cons_self ..)).bind fun _ =>
      Emits.forM fun b' hb' => h b' (List.mem_cons_of_mem b hb')

theorem foldlM {f : α → β → Program ε Event α} (h : ∀ a b, Emits P (f a b)) :
    ∀ (l : List β) (a : α), Emits P (l.foldlM f a)
  | [], _ => Emits.pure _
  | b :: l, a => by
    rw [List.foldlM_cons]
    exact (h a b).bind fun a' => Emits.foldlM h l a'

end Emits

/-! ## Programs that always add a certain event -/

/-- However the program ends, there is an event with `P` then. -/
def Reaches (P : Event → Prop) (p : Program ε Event α) : Prop :=
  ∀ w, ∃ e ∈ (final (p w)).events, P e

namespace Reaches

variable {P : Event → Prop}

theorem emit {e : Event} (h : P e) : Reaches P (emit e : Program ε Event Unit) :=
  fun w => ⟨e, List.mem_append_right w.events (List.mem_singleton_self e), h⟩

/-- What was added stays, whatever follows. -/
theorem bind_left {p : Program ε Event α} {q : α → Program ε Event β} (hp : Reaches P p)
    (hq : ∀ a, Emits (fun _ => True) (q a)) : Reaches P (p >>= q) := by
  intro w
  obtain ⟨e, he, hPe⟩ := hp w
  refine ⟨e, ?_, hPe⟩
  cases hpw : p w with
  | error x =>
    rw [hpw] at he
    rw [bind_eq_error hpw]
    exact he
  | ok x =>
    rw [hpw] at he
    have hok : p w = .ok (x.1, x.2) := hpw
    obtain ⟨events, hev, -⟩ := hq x.1 x.2
    rw [bind_eq_ok hok, hev]
    exact List.mem_append_left events he

theorem bind_right {p : Program ε Event α} {q : α → Program ε Event β} (hp : Timeless p)
    (hq : ∀ a, Reaches P (q a)) : Reaches P (p >>= q) := by
  intro w
  obtain ⟨a, lines, events, hpw⟩ := hp w
  rw [bind_eq_ok hpw]
  exact hq a _

end Reaches

end Program

end Infra
