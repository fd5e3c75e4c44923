import UnifiedModelBenchmark.Infra.World

/-!
# What a program adds to its world

`Adds p w a n lines events` says all there is to say of a program that ends normally in the world
`w`: its result, how often it reads the clock, its lines and its events. `Stops` says the same of
a program that stops early. The rules follow the program text: what a sequence adds is what its
parts add, one after the other, and a loop adds what its bodies add.
-/

namespace Infra

open Cxx

namespace Program

variable {ε Event α β : Type}

def Adds (p : Program ε Event α) (w : World Event) (a : α) (n : Nat) (lines : List Line)
    (events : List Event) : Prop :=
  p w = .ok (a, w.after n lines events)

def Stops (p : Program ε Event α) (w : World Event) (e : ε) (n : Nat) (lines : List Line)
    (events : List Event) : Prop :=
  p w = .error (e, w.after n lines events)

namespace Adds

theorem pure (a : α) (w : World Event) : Adds (Pure.pure a : Program ε Event α) w a 0 [] [] := by
  unfold Adds
  rw [w.after_zero]
  rfl

theorem info (text : Str) (w : World Event) :
    Adds (info text : Program ε Event Unit) w () 0 [.info text] [] := rfl

theorem error (text : Str) (w : World Event) :
    Adds (error text : Program ε Event Unit) w () 0 [.error text] [] := rfl

theorem emit (e : Event) (w : World Event) :
    Adds (emit e : Program ε Event Unit) w () 0 [] [e] := rfl

variable {p : Program ε Event α} {q : α → Program ε Event β} {w : World Event} {a : α} {b : β}
  {n m : Nat} {lines lines' : List Line} {events events' : List Event}

theorem bind (hp : Adds p w a n lines events)
    (hq : Adds (q a) (w.after n lines events) b m lines' events') :
    Adds (p >>= q) w b (n + m) (lines ++ lines') (events ++ events') := by
  unfold Adds at hp hq ⊢
  rw [bind_eq_ok hp, hq, World.after_after]

/-- A sequence whose first part does not read the clock. -/
theorem seq (hp : Adds p w a 0 lines events)
    (hq : Adds (q a) (w.after 0 lines events) b m lines' events') :
    Adds (p >>= q) w b m (lines ++ lines') (events ++ events') := by
  have h := hp.bind hq
  rw [Nat.zero_add] at h
  exact h

theorem ite {c : Prop} [Decidable c] {p p' : Program ε Event α}
    (hp : Adds p w a n lines events) (hp' : Adds p' w a n lines' events') :
    Adds (if c then p else p') w a n (if c then lines else lines')
      (if c then events else events') := by
  split
  · exact hp
  · exact hp'

/-- A loop whose bodies do not read the clock. -/
theorem forM {f : β → Program ε Event PUnit} {lines : β → List Line} {events : β → List Event} :
    ∀ {l : List β}, (∀ b ∈ l, ∀ w, Adds (f b) w ⟨⟩ 0 (lines b) (events b)) →
      ∀ w, Adds (l.forM f) w ⟨⟩ 0 (l.flatMap lines) (l.flatMap events)
  | [], _, w => Adds.pure _ w
  | b :: l, h, w => by
    show Adds (f b >>= fun _ => l.forM f) w ⟨⟩ 0 (lines b ++ l.flatMap lines)
      (events b ++ l.flatMap events)
    exact Adds.bind (q := fun _ => l.forM f) (h b (List.mem_cons_self ..) w)
      (Adds.forM (fun b' hb' => h b' (List.mem_cons_of_mem b hb')) _)

/-- A loop that writes a line for each element. -/
theorem forM_lines {f : β → Program ε Event PUnit} {line : β → Line} {l : List β}
    (h : ∀ b ∈ l, ∀ w, Adds (f b) w ⟨⟩ 0 [line b] []) (w : World Event) :
    Adds (l.forM f) w ⟨⟩ 0 (l.map line) [] := by
  have hloop := Adds.forM h w
  rw [← List.map_eq_flatMap, List.flatMap_eq_nil_iff.mpr fun _ _ => rfl] at hloop
  exact hloop

/-- A loop that asks for one thing for each element. -/
theorem forM_emit (event : β → Event) (l : List β) (w : World Event) :
    Adds (l.forM fun b => (Program.emit (event b) : Program ε Event PUnit)) w ⟨⟩ 0 []
      (l.map event) := by
  have hloop := Adds.forM (f := fun b => (Program.emit (event b) : Program ε Event PUnit)) (l := l)
    (fun b _ w => Adds.emit (event b) w) w
  rw [← List.map_eq_flatMap, List.flatMap_eq_nil_iff.mpr fun _ _ => rfl] at hloop
  exact hloop

end Adds

namespace Stops

theorem stop (e : ε) (w : World Event) : Stops (stop e : Program ε Event α) w e 0 [] [] := by
  unfold Stops
  rw [w.after_zero]
  rfl

variable {p : Program ε Event α} {q : α → Program ε Event β} {w : World Event} {a : α} {e : ε}
  {n m : Nat} {lines lines' : List Line} {events events' : List Event}

theorem bind_left (hp : Stops p w e n lines events) (q : α → Program ε Event β) :
    Stops (p >>= q) w e n lines events :=
  bind_eq_error hp

theorem bind_right (hp : Adds p w a n lines events)
    (hq : Stops (q a) (w.after n lines events) e m lines' events') :
    Stops (p >>= q) w e (n + m) (lines ++ lines') (events ++ events') := by
  unfold Adds at hp
  unfold Stops at hq ⊢
  rw [bind_eq_ok hp, hq, World.after_after]

/-- A loop stops in the first of its bodies that does. -/
theorem forM {f : β → Program ε Event PUnit} {lines : β → List Line} {events : β → List Event}
    {b : β} (hb : ∀ w, Stops (f b) w e 0 lines' events') (after : List β) :
    ∀ {before : List β}, (∀ b ∈ before, ∀ w, Adds (f b) w ⟨⟩ 0 (lines b) (events b)) → ∀ w,
      Stops ((before ++ b :: after).forM f) w e 0 (before.flatMap lines ++ lines')
        (before.flatMap events ++ events')
  | [], _, w => (hb w).bind_left fun _ => after.forM f
  | b' :: before, h, w => by
    rw [List.flatMap_cons, List.flatMap_cons, List.append_assoc, List.append_assoc]
    exact Stops.bind_right (q := fun _ => (before ++ b :: after).forM f)
      (h b' (List.mem_cons_self ..) w)
      (Stops.forM hb after (fun c hc => h c (List.mem_cons_of_mem b' hc)) _)

end Stops

end Program

end Infra
