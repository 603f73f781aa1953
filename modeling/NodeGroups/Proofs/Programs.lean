import NodeGroups.Proofs.Moments

namespace NodeGroups

inductive Event
  | called (c : Call) (reply : c.Reply)
  | clock (now : Nat)
  | drew (value : UInt64)
  | batch (moments : List (Nat × Moment (Except Error String)))

/-- A program run in a world: its events, its result, and the world afterwards. The clock shows any time,
any random numbers are drawn, and tasks interleave in any way. -/
inductive Program.Run {World : Type} (cloud : Cloud World) {α : Type} :
    Program α → World → List Event → α → World → Prop
  | done {a : α} {w : World} : Run cloud (.done a) w [] a w
  | call {c : Call} {next : c.Reply → Program α} {reply : c.Reply} {w w' w'' : World}
      {es : List Event} {a : α} (change : cloud c w reply w')
      (rest : Run cloud (next reply) w' es a w'') :
      Run cloud (.call c next) w (.called c reply :: es) a w''
  | clock {next : Nat → Program α} {now : Nat} {w w' : World} {es : List Event} {a : α}
      (rest : Run cloud (next now) w es a w') : Run cloud (.clock next) w (.clock now :: es) a w'
  | draw {next : UInt64 → Program α} {value : UInt64} {w w' : World} {es : List Event} {a : α}
      (rest : Run cloud (next value) w es a w') : Run cloud (.draw next) w (.drew value :: es) a w'
  | batch {tasks : List (Task (Except Error String))}
      {next : List (Except Error String) → Program α}
      {ms : List (Nat × Moment (Except Error String))} {results : List (Except Error String)}
      {w w' w'' : World} {es : List Event} {a : α} (ends : Batch.Ends cloud w tasks ms results w')
      (rest : Run cloud (next ((endings ms).map Prod.fst)) w' es a w'') :
      Run cloud (.batch tasks next) w (.batch ms :: es) a w''

namespace Program

variable {World : Type} {cloud : Cloud World} {α β : Type} {w w' : World} {es : List Event}

@[simp] theorem pure_eq (a : α) : (pure a : Program α) = .done a := rfl

@[simp] theorem bind_eq (p : Program α) (f : α → Program β) : p >>= f = p.bind f := rfl

theorem run_done_iff {a b : α} :
    (done a).Run cloud w es b w' ↔ es = [] ∧ b = a ∧ w' = w := by
  constructor
  · intro h
    cases h
    exact ⟨rfl, rfl, rfl⟩
  · intro h
    obtain ⟨rfl, rfl, rfl⟩ := h
    exact .done

/-- Two programs after each other: the events of the second follow those of the first. -/
theorem run_bind_iff {p : Program α} {f : α → Program β} {b : β} :
    (p.bind f).Run cloud w es b w' ↔ ∃ first a middle rest,
      es = first ++ rest ∧ p.Run cloud w first a middle ∧ (f a).Run cloud middle rest b w' := by
  induction p generalizing w es with
  | done a =>
    constructor
    · intro h
      exact ⟨[], a, w, es, rfl, .done, h⟩
    · intro h
      obtain ⟨first, a', middle, rest, rfl, h, hf⟩ := h
      obtain ⟨rfl, rfl, rfl⟩ := run_done_iff.mp h
      exact hf
  | call c next ih =>
    constructor
    · intro h
      cases h with
      | call change rest =>
        obtain ⟨first, a, middle, rest', rfl, h, hf⟩ := (ih _).mp rest
        exact ⟨_ :: first, a, middle, rest', rfl, .call change h, hf⟩
    · intro h
      obtain ⟨first, a, middle, rest, rfl, h, hf⟩ := h
      cases h with
      | call change h => exact .call change ((ih _).mpr ⟨_, a, middle, rest, rfl, h, hf⟩)
  | clock next ih =>
    constructor
    · intro h
      cases h with
      | clock rest =>
        obtain ⟨first, a, middle, rest', rfl, h, hf⟩ := (ih _).mp rest
        exact ⟨_ :: first, a, middle, rest', rfl, .clock h, hf⟩
    · intro h
      obtain ⟨first, a, middle, rest, rfl, h, hf⟩ := h
      cases h with
      | clock h => exact .clock ((ih _).mpr ⟨_, a, middle, rest, rfl, h, hf⟩)
  | draw next ih =>
    constructor
    · intro h
      cases h with
      | draw rest =>
        obtain ⟨first, a, middle, rest', rfl, h, hf⟩ := (ih _).mp rest
        exact ⟨_ :: first, a, middle, rest', rfl, .draw h, hf⟩
    · intro h
      obtain ⟨first, a, middle, rest, rfl, h, hf⟩ := h
      cases h with
      | draw h => exact .draw ((ih _).mpr ⟨_, a, middle, rest, rfl, h, hf⟩)
  | batch tasks next ih =>
    constructor
    · intro h
      cases h with
      | batch ends rest =>
        obtain ⟨first, a, middle, rest', rfl, h, hf⟩ := (ih _).mp rest
        exact ⟨_ :: first, a, middle, rest', rfl, .batch ends h, hf⟩
    · intro h
      obtain ⟨first, a, middle, rest, rfl, h, hf⟩ := h
      cases h with
      | batch ends h => exact .batch ends ((ih _).mpr ⟨_, a, middle, rest, rfl, h, hf⟩)

theorem run_ask_iff {c : Call} {reply : c.Reply} :
    (ask c).Run cloud w es reply w' ↔ es = [.called c reply] ∧ cloud c w reply w' := by
  constructor
  · intro h
    cases h with
    | call change rest =>
      obtain ⟨rfl, rfl, rfl⟩ := run_done_iff.mp rest
      exact ⟨rfl, change⟩
  · intro h
    obtain ⟨rfl, change⟩ := h
    exact .call change .done

theorem run_random_iff {value : UInt64} :
    random.Run cloud w es value w' ↔ es = [.drew value] ∧ w' = w := by
  constructor
  · intro h
    cases h with
    | draw rest =>
      obtain ⟨rfl, rfl, rfl⟩ := run_done_iff.mp rest
      exact ⟨rfl, rfl⟩
  · intro h
    obtain ⟨rfl, rfl⟩ := h
    exact .draw .done

theorem run_together_iff {tasks : List (Task (Except Error String))}
    {ordered : List (Except Error String)} :
    (together tasks).Run cloud w es ordered w' ↔ ∃ ms results, es = [.batch ms] ∧
      Batch.Ends cloud w tasks ms results w' ∧ ordered = (endings ms).map Prod.fst := by
  constructor
  · intro h
    cases h with
    | batch ends rest =>
      obtain ⟨rfl, rfl, rfl⟩ := run_done_iff.mp rest
      exact ⟨_, _, rfl, ends, rfl⟩
  · intro h
    obtain ⟨ms, results, rfl, ends, rfl⟩ := h
    exact .batch ends .done

/-- In a cloud that always has some reply every program comes to its end. -/
theorem exists_run (h : cloud.Responds) (p : Program α) (w : World) :
    ∃ es a w', p.Run cloud w es a w' := by
  induction p generalizing w with
  | done a => exact ⟨[], a, w, .done⟩
  | call c next ih =>
    obtain ⟨reply, w₁, change⟩ := h c w
    obtain ⟨es, a, w', rest⟩ := ih reply w₁
    exact ⟨_, a, w', .call change rest⟩
  | clock next ih =>
    obtain ⟨es, a, w', rest⟩ := ih 0 w
    exact ⟨_, a, w', .clock rest⟩
  | draw next ih =>
    obtain ⟨es, a, w', rest⟩ := ih 0 w
    exact ⟨_, a, w', .draw rest⟩
  | batch tasks next ih =>
    obtain ⟨results, w₁, inTurn⟩ := Batch.InTurn.exists_results h tasks w
    obtain ⟨ms, ends⟩ := inTurn.ends
    obtain ⟨es, a, w', rest⟩ := ih _ w₁
    exact ⟨_, a, w', .batch ends rest⟩

end Program
end NodeGroups
