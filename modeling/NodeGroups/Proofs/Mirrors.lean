import NodeGroups.Proofs.Programs

namespace NodeGroups

/-- Two programs that ask the same, whatever they are told, and whose results are related. -/
inductive Program.Mirrors {α β : Type} (R : α → β → Prop) : Program α → Program β → Prop
  | done {a : α} {b : β} (related : R a b) : Mirrors R (.done a) (.done b)
  | call {c : Call} {next : c.Reply → Program α} {next' : c.Reply → Program β}
      (rest : ∀ reply, Mirrors R (next reply) (next' reply)) :
      Mirrors R (.call c next) (.call c next')
  | clock {next : Nat → Program α} {next' : Nat → Program β}
      (rest : ∀ now, Mirrors R (next now) (next' now)) : Mirrors R (.clock next) (.clock next')
  | draw {next : UInt64 → Program α} {next' : UInt64 → Program β}
      (rest : ∀ value, Mirrors R (next value) (next' value)) : Mirrors R (.draw next) (.draw next')
  | batch {tasks : List (Task (Except Error String))}
      {next : List (Except Error String) → Program α}
      {next' : List (Except Error String) → Program β}
      (rest : ∀ ordered, Mirrors R (next ordered) (next' ordered)) :
      Mirrors R (.batch tasks next) (.batch tasks next')

/-- Two moments at which a task is told the same, if it is told something at both. -/
def Moment.Agrees {α : Type} : Moment α → Moment α → Prop
  | answered _ reply, answered _ reply' => HEq reply reply'
  | _, _ => True

/-- Two batches in which the tasks go on in the same order and are told the same, as far as both go. -/
def Batch.Agree {α : Type} (ms ms' : List (Nat × Moment α)) : Prop :=
  ∀ pair ∈ ms.zip ms', pair.1.1 = pair.2.1 ∧ pair.1.2.Agrees pair.2.2

/-- Two events at which a program is told the same: the same reply, the same time, the same random
number, or the same in a batch. What it asks for is left open. -/
def Event.Agrees : Event → Event → Prop
  | called _ reply, called _ reply' => HEq reply reply'
  | clock now, clock now' => now = now'
  | drew value, drew value' => value = value'
  | batch ms, batch ms' => Batch.Agree ms ms'
  | _, _ => True

/-- Two histories in which the same is told, as far as both go. -/
def Event.Agree (es es' : List Event) : Prop := ∀ pair ∈ es.zip es', pair.1.Agrees pair.2

theorem Event.agree_cons_iff {e e' : Event} {es es' : List Event} :
    Agree (e :: es) (e' :: es') ↔ e.Agrees e' ∧ Agree es es' :=
  List.forall_mem_cons

theorem Batch.agree_cons_iff {α : Type} {m m' : Nat × Moment α} {ms ms' : List (Nat × Moment α)} :
    Agree (m :: ms) (m' :: ms') ↔ (m.1 = m'.1 ∧ m.2.Agrees m'.2) ∧ Agree ms ms' :=
  List.forall_mem_cons

section

variable {α World World' : Type} {cloud : Cloud World} {cloud' : Cloud World'}

/-- What a stage is told decides what happens to it, and what comes of it. -/
theorem Stage.Step.determined {s s₁ s₂ : Stage α} {m m' : Moment α} (h : s.Step m s₁)
    (h' : s.Step m' s₂) (agree : m.Agrees m') : m = m' ∧ s₁ = s₂ := by
  cases h with
  | ask =>
    cases h'
    exact ⟨rfl, rfl⟩
  | answer =>
    cases h'
    obtain rfl := eq_of_heq agree
    exact ⟨rfl, rfl⟩
  | finish =>
    cases h'
    exact ⟨rfl, rfl⟩

theorem Stage.not_step_ended {a : α} {m : Moment α} {s : Stage α} : ¬ (Stage.ended a).Step m s := by
  intro h
  cases h

/-- When all tasks are over nothing more happens. -/
theorem Batch.Run.eq_nil {w w' : World} {results : List α} {stages : List (Stage α)}
    {ms : List (Nat × Moment α)} (h : Run cloud w (results.map .ended) ms w' stages) : ms = [] := by
  cases h with
  | nil => rfl
  | cons hi step change rest =>
    rw [List.getElem?_map] at hi
    obtain ⟨a, -, rfl⟩ := Option.map_eq_some_iff.mp hi
    exact absurd step Stage.not_step_ended

/-- What the tasks of a batch are told, and in which order, decides all of its moments. -/
theorem Batch.Run.determined {w w₁ : World} {w' w₁' : World'} {stages : List (Stage α)}
    {ms ms' : List (Nat × Moment α)} {results results' : List α}
    (h : Run cloud w stages ms w₁ (results.map .ended))
    (h' : Run cloud' w' stages ms' w₁' (results'.map .ended)) (agree : Agree ms ms') : ms = ms' := by
  generalize hlast : results.map Stage.ended = last at h
  induction h generalizing w' ms' with
  | nil =>
    subst hlast
    exact h'.eq_nil.symm
  | @cons _ _ _ stages _ i s s₁ m ms hi step change rest ih =>
    cases h' with
    | nil =>
      have hnil := (Batch.Run.cons hi step change rest).eq_nil
      cases hnil
    | cons hi' step' change' rest' =>
      obtain ⟨⟨hindex, hmoment⟩, hlater⟩ := agree_cons_iff.mp agree
      simp only at hindex hmoment
      subst hindex
      cases hi.symm.trans hi'
      obtain ⟨rfl, rfl⟩ := step.determined step' hmoment
      rw [ih rest' hlater hlast]

end

namespace Program

variable {α β γ δ : Type} {R : α → β → Prop} {S : γ → δ → Prop} {p : Program α} {q : Program β}

namespace Mirrors

theorem self (p : Program α) : p.Mirrors Eq p := by
  induction p with
  | done a => exact .done rfl
  | call c next ih => exact .call ih
  | clock next ih => exact .clock ih
  | draw next ih => exact .draw ih
  | batch tasks next ih => exact .batch ih

/-- Programs that go on alike after related results ask the same in the whole. -/
theorem bind {f : α → Program γ} {f' : β → Program δ} (h : p.Mirrors R q)
    (rest : ∀ a b, R a b → (f a).Mirrors S (f' b)) : (p.bind f).Mirrors S (q.bind f') := by
  induction h with
  | done related => exact rest _ _ related
  | call _ ih => exact .call ih
  | clock _ ih => exact .clock ih
  | draw _ ih => exact .draw ih
  | batch _ ih => exact .batch ih

/-- A program before two others, which go on alike after each of its results. -/
theorem after (p : Program α) {f : α → Program γ} {f' : α → Program δ}
    (rest : ∀ a, (f a).Mirrors S (f' a)) : (p.bind f).Mirrors S (p.bind f') := by
  refine (Mirrors.self p).bind ?_
  intro a b same
  subst same
  exact rest a

variable {World World' : Type} {cloud : Cloud World} {cloud' : Cloud World'}

/-- What happens in a run of one of the two may happen to the other one as well. -/
theorem run (h : p.Mirrors R q) {w w₁ : World} {es : List Event} {a : α}
    (hrun : p.Run cloud w es a w₁) : ∃ b, q.Run cloud w es b w₁ ∧ R a b := by
  induction h generalizing w es with
  | done related =>
    obtain ⟨rfl, rfl, rfl⟩ := run_done_iff.mp hrun
    exact ⟨_, .done, related⟩
  | call _ ih =>
    cases hrun with
    | call change rest =>
      obtain ⟨b, hb, related⟩ := ih _ rest
      exact ⟨b, .call change hb, related⟩
  | clock _ ih =>
    cases hrun with
    | clock rest =>
      obtain ⟨b, hb, related⟩ := ih _ rest
      exact ⟨b, .clock hb, related⟩
  | draw _ ih =>
    cases hrun with
    | draw rest =>
      obtain ⟨b, hb, related⟩ := ih _ rest
      exact ⟨b, .draw hb, related⟩
  | batch _ ih =>
    cases hrun with
    | batch ends rest =>
      obtain ⟨b, hb, related⟩ := ih _ rest
      exact ⟨b, .batch ends hb, related⟩

/-- When both are told the same, the same happens to both. -/
theorem determined (h : p.Mirrors R q) {w w₁ : World} {w' w₁' : World'} {es es' : List Event}
    {a : α} {b : β} (hp : p.Run cloud w es a w₁) (hq : q.Run cloud' w' es' b w₁')
    (agree : Event.Agree es es') : es = es' ∧ R a b := by
  induction h generalizing w w' es es' with
  | done related =>
    obtain ⟨rfl, rfl, -⟩ := run_done_iff.mp hp
    obtain ⟨rfl, rfl, -⟩ := run_done_iff.mp hq
    exact ⟨rfl, related⟩
  | call _ ih =>
    cases hp with
    | call _ hp =>
      cases hq with
      | call _ hq =>
        obtain ⟨hreply, hlater⟩ := Event.agree_cons_iff.mp agree
        obtain rfl := eq_of_heq hreply
        obtain ⟨rfl, related⟩ := ih _ hp hq hlater
        exact ⟨rfl, related⟩
  | clock _ ih =>
    cases hp with
    | clock hp =>
      cases hq with
      | clock hq =>
        obtain ⟨hnow, hlater⟩ := Event.agree_cons_iff.mp agree
        obtain rfl := hnow
        obtain ⟨rfl, related⟩ := ih _ hp hq hlater
        exact ⟨rfl, related⟩
  | draw _ ih =>
    cases hp with
    | draw hp =>
      cases hq with
      | draw hq =>
        obtain ⟨hvalue, hlater⟩ := Event.agree_cons_iff.mp agree
        obtain rfl := hvalue
        obtain ⟨rfl, related⟩ := ih _ hp hq hlater
        exact ⟨rfl, related⟩
  | batch _ ih =>
    cases hp with
    | batch ends hp =>
      cases hq with
      | batch ends' hq =>
        obtain ⟨hmoments, hlater⟩ := Event.agree_cons_iff.mp agree
        obtain rfl := Batch.Run.determined ends ends' hmoments
        obtain ⟨rfl, related⟩ := ih _ hp hq hlater
        exact ⟨rfl, related⟩

end Mirrors
end Program
end NodeGroups
