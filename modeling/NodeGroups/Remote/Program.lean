import NodeGroups.Remote.Call

namespace NodeGroups

/-- A course of calls, each chosen by the replies to those before. -/
inductive Task (α : Type)
  | done (result : α)
  | call (c : Call) (next : c.Reply → Task α)

/-- What the engine does: calls to the cloud, looks at the clock, random numbers, and batches of tasks
whose calls may interleave. -/
inductive Program (α : Type)
  | done (result : α)
  | call (c : Call) (next : c.Reply → Program α)
  /-- The nanoseconds passed since some fixed moment. -/
  | clock (next : Nat → Program α)
  | draw (next : UInt64 → Program α)
  /-- Runs all tasks to their ends. Their results come in the order they ended. -/
  | batch (tasks : List (Task (Except Error String)))
      (next : List (Except Error String) → Program α)

namespace Task

def bind {α β : Type} : Task α → (α → Task β) → Task β
  | done a, f => f a
  | call c next, f => call c fun r => (next r).bind f

instance : Monad Task where
  pure := done
  bind := bind

def ask (c : Call) : Task c.Reply := call c done

/-- A task as a program of its own. -/
def toProgram {α : Type} : Task α → Program α
  | done a => .done a
  | call c next => .call c fun r => (next r).toProgram

@[simp] theorem done_bind {α β : Type} (a : α) (f : α → Task β) : (done a).bind f = f a := rfl

@[simp] theorem call_bind {α β : Type} (c : Call) (next : c.Reply → Task α) (f : α → Task β) :
    (call c next).bind f = call c fun r => (next r).bind f := rfl

theorem bind_done {α : Type} (t : Task α) : t.bind done = t := by
  induction t with
  | done a => rfl
  | call c next ih => simp only [call_bind, ih]

theorem bind_assoc {α β γ : Type} (t : Task α) (f : α → Task β) (g : β → Task γ) :
    (t.bind f).bind g = t.bind fun a => (f a).bind g := by
  induction t with
  | done a => rfl
  | call c next ih => simp only [call_bind, ih]

end Task

namespace Program

def bind {α β : Type} : Program α → (α → Program β) → Program β
  | done a, f => f a
  | call c next, f => call c fun r => (next r).bind f
  | clock next, f => clock fun n => (next n).bind f
  | draw next, f => draw fun x => (next x).bind f
  | batch tasks next, f => batch tasks fun rs => (next rs).bind f

instance : Monad Program where
  pure := done
  bind := bind

def ask (c : Call) : Program c.Reply := call c done

def now : Program Nat := clock done

def random : Program UInt64 := draw done

def together (tasks : List (Task (Except Error String))) : Program (List (Except Error String)) :=
  batch tasks done

@[simp] theorem done_bind {α β : Type} (a : α) (f : α → Program β) : (done a).bind f = f a := rfl

theorem bind_done {α : Type} (p : Program α) : p.bind done = p := by
  induction p with
  | done a => rfl
  | call c next ih => simp only [bind, ih]
  | clock next ih => simp only [bind, ih]
  | draw next ih => simp only [bind, ih]
  | batch tasks next ih => simp only [bind, ih]

theorem bind_assoc {α β γ : Type} (p : Program α) (f : α → Program β) (g : β → Program γ) :
    (p.bind f).bind g = p.bind fun a => (f a).bind g := by
  induction p with
  | done a => rfl
  | call c next ih => simp only [bind, ih]
  | clock next ih => simp only [bind, ih]
  | draw next ih => simp only [bind, ih]
  | batch tasks next ih => simp only [bind, ih]

end Program
end NodeGroups
