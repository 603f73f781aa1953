import NodeGroups.Remote.Program

namespace NodeGroups

/-- How far a call has come: it has its reply, or it sleeps until some moment. -/
inductive Progress (Thread : Call → Type) (c : Call)
  | finished (reply : c.Reply)
  | asleep (wake : Nat) (thread : Thread c)

/-- Zero for a call that has its reply, one for a call that sleeps. -/
def Progress.sleeps {Thread : Call → Type} {c : Call} : Progress Thread c → Nat
  | finished _ => 0
  | asleep _ _ => 1

/-- A place where calls are carried out in virtual time, over worlds of a type. Every sleep uses up
some of the world's patience, so no call sleeps for ever. -/
structure Device (World : Type) where
  /-- A call that sleeps. -/
  Thread : Call → Type
  start : (c : Call) → Nat → World → Progress Thread c × World
  resume : (c : Call) → Thread c → Nat → World → Progress Thread c × World
  patience : World → Nat
  start_patience : ∀ c now w,
    patience (start c now w).2 + (start c now w).1.sleeps ≤ patience w
  resume_patience : ∀ c t now w,
    patience (resume c t now w).2 + (resume c t now w).1.sleeps ≤ patience w

namespace Device

variable {World : Type} (d : Device World)

/-- Lets a call sleep and go on until it has its reply. Gives the reply, the time and the world. -/
def finish (c : Call) (wake : Nat) (thread : d.Thread c) (w : World) : c.Reply × Nat × World :=
  match _h : d.resume c thread wake w with
  | (.finished reply, w') => (reply, wake, w')
  | (.asleep wake' thread', w') => finish c wake' thread' w'
termination_by d.patience w
decreasing_by
  have := d.resume_patience c thread wake w
  rw [_h] at this
  simp only [Progress.sleeps] at this
  omega

def carryOut (c : Call) (now : Nat) (w : World) : c.Reply × Nat × World :=
  match d.start c now w with
  | (.finished reply, w') => (reply, now, w')
  | (.asleep wake thread, w') => d.finish c wake thread w'

structure Sleeper (α : Type) where
  wake : Nat
  call : Call
  thread : d.Thread call
  next : call.Reply → Task α

/-- Runs a task until it ends or sleeps. -/
def advance {α : Type} (now : Nat) (w : World) : Task α → (α ⊕ d.Sleeper α) × World
  | .done a => (.inl a, w)
  | .call c next =>
    match d.start c now w with
    | (.finished reply, w') => advance now w' (next reply)
    | (.asleep wake thread, w') => (.inr ⟨wake, c, thread, next⟩, w')

/-- Wakes a task at its time and runs it on. -/
def wakeUp {α : Type} (s : d.Sleeper α) (w : World) : (α ⊕ d.Sleeper α) × World :=
  match d.resume s.call s.thread s.wake w with
  | (.finished reply, w') => d.advance s.wake w' (s.next reply)
  | (.asleep wake thread, w') => (.inr ⟨wake, s.call, thread, s.next⟩, w')

/-- Puts a sleeper into a queue, behind those that wake at the same time or earlier. -/
def enqueue {α : Type} (s : d.Sleeper α) : List (d.Sleeper α) → List (d.Sleeper α)
  | [] => [s]
  | t :: ts => if s.wake < t.wake then s :: t :: ts else t :: enqueue s ts

theorem enqueue_length {α : Type} (s : d.Sleeper α) (q : List (d.Sleeper α)) :
    (d.enqueue s q).length = q.length + 1 := by
  induction q with
  | nil => rfl
  | cons t ts ih => unfold enqueue; split <;> simp [ih]

/-- One for a task that sleeps. -/
def isAsleep {α : Type} : α ⊕ d.Sleeper α → Nat
  | .inl _ => 0
  | .inr _ => 1

theorem advance_patience {α : Type} (now : Nat) (w : World) (t : Task α) :
    d.patience (d.advance now w t).2 + d.isAsleep (d.advance now w t).1 ≤ d.patience w := by
  induction t generalizing w with
  | done a => simp [advance, isAsleep]
  | call c next ih =>
    have h := d.start_patience c now w
    unfold advance
    cases hs : d.start c now w with
    | mk p w' =>
      rw [hs] at h
      cases p with
      | finished reply =>
        simp only [Progress.sleeps, Nat.add_zero] at h
        exact Nat.le_trans (ih reply w') h
      | asleep wake thread => simpa only [Progress.sleeps, isAsleep] using h

theorem wakeUp_patience {α : Type} (s : d.Sleeper α) (w : World) :
    d.patience (d.wakeUp s w).2 + d.isAsleep (d.wakeUp s w).1 ≤ d.patience w := by
  have h := d.resume_patience s.call s.thread s.wake w
  unfold wakeUp
  cases hs : d.resume s.call s.thread s.wake w with
  | mk p w' =>
    rw [hs] at h
    cases p with
    | finished reply =>
      simp only [Progress.sleeps, Nat.add_zero] at h
      exact Nat.le_trans (d.advance_patience s.wake w' (s.next reply)) h
    | asleep wake thread => simpa only [Progress.sleeps, isAsleep] using h

/-- Runs the sleepers of a queue to their ends, the earliest first. Gives the results in the order
the tasks ended, the time and the world. -/
def drain {α : Type} (now : Nat) (w : World) (queue : List (d.Sleeper α)) : List α × Nat × World :=
  match queue with
  | [] => ([], now, w)
  | s :: rest =>
    match _h : d.wakeUp s w with
    | (.inl a, w') =>
      let (results, last, w'') := drain s.wake w' rest
      (a :: results, last, w'')
    | (.inr again, w') => drain s.wake w' (d.enqueue again rest)
termination_by d.patience w + queue.length
decreasing_by
  all_goals
    have := d.wakeUp_patience s w
    rw [_h] at this
    simp only [isAsleep] at this
    simp only [enqueue_length, List.length_cons]
    omega

/-- Starts tasks in order. Gives the results of those that end without sleep, and the sleepers. -/
def startAll {α : Type} (now : Nat) (w : World) (queue : List (d.Sleeper α)) :
    List (Task α) → List α × List (d.Sleeper α) × World
  | [] => ([], queue, w)
  | t :: ts =>
    match d.advance now w t with
    | (.inl a, w') =>
      let (results, queue, w'') := startAll now w' queue ts
      (a :: results, queue, w'')
    | (.inr s, w') => startAll now w' (d.enqueue s queue) ts

def runAll {α : Type} (now : Nat) (w : World) (tasks : List (Task α)) : List α × Nat × World :=
  let (early, queue, w') := d.startAll now w [] tasks
  let (late, last, w'') := d.drain now w' queue
  (early ++ late, last, w'')

end Device

/-- A world with its clock, in nanoseconds, and the count of random numbers drawn. -/
structure Session (World : Type) where
  now : Nat
  drawn : Nat
  world : World

namespace Device

variable {World : Type} (d : Device World)

/-- Runs a program. The random numbers are given by their positions. -/
def run {α : Type} (random : Nat → UInt64) (s : Session World) : Program α → α × Session World
  | .done a => (a, s)
  | .call c next =>
    let (reply, now, world) := d.carryOut c s.now s.world
    run random { s with now, world } (next reply)
  | .clock next => run random s (next s.now)
  | .draw next => run random { s with drawn := s.drawn + 1 } (next (random s.drawn))
  | .batch tasks next =>
    let (results, now, world) := d.runAll s.now s.world tasks
    run random { s with now, world } (next results)

end Device
end NodeGroups
