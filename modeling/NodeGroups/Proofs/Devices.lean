import NodeGroups.Proofs.Programs
import NodeGroups.Simulation.Device

namespace NodeGroups

variable {World View : Type}

/-- What a device did with a call fits a cloud. A sleep leaves the world as it was, to be gone on from. -/
def Progress.Fits {Thread : Call → Type} {c : Call} (cloud : Cloud View) (goesOn : Nat → Thread c → Prop)
    (v v' : View) : Progress Thread c → Prop
  | finished reply => cloud c v reply v'
  | asleep wake thread => v' = v ∧ goesOn wake thread

/-- A device answers as a cloud may, in what is looked at of its world. Calls sleep in certain ways only. -/
structure Device.Serves (d : Device World) (cloud : Cloud View) (view : World → View)
    (goesOn : (c : Call) → Nat → d.Thread c → Prop) : Prop where
  start : ∀ c now w,
    (d.start c now w).1.Fits cloud (goesOn c) (view w) (view (d.start c now w).2)
  resume : ∀ c thread now w, goesOn c now thread →
    (d.resume c thread now w).1.Fits cloud (goesOn c) (view w) (view (d.resume c thread now w).2)

namespace Device

theorem serves_any (d : Device World) :
    d.Serves Cloud.any (fun _ => ()) (fun _ _ _ => True) := by
  constructor
  · intro c now w
    cases (d.start c now w).1 with
    | finished reply => rfl
    | asleep wake thread => exact ⟨rfl, trivial⟩
  · intro c thread now w _
    cases (d.resume c thread now w).1 with
    | finished reply => rfl
    | asleep wake thread => exact ⟨rfl, trivial⟩

variable {α : Type} {d : Device World} {cloud : Cloud View} {view : World → View}
  {goesOn : (c : Call) → Nat → d.Thread c → Prop}

def standing : α ⊕ d.Sleeper α → Stage α
  | .inl a => .ended a
  | .inr s => .waiting s.call s.next

def ending (i : Nat) : α ⊕ d.Sleeper α → List (α × Nat)
  | .inl a => [(a, i)]
  | .inr _ => []

def Sound (goesOn : (c : Call) → Nat → d.Thread c → Prop) : α ⊕ d.Sleeper α → Prop
  | .inl _ => True
  | .inr s => goesOn s.call s.wake s.thread

/-- What a task does until it ends or sleeps are moments of its own. -/
theorem advance_run (hd : d.Serves cloud view goesOn) (now : Nat) (w : World) (t : Task α)
    {stages : List (Stage α)} {i : Nat} (hi : stages[i]? = some (.ready t)) :
    Sound goesOn (d.advance now w t).1 ∧ ∃ ms, Batch.Run cloud (view w) stages ms
        (view (d.advance now w t).2) (stages.set i (standing (d.advance now w t).1)) ∧
      endings ms = ending i (d.advance now w t).1 := by
  induction t generalizing w stages with
  | done a => exact ⟨trivial, [(i, .ended a)], .cons hi .finish rfl .nil, rfl⟩
  | call c next ih =>
    have hlt := (List.getElem?_eq_some_iff.mp hi).choose
    have hwaiting : (stages.set i (.waiting c next))[i]? = some (.waiting c next) :=
      List.getElem?_set_self hlt
    have hfits := hd.start c now w
    unfold advance
    cases hs : d.start c now w with
    | mk progress w' =>
      rw [hs] at hfits
      cases progress with
      | asleep wake thread =>
        obtain ⟨hview, hgoesOn⟩ := hfits
        refine ⟨hgoesOn, [(i, .asked c)], ?_, rfl⟩
        exact .cons hi .ask hview .nil
      | finished reply =>
        have hready : (stages.set i (.ready (next reply)))[i]? = some (.ready (next reply)) :=
          List.getElem?_set_self hlt
        obtain ⟨hsound, ms, hrun, hendings⟩ := ih reply w' hready
        refine ⟨hsound, (i, .asked c) :: (i, .answered c reply) :: ms, ?_, hendings⟩
        rw [List.set_set] at hrun
        exact .cons hi .ask rfl (.cons hwaiting .answer hfits (by rwa [List.set_set]))

/-- So is what it does after a sleep. -/
theorem wakeUp_run (hd : d.Serves cloud view goesOn) (s : d.Sleeper α) (w : World)
    (hs : goesOn s.call s.wake s.thread) {stages : List (Stage α)} {i : Nat}
    (hi : stages[i]? = some (.waiting s.call s.next)) :
    Sound goesOn (d.wakeUp s w).1 ∧ ∃ ms, Batch.Run cloud (view w) stages ms
        (view (d.wakeUp s w).2) (stages.set i (standing (d.wakeUp s w).1)) ∧
      endings ms = ending i (d.wakeUp s w).1 := by
  have hlt := (List.getElem?_eq_some_iff.mp hi).choose
  have hfits := hd.resume s.call s.thread s.wake w hs
  unfold wakeUp
  cases hr : d.resume s.call s.thread s.wake w with
  | mk progress w' =>
    rw [hr] at hfits
    cases progress with
    | asleep wake thread =>
      obtain ⟨hview, hgoesOn⟩ := hfits
      refine ⟨hgoesOn, [], ?_, rfl⟩
      have hsame : stages.set i (.waiting s.call s.next) = stages := by
        obtain ⟨_, hget⟩ := List.getElem?_eq_some_iff.mp hi
        rw [← hget, List.set_getElem_self]
      simp only [standing]
      rw [hsame, hview]
      exact .nil
    | finished reply =>
      have hready : (stages.set i (.ready (s.next reply)))[i]? = some (.ready (s.next reply)) :=
        List.getElem?_set_self hlt
      obtain ⟨hsound, ms, hrun, hendings⟩ := advance_run hd s.wake w' (s.next reply) hready
      refine ⟨hsound, (i, .answered s.call reply) :: ms, ?_, hendings⟩
      rw [List.set_set] at hrun
      exact .cons hi .answer hfits hrun

/-- The sleepers of a queue, each with the task it is of, are those of the started tasks that have not
ended. -/
structure Waits (goesOn : (c : Call) → Nat → d.Thread c → Prop) (stages : List (Stage α))
    (started : Nat → Prop) (queue : List (d.Sleeper α × Nat)) : Prop where
  nodup : (queue.map Prod.snd).Nodup
  isStarted : ∀ x ∈ queue, started x.2
  waiting : ∀ x ∈ queue, stages[x.2]? = some (.waiting x.1.call x.1.next)
  canGoOn : ∀ x ∈ queue, goesOn x.1.call x.1.wake x.1.thread
  ended : ∀ i, started i → i ∉ queue.map Prod.snd → ∃ a, stages[i]? = some (.ended a)

namespace Waits

variable {stages : List (Stage α)} {started started' : Nat → Prop}
  {queue queue' : List (d.Sleeper α × Nat)}

theorem nil : Waits goesOn stages (fun i => i < 0) [] := by
  constructor <;> simp

theorem congr (h : Waits goesOn stages started queue) (hstarted : ∀ i, started i ↔ started' i) :
    Waits goesOn stages started' queue := by
  have heq : started = started' := funext fun i => propext (hstarted i)
  rwa [← heq]

theorem perm (h : Waits goesOn stages started queue) (hperm : queue'.Perm queue) :
    Waits goesOn stages started queue' := by
  have hindices := hperm.map Prod.snd
  constructor
  · exact hindices.nodup_iff.mpr h.nodup
  · intro x hx
    exact h.isStarted x (hperm.mem_iff.mp hx)
  · intro x hx
    exact h.waiting x (hperm.mem_iff.mp hx)
  · intro x hx
    exact h.canGoOn x (hperm.mem_iff.mp hx)
  · intro i hi hnot
    exact h.ended i hi fun hmem => hnot (hindices.mem_iff.mpr hmem)

theorem tail {x : d.Sleeper α × Nat} (h : Waits goesOn stages started (x :: queue)) :
    Waits goesOn stages (fun i => started i ∧ i ≠ x.2) queue := by
  have hnodup := List.nodup_cons.mp h.nodup
  constructor
  · exact hnodup.2
  · intro y hy
    refine ⟨h.isStarted y (List.mem_cons_of_mem x hy), ?_⟩
    intro same
    exact hnodup.1 (same ▸ List.mem_map_of_mem hy)
  · intro y hy
    exact h.waiting y (List.mem_cons_of_mem x hy)
  · intro y hy
    exact h.canGoOn y (List.mem_cons_of_mem x hy)
  · intro i hi hnot
    obtain ⟨hstarted, hne⟩ := hi
    apply h.ended i hstarted
    intro hmem
    rcases List.mem_cons.mp hmem with same | hmem
    · exact hne same
    · exact hnot hmem

/-- A task that is no longer waited for, or not yet, runs on until it ends. -/
theorem set_ended (h : Waits goesOn stages started queue) {i : Nat} (hlt : i < stages.length)
    (hi : ¬ started i) (a : α) :
    Waits goesOn (stages.set i (.ended a)) (fun j => started j ∨ j = i) queue := by
  constructor
  · exact h.nodup
  · intro x hx
    exact .inl (h.isStarted x hx)
  · intro x hx
    have hne : i ≠ x.2 := fun same => hi (same ▸ h.isStarted x hx)
    rw [List.getElem?_set_ne hne]
    exact h.waiting x hx
  · exact h.canGoOn
  · intro j hj hnot
    by_cases same : i = j
    · subst same
      exact ⟨a, List.getElem?_set_self hlt⟩
    · rw [List.getElem?_set_ne same]
      exact h.ended j (hj.resolve_right (Ne.symm same)) hnot

theorem set_waiting (h : Waits goesOn stages started queue) {i : Nat} (hlt : i < stages.length)
    (hi : ¬ started i) (s : d.Sleeper α) (hs : goesOn s.call s.wake s.thread) :
    Waits goesOn (stages.set i (.waiting s.call s.next)) (fun j => started j ∨ j = i)
      ((s, i) :: queue) := by
  have hnew : i ∉ queue.map Prod.snd := by
    intro hmem
    obtain ⟨x, hx, same⟩ := List.mem_map.mp hmem
    exact hi (same ▸ h.isStarted x hx)
  constructor
  · exact List.nodup_cons.mpr ⟨hnew, h.nodup⟩
  · intro x hx
    rcases List.mem_cons.mp hx with rfl | hx
    · exact .inr rfl
    · exact .inl (h.isStarted x hx)
  · intro x hx
    rcases List.mem_cons.mp hx with rfl | hx
    · exact List.getElem?_set_self hlt
    · have hne : i ≠ x.2 := fun same => hi (same ▸ h.isStarted x hx)
      rw [List.getElem?_set_ne hne]
      exact h.waiting x hx
  · intro x hx
    rcases List.mem_cons.mp hx with rfl | hx
    · exact hs
    · exact h.canGoOn x hx
  · intro j hj hnot
    have hne : j ≠ i := fun same => hnot (List.mem_cons.mpr (.inl same))
    have hnot : j ∉ queue.map Prod.snd := fun hmem => hnot (List.mem_cons_of_mem i hmem)
    rw [List.getElem?_set_ne (Ne.symm hne)]
    exact h.ended j (hj.resolve_right hne) hnot

theorem of_others {i : Nat} {s : Stage α}
    (h : Waits goesOn (stages.set i s) (fun j => (j < stages.length ∧ j ≠ i) ∨ j = i) queue)
    (hlt : i < stages.length) :
    Waits goesOn (stages.set i s) (· < (stages.set i s).length) queue := by
  apply h.congr
  intro j
  rw [List.length_set]
  omega

/-- When nobody sleeps, all have ended. -/
theorem exists_results (h : Waits goesOn stages (· < stages.length) []) :
    ∃ results : List α, stages = results.map .ended := by
  have hall : ∀ s ∈ stages, ∃ a, Stage.ended a = s := by
    intro s hs
    obtain ⟨i, hi⟩ := List.mem_iff_getElem?.mp hs
    obtain ⟨a, ha⟩ := h.ended i (List.getElem?_eq_some_iff.mp hi).choose (by simp)
    exact ⟨a, Option.some.inj (ha.symm.trans hi)⟩
  clear h
  induction stages with
  | nil => exact ⟨[], rfl⟩
  | cons s stages ih =>
    obtain ⟨a, rfl⟩ := hall s (List.mem_cons_self ..)
    obtain ⟨results, rfl⟩ := ih fun s hs => hall s (List.mem_cons_of_mem _ hs)
    exact ⟨a :: results, rfl⟩

end Waits

theorem exists_enqueue (s : d.Sleeper α) (i : Nat) (queue : List (d.Sleeper α × Nat)) :
    ∃ queue' : List (d.Sleeper α × Nat), queue'.map Prod.fst = d.enqueue s (queue.map Prod.fst) ∧
      queue'.Perm ((s, i) :: queue) := by
  induction queue with
  | nil => exact ⟨[(s, i)], rfl, .refl _⟩
  | cons x queue ih =>
    rw [List.map_cons]
    unfold enqueue
    split
    · exact ⟨(s, i) :: x :: queue, rfl, .refl _⟩
    · obtain ⟨queue', hmap, hperm⟩ := ih
      refine ⟨x :: queue', by rw [List.map_cons, hmap], ?_⟩
      exact (hperm.cons x).trans (.swap (s, i) x queue)

/-- A queue of sleepers runs to the ends of their tasks. -/
theorem drain_run (hd : d.Serves cloud view goesOn) (now : Nat) (w : World)
    (sleepers : List (d.Sleeper α)) {stages : List (Stage α)} {queue : List (d.Sleeper α × Nat)}
    (hqueue : queue.map Prod.fst = sleepers) (h : Waits goesOn stages (· < stages.length) queue) :
    ∃ ms, ∃ results : List α, Batch.Run cloud (view w) stages ms
        (view (d.drain now w sleepers).2.2) (results.map .ended) ∧
      (endings ms).map Prod.fst = (d.drain now w sleepers).1 := by
  induction now, w, sleepers using drain.induct d generalizing stages queue with
  | case1 now w =>
    cases List.map_eq_nil_iff.mp hqueue
    obtain ⟨results, rfl⟩ := h.exists_results
    refine ⟨[], results, ?_, ?_⟩
    · unfold drain
      exact .nil
    · unfold drain
      rfl
  | case2 now w s rest a w' hw late last w'' hdrain ih =>
    obtain ⟨⟨_, i⟩, queue, rfl, rfl, rfl⟩ := List.map_eq_cons_iff.mp hqueue
    have hi := h.waiting _ (List.mem_cons_self ..)
    have hlt := (List.getElem?_eq_some_iff.mp hi).choose
    obtain ⟨-, ms, hrun, hendings⟩ := wakeUp_run hd _ w (h.canGoOn _ (List.mem_cons_self ..)) hi
    rw [hw] at hrun hendings
    have hwaits := h.tail.set_ended hlt (fun hstarted => hstarted.2 rfl) a
    obtain ⟨ms', results, hrest, hendings'⟩ := ih rfl (hwaits.of_others hlt)
    rw [drain, hw]
    refine ⟨ms ++ ms', results, hrun.append hrest, ?_⟩
    rw [Batch.endings_append, List.map_append, hendings, hendings']
    rfl
  | case3 now w s rest again w' hw ih =>
    obtain ⟨⟨_, i⟩, queue, rfl, rfl, rfl⟩ := List.map_eq_cons_iff.mp hqueue
    have hi := h.waiting _ (List.mem_cons_self ..)
    have hlt := (List.getElem?_eq_some_iff.mp hi).choose
    obtain ⟨hsound, ms, hrun, hendings⟩ := wakeUp_run hd _ w (h.canGoOn _ (List.mem_cons_self ..)) hi
    rw [hw] at hsound hrun hendings
    have hwaits := h.tail.set_waiting hlt (fun hstarted => hstarted.2 rfl) again hsound
    -- It sleeps again, at another place in the queue, which the invariant does not look at.
    obtain ⟨queue', hmap, hperm⟩ := exists_enqueue again i queue
    obtain ⟨ms', results, hrest, hendings'⟩ := ih hmap ((hwaits.perm hperm).of_others hlt)
    rw [drain, hw]
    refine ⟨ms ++ ms', results, hrun.append hrest, ?_⟩
    rw [Batch.endings_append, List.map_append, hendings, hendings']
    rfl

/-- Tasks that start one after the other, while those before them may sleep. -/
theorem startAll_run (hd : d.Serves cloud view goesOn) (now : Nat) (w : World) (tasks : List (Task α))
    {n : Nat} {stages : List (Stage α)} {sleepers : List (d.Sleeper α)}
    {queue : List (d.Sleeper α × Nat)} (hqueue : queue.map Prod.fst = sleepers)
    (h : Waits goesOn stages (· < n) queue) (hn : n ≤ stages.length)
    (htasks : stages.drop n = tasks.map .ready) :
    ∃ ms stages', ∃ queue' : List (d.Sleeper α × Nat),
      Batch.Run cloud (view w) stages ms (view (d.startAll now w sleepers tasks).2.2) stages' ∧
      Waits goesOn stages' (· < stages'.length) queue' ∧
      queue'.map Prod.fst = (d.startAll now w sleepers tasks).2.1 ∧
      (endings ms).map Prod.fst = (d.startAll now w sleepers tasks).1 := by
  induction tasks generalizing n w stages sleepers queue with
  | nil =>
    cases Nat.le_antisymm hn (List.drop_eq_nil_iff.mp htasks)
    exact ⟨[], stages, queue, .nil, h, hqueue, rfl⟩
  | cons t tasks ih =>
    have hi : stages[n]? = some (.ready t) := by
      rw [← List.head?_drop, htasks]
      rfl
    have hlt := (List.getElem?_eq_some_iff.mp hi).choose
    have hdrop (s : Stage α) : (stages.set n s).drop (n + 1) = tasks.map .ready := by
      rw [List.drop_set_of_lt (Nat.lt_succ_self n), ← List.tail_drop, htasks]
      rfl
    have hle (s : Stage α) : n + 1 ≤ (stages.set n s).length := by rwa [List.length_set]
    have hsucc (i : Nat) : i < n ∨ i = n ↔ i < n + 1 := by omega
    obtain ⟨hsound, ms, hrun, hendings⟩ := advance_run hd now w t hi
    -- The tasks before `n` have started, and `t` is the next: it ends at once or joins the queue.
    unfold startAll
    cases ha : d.advance now w t with
    | mk outcome w' =>
      rw [ha] at hsound hrun hendings
      cases outcome with
      | inl a =>
        have hwaits := (h.set_ended hlt (Nat.lt_irrefl n) a).congr hsucc
        obtain ⟨ms', stages', queue', hrest, hwaits', hqueue', hendings'⟩ :=
          ih w' hqueue hwaits (hle _) (hdrop _)
        refine ⟨ms ++ ms', stages', queue', hrun.append hrest, hwaits', hqueue', ?_⟩
        rw [Batch.endings_append, List.map_append, hendings, hendings']
        rfl
      | inr s =>
        have hwaits := (h.set_waiting hlt (Nat.lt_irrefl n) s hsound).congr hsucc
        obtain ⟨queue₁, hmap, hperm⟩ := exists_enqueue s n queue
        rw [hqueue] at hmap
        obtain ⟨ms', stages', queue', hrest, hwaits', hqueue', hendings'⟩ :=
          ih w' hmap (hwaits.perm hperm) (hle _) (hdrop _)
        refine ⟨ms ++ ms', stages', queue', hrun.append hrest, hwaits', hqueue', ?_⟩
        rw [Batch.endings_append, List.map_append, hendings, hendings']
        rfl

/-- A batch that a device runs is one way of its tasks to interleave. -/
theorem runAll_ends (hd : d.Serves cloud view goesOn) (now : Nat) (w : World) (tasks : List (Task α)) :
    ∃ ms results, Batch.Ends cloud (view w) tasks ms results (view (d.runAll now w tasks).2.2) ∧
      (endings ms).map Prod.fst = (d.runAll now w tasks).1 := by
  obtain ⟨ms, stages, queue, hstart, hwaits, hqueue, hearly⟩ :=
    startAll_run hd now w tasks (n := 0) rfl .nil (Nat.zero_le _) rfl
  obtain ⟨ms', results, hdrain, hlate⟩ := drain_run hd now _ _ hqueue hwaits
  refine ⟨ms ++ ms', results, hstart.append hdrain, ?_⟩
  rw [Batch.endings_append, List.map_append, hearly, hlate]
  rfl

theorem finish_of_finished {c : Call} {wake : Nat} {thread : d.Thread c} {w w' : World}
    {reply : c.Reply} (h : d.resume c thread wake w = (.finished reply, w')) :
    d.finish c wake thread w = (reply, wake, w') := by
  rw [finish, h]

theorem finish_of_asleep {c : Call} {wake wake' : Nat} {thread thread' : d.Thread c} {w w' : World}
    (h : d.resume c thread wake w = (.asleep wake' thread', w')) :
    d.finish c wake thread w = d.finish c wake' thread' w' := by
  rw [finish, h]

theorem finish_fits (hd : d.Serves cloud view goesOn) (c : Call) (wake : Nat) (thread : d.Thread c)
    (w : World) (h : goesOn c wake thread) :
    cloud c (view w) (d.finish c wake thread w).1 (view (d.finish c wake thread w).2.2) := by
  induction wake, thread, w using finish.induct d c with
  | case1 wake thread w reply w' hr =>
    have hfits := hd.resume c thread wake w h
    rw [hr] at hfits
    rw [finish_of_finished hr]
    exact hfits
  | case2 wake thread w wake' thread' w' hr ih =>
    have hfits := hd.resume c thread wake w h
    rw [hr] at hfits
    obtain ⟨hview, hgoesOn⟩ := hfits
    rw [finish_of_asleep hr, ← hview]
    exact ih hgoesOn

theorem carryOut_fits (hd : d.Serves cloud view goesOn) (c : Call) (now : Nat) (w : World) :
    cloud c (view w) (d.carryOut c now w).1 (view (d.carryOut c now w).2.2) := by
  have hfits := hd.start c now w
  unfold carryOut
  cases hs : d.start c now w with
  | mk progress w' =>
    rw [hs] at hfits
    cases progress with
    | finished reply => exact hfits
    | asleep wake thread =>
      obtain ⟨hview, hgoesOn⟩ := hfits
      rw [← hview]
      exact finish_fits hd c wake thread w' hgoesOn

/-- What a device makes of a program is a run of the program in the cloud that it stands for. -/
theorem run_run (hd : d.Serves cloud view goesOn) (random : Nat → UInt64) (s : Session World)
    (p : Program α) :
    ∃ es, p.Run cloud (view s.world) es (d.run random s p).1 (view (d.run random s p).2.world) := by
  induction p generalizing s with
  | done a => exact ⟨[], .done⟩
  | call c next ih =>
    obtain ⟨es, hrest⟩ := ih (d.carryOut c s.now s.world).1
      { s with now := (d.carryOut c s.now s.world).2.1, world := (d.carryOut c s.now s.world).2.2 }
    exact ⟨_, .call (carryOut_fits hd c s.now s.world) hrest⟩
  | clock next ih =>
    obtain ⟨es, hrest⟩ := ih s.now s
    exact ⟨_, .clock hrest⟩
  | draw next ih =>
    obtain ⟨es, hrest⟩ := ih (random s.drawn) { s with drawn := s.drawn + 1 }
    exact ⟨_, .draw hrest⟩
  | batch tasks next ih =>
    obtain ⟨ms, results, hends, hendings⟩ := runAll_ends hd s.now s.world tasks
    obtain ⟨es, hrest⟩ := ih (d.runAll s.now s.world tasks).1
      { s with
        now := (d.runAll s.now s.world tasks).2.1, world := (d.runAll s.now s.world tasks).2.2 }
    exact ⟨_, .batch hends (by rwa [hendings])⟩

end Device
end NodeGroups
