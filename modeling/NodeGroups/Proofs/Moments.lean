import Mathlib.Data.List.Induction
import Mathlib.Data.List.Perm.Subperm
import NodeGroups.Remote.Program

namespace NodeGroups

/-- How a cloud may answer: the call, the world before, the reply, and the world after. -/
abbrev Cloud (World : Type) := (c : Call) → World → c.Reply → World → Prop

/-- A cloud that may give any reply, and whose world is not looked at. -/
def Cloud.any : Cloud Unit := fun _ w _ w' => w' = w

/-- A cloud that always has some reply. It is all that a run needs to come to its end. -/
def Cloud.Responds {World : Type} (cloud : Cloud World) : Prop :=
  ∀ c w, ∃ reply w', cloud c w reply w'

/-- What happens to a task: it asks, it gets the reply, or it ends. -/
inductive Moment (α : Type)
  | asked (c : Call)
  | answered (c : Call) (reply : c.Reply)
  | ended (result : α)

inductive Stage (α : Type)
  | ready (t : Task α)
  | waiting (c : Call) (next : c.Reply → Task α)
  | ended (result : α)

section

variable {α World : Type}

inductive Stage.Step : Stage α → Moment α → Stage α → Prop
  | ask {c : Call} {next : c.Reply → Task α} :
      Step (.ready (.call c next)) (.asked c) (.waiting c next)
  | answer {c : Call} {next : c.Reply → Task α} {reply : c.Reply} :
      Step (.waiting c next) (.answered c reply) (.ready (next reply))
  | finish {a : α} : Step (.ready (.done a)) (.ended a) (.ended a)

/-- What a moment does to the world. Only replies come with a change, one that the cloud allows. -/
def Moment.Changes (cloud : Cloud World) (w : World) : Moment α → World → Prop
  | answered c reply, w' => cloud c w reply w'
  | asked _, w' | ended _, w' => w' = w

/-- Moments of one task, after each other. -/
inductive Stage.Path : Stage α → List (Moment α) → Stage α → Prop
  | nil {s : Stage α} : Path s [] s
  | cons {s s' s'' : Stage α} {m : Moment α} {ms : List (Moment α)} (step : s.Step m s')
      (rest : Path s' ms s'') : Path s (m :: ms) s''

/-- The whole life of a task: its moments, and its result. -/
inductive Task.Lives : Task α → List (Moment α) → α → Prop
  | done {a : α} : Lives (.done a) [.ended a] a
  | call {c : Call} {next : c.Reply → Task α} {reply : c.Reply} {ms : List (Moment α)} {a : α}
      (rest : Lives (next reply) ms a) :
      Lives (.call c next) (.asked c :: .answered c reply :: ms) a

inductive Task.Run (cloud : Cloud World) : Task α → World → List (Moment α) → α → World → Prop
  | done {a : α} {w : World} : Run cloud (.done a) w [.ended a] a w
  | call {c : Call} {next : c.Reply → Task α} {reply : c.Reply} {w w' w'' : World}
      {ms : List (Moment α)} {a : α} (change : cloud c w reply w')
      (rest : Run cloud (next reply) w' ms a w'') :
      Run cloud (.call c next) w (.asked c :: .answered c reply :: ms) a w''

/-- Tasks at once: each moment belongs to one of them, and they come in any order. -/
inductive Batch.Run (cloud : Cloud World) :
    World → List (Stage α) → List (Nat × Moment α) → World → List (Stage α) → Prop
  | nil {w : World} {stages : List (Stage α)} : Run cloud w stages [] w stages
  | cons {w w' w'' : World} {stages stages' : List (Stage α)} {i : Nat} {s s' : Stage α}
      {m : Moment α} {ms : List (Nat × Moment α)} (hi : stages[i]? = some s) (step : s.Step m s')
      (change : m.Changes cloud w w') (rest : Run cloud w' (stages.set i s') ms w'' stages') :
      Run cloud w stages ((i, m) :: ms) w'' stages'

/-- Tasks at once, from their beginnings to their ends. -/
def Batch.Ends (cloud : Cloud World) (w : World) (tasks : List (Task α))
    (ms : List (Nat × Moment α)) (results : List α) (w' : World) : Prop :=
  Batch.Run cloud w (tasks.map .ready) ms w' (results.map .ended)

/-- Tasks after each other, each from its beginning to its end. -/
inductive Batch.InTurn (cloud : Cloud World) : World → List (Task α) → List α → World → Prop
  | nil {w : World} : InTurn cloud w [] [] w
  | cons {w w' w'' : World} {t : Task α} {tasks : List (Task α)} {ms : List (Moment α)} {a : α}
      {results : List α} (run : t.Run cloud w ms a w') (rest : InTurn cloud w' tasks results w'') :
      InTurn cloud w (t :: tasks) (a :: results) w''

/-- What a task still has to do at a stage. -/
def Stage.task : Stage α → Task α
  | ready t => t
  | waiting c next => .call c next
  | ended a => .done a

def own (i : Nat) (ms : List (Nat × Moment α)) : List (Moment α) :=
  ms.filterMap fun m => if m.1 = i then some m.2 else none

/-- What is picked from the moments, each with the task it belongs to. -/
def picked {β : Type} (pick : Moment α → Option β) (ms : List (Nat × Moment α)) : List (β × Nat) :=
  ms.filterMap fun m => (pick m.2).map (·, m.1)

def Moment.ended? : Moment α → Option α
  | ended a => some a
  | _ => none

/-- The results in the order the tasks ended. -/
def endings (ms : List (Nat × Moment α)) : List (α × Nat) := picked Moment.ended? ms

end

namespace Stage.Path

variable {α : Type}

theorem of_ended {a : α} {ms : List (Moment α)} {s : Stage α} (h : (Stage.ended a).Path ms s) :
    ms = [] ∧ s = .ended a := by
  cases h with
  | nil => exact ⟨rfl, rfl⟩
  | cons step => cases step

/-- From the beginning of a task to its end is its life. -/
theorem lives {t : Task α} {ms : List (Moment α)} {a : α}
    (h : (Stage.ready t).Path ms (.ended a)) : t.Lives ms a := by
  induction t generalizing ms with
  | done b =>
    cases h with
    | cons step rest =>
      cases step
      obtain ⟨rfl, hb⟩ := rest.of_ended
      cases hb
      exact .done
  | call c next ih =>
    cases h with
    | cons step rest =>
      cases step
      cases rest with
      | cons step rest =>
        cases step
        exact .call (ih _ rest)

end Stage.Path

namespace Task.Lives

variable {α β : Type}

theorem ended?_eq {t : Task α} {ms : List (Moment α)} {a : α} (h : t.Lives ms a) :
    ms.filterMap Moment.ended? = [a] := by
  induction h with
  | done => rfl
  | call rest ih => exact ih

theorem done_iff {a b : α} {ms : List (Moment α)} :
    (Task.done a).Lives ms b ↔ ms = [.ended a] ∧ b = a := by
  constructor
  · intro h
    cases h
    exact ⟨rfl, rfl⟩
  · intro h
    obtain ⟨rfl, rfl⟩ := h
    exact .done

theorem call_iff {c : Call} {next : c.Reply → Task α} {ms : List (Moment α)} {a : α} :
    (Task.call c next).Lives ms a ↔
      ∃ reply rest, ms = .asked c :: .answered c reply :: rest ∧ (next reply).Lives rest a := by
  constructor
  · intro h
    cases h with
    | call rest => exact ⟨_, _, rfl, rest⟩
  · intro h
    obtain ⟨reply, rest, rfl, h⟩ := h
    exact .call h

theorem ask_iff {c : Call} {next : c.Reply → Task α} {ms : List (Moment α)} {a : α} :
    (Task.ask c >>= next).Lives ms a ↔
      ∃ reply rest, ms = .asked c :: .answered c reply :: rest ∧ (next reply).Lives rest a :=
  call_iff

end Task.Lives

theorem Task.exists_run {α World : Type} {cloud : Cloud World} (h : cloud.Responds) (t : Task α)
    (w : World) : ∃ ms a w', t.Run cloud w ms a w' := by
  induction t generalizing w with
  | done a => exact ⟨_, a, w, .done⟩
  | call c next ih =>
    obtain ⟨reply, w₁, change⟩ := h c w
    obtain ⟨ms, a, w', rest⟩ := ih reply w₁
    exact ⟨_, a, w', .call change rest⟩

namespace Batch

variable {α World : Type} {cloud : Cloud World} {w w' : World} {stages stages' : List (Stage α)}
  {ms : List (Nat × Moment α)}

theorem own_cons (i : Nat) (m : Nat × Moment α) (ms : List (Nat × Moment α)) :
    own i (m :: ms) = if m.1 = i then m.2 :: own i ms else own i ms := by
  unfold own
  by_cases h : m.1 = i <;> simp [h]

namespace Run

/-- Among other tasks, one task may do all it does before the others go on. -/
theorem of_task {t : Task α} {own : List (Moment α)} {a : α} (h : t.Run cloud w own a w') {i : Nat}
    (hi : stages[i]? = some (.ready t)) :
    Run cloud w stages (own.map (i, ·)) w' (stages.set i (.ended a)) := by
  induction h generalizing stages with
  | done => exact .cons hi .finish rfl .nil
  | @call c next reply w₁ w₂ w₃ ms a change rest ih =>
    have hlt := (List.getElem?_eq_some_iff.mp hi).choose
    have hwaiting : (stages.set i (.waiting c next))[i]? = some (.waiting c next) :=
      List.getElem?_set_self hlt
    have hready : ((stages.set i (.waiting c next)).set i (.ready (next reply)))[i]? =
        some (.ready (next reply)) :=
      List.getElem?_set_self (by rwa [List.length_set])
    have hrest := ih hready
    rw [List.set_set, List.set_set] at hrest
    exact .cons hi .ask rfl (.cons hwaiting .answer change (by rwa [List.set_set]))

theorem append {w'' : World} {stages'' : List (Stage α)} {ms' : List (Nat × Moment α)}
    (h : Run cloud w stages ms w' stages') (h' : Run cloud w' stages' ms' w'' stages'') :
    Run cloud w stages (ms ++ ms') w'' stages'' := by
  induction h with
  | nil => exact h'
  | cons hi step change rest ih => exact .cons hi step change (ih h')

theorem length_eq (h : Run cloud w stages ms w' stages') : stages'.length = stages.length := by
  induction h with
  | nil => rfl
  | cons hi step change rest ih => rw [ih, List.length_set]

theorem index_lt (h : Run cloud w stages ms w' stages') : ∀ m ∈ ms, m.1 < stages.length := by
  induction h with
  | nil => simp
  | cons hi step change rest ih =>
    intro m hm
    rcases List.mem_cons.mp hm with rfl | hm
    · exact (List.getElem?_eq_some_iff.mp hi).choose
    · have hlt := ih m hm
      rwa [List.length_set] at hlt

/-- What every reply keeps, the whole of a batch keeps. -/
theorem preserves {Holds : World → List (Task α) → Prop}
    (hreply : ∀ w tasks i c next reply w', Holds w tasks → tasks[i]? = some (.call c next) →
      cloud c w reply w' → Holds w' (tasks.set i (next reply)))
    (h : Run cloud w stages ms w' stages') (hw : Holds w (stages.map Stage.task)) :
    Holds w' (stages'.map Stage.task) := by
  induction h with
  | nil => exact hw
  | @cons w₁ w₂ w₃ stages stages' i s s' m ms hi step change rest ih =>
    apply ih
    have htask : (stages.map Stage.task)[i]? = some s.task := by
      rw [List.getElem?_map, hi]
      rfl
    have hlt := (List.getElem?_eq_some_iff.mp htask).choose
    have hsame : (stages.map Stage.task).set i s.task = stages.map Stage.task := by
      rw [← (List.getElem?_eq_some_iff.mp htask).choose_spec]
      exact List.set_getElem_self hlt
    rw [List.map_set]
    cases step with
    | answer => exact hreply _ _ i _ _ _ _ hw htask change
    | ask | finish =>
      cases change
      exact hsame.symm ▸ hw

/-- Whatever the order, the moments of one task are moments of that task alone. -/
theorem path (h : Run cloud w stages ms w' stages') {i : Nat} {s : Stage α}
    (hi : stages[i]? = some s) : ∃ s', stages'[i]? = some s' ∧ s.Path (own i ms) s' := by
  induction h generalizing s with
  | nil => exact ⟨s, hi, .nil⟩
  | @cons w w₁ w₂ stages stages' j s₁ s₂ m ms hj step change rest ih =>
    rw [own_cons]
    by_cases same : j = i
    · subst same
      have hlt := (List.getElem?_eq_some_iff.mp hi).choose
      obtain ⟨s', hs', hpath⟩ := ih (by rw [List.getElem?_set_self hlt])
      cases hi.symm.trans hj
      rw [if_pos rfl]
      exact ⟨s', hs', .cons step hpath⟩
    · obtain ⟨s', hs', hpath⟩ := ih (by rw [List.getElem?_set_ne same, hi])
      rw [if_neg same]
      exact ⟨s', hs', hpath⟩

end Run

namespace Ends

variable {tasks : List (Task α)} {results : List α}

theorem length_eq (h : Ends cloud w tasks ms results w') : results.length = tasks.length := by
  simpa using Run.length_eq h

theorem index_lt (h : Ends cloud w tasks ms results w') : ∀ m ∈ ms, m.1 < tasks.length := by
  simpa using Run.index_lt h

theorem lives (h : Ends cloud w tasks ms results w') {i : Nat} {t : Task α} {a : α}
    (ht : tasks[i]? = some t) (ha : results[i]? = some a) : t.Lives (own i ms) a := by
  obtain ⟨s, hs, hpath⟩ := Run.path h (i := i) (s := .ready t) (by simp [ht])
  rw [List.getElem?_map, ha] at hs
  cases hs
  exact hpath.lives

/-- Every task comes to some result. -/
theorem exists_lives (h : Ends cloud w tasks ms results w') {i : Nat} {t : Task α}
    (ht : tasks[i]? = some t) : ∃ a, results[i]? = some a ∧ t.Lives (own i ms) a := by
  have hlt := (List.getElem?_eq_some_iff.mp ht).choose
  rw [← h.length_eq] at hlt
  have ha := List.getElem?_eq_getElem hlt
  exact ⟨_, ha, h.lives ht ha⟩

end Ends

namespace InTurn

variable {tasks : List (Task α)} {results : List α}

/-- The tasks before those that go on now have ended. -/
theorem run (h : InTurn cloud w tasks results w') (ended : List (Stage α)) :
    ∃ ms, Run cloud w (ended ++ tasks.map .ready) ms w' (ended ++ results.map .ended) := by
  induction h generalizing ended with
  | nil => exact ⟨[], .nil⟩
  | @cons w₁ w₂ w₃ t tasks own a results run rest ih =>
    let stages := ended ++ (t :: tasks).map Stage.ready
    have hi : stages[ended.length]? = some (.ready t) := by simp [stages]
    have hset : stages.set ended.length (.ended a) = (ended ++ [.ended a]) ++ tasks.map .ready := by
      simp [stages]
    have hfirst := Run.of_task run hi
    rw [hset] at hfirst
    obtain ⟨ms, hrest⟩ := ih (ended ++ [.ended a])
    refine ⟨own.map (ended.length, ·) ++ ms, ?_⟩
    have hboth := hfirst.append hrest
    simpa [stages] using hboth

/-- Tasks may always come after each other. -/
theorem ends (h : InTurn cloud w tasks results w') : ∃ ms, Ends cloud w tasks ms results w' :=
  h.run []

theorem exists_results (h : cloud.Responds) (tasks : List (Task α)) (w : World) :
    ∃ results w', InTurn cloud w tasks results w' := by
  induction tasks generalizing w with
  | nil => exact ⟨[], w, .nil⟩
  | cons t tasks ih =>
    obtain ⟨ms, a, w₁, run⟩ := t.exists_run h w
    obtain ⟨results, w', rest⟩ := ih w₁
    exact ⟨a :: results, w', .cons run rest⟩

end InTurn

/-- A list in which every index of another list occurs once, with its item, holds the items of that list
in some order. -/
theorem perm_zipIdx {β : Type} {l : List β} {marked : List (β × Nat)}
    (hlt : ∀ x ∈ marked, x.2 < l.length)
    (h : ∀ i b, l[i]? = some b → marked.filter (·.2 = i) = [(b, i)]) : marked.Perm l.zipIdx := by
  induction l using List.reverseRecOn generalizing marked with
  | nil =>
    have hnil : marked = [] := List.eq_nil_iff_forall_not_mem.mpr fun x hx => by
      simpa using hlt x hx
    rw [hnil]
    exact .nil
  | append_singleton l b ih =>
    have hb := h l.length b (by simp)
    have hrest : (marked.filter fun x => !decide (x.2 = l.length)).Perm l.zipIdx := by
      apply ih
      · intro x hx
        obtain ⟨hx, hne⟩ := List.mem_filter.mp hx
        have hlt := hlt x hx
        simp at hlt hne
        omega
      · intro i b' hi
        have hlt := (List.getElem?_eq_some_iff.mp hi).choose
        rw [← h i b' (by rw [List.getElem?_append_left hlt, hi]), List.filter_filter]
        apply List.filter_congr
        intro x _
        by_cases same : x.2 = i
        · simp [same]
          omega
        · simp [same]
    have hsplit := (List.filter_append_perm (fun x : β × Nat => decide (x.2 = l.length)) marked).symm
    rw [hb] at hsplit
    rw [List.zipIdx_append]
    refine hsplit.trans ((hrest.cons _).trans ?_)
    simpa using (List.perm_append_singleton (b, l.length) l.zipIdx).symm

theorem picked_cons_none {β : Type} {pick : Moment α → Option β} {i : Nat} {m : Moment α}
    (h : pick m = none) (ms : List (Nat × Moment α)) : picked pick ((i, m) :: ms) = picked pick ms :=
  List.filterMap_cons_none (by rw [h]; rfl)

theorem picked_cons_some {β : Type} {pick : Moment α → Option β} {i : Nat} {m : Moment α} {b : β}
    (h : pick m = some b) (ms : List (Nat × Moment α)) :
    picked pick ((i, m) :: ms) = (b, i) :: picked pick ms :=
  List.filterMap_cons_some (by rw [h]; rfl)

theorem filter_picked {β : Type} (pick : Moment α → Option β) (i : Nat)
    (ms : List (Nat × Moment α)) :
    (picked pick ms).filter (·.2 = i) = ((own i ms).filterMap pick).map (·, i) := by
  induction ms with
  | nil => rfl
  | cons m ms ih =>
    rw [own_cons]
    unfold picked at ih ⊢
    by_cases same : m.1 = i <;> cases hp : pick m.2 <;> simp [same, hp, ih]

theorem mem_picked_iff {β : Type} {pick : Moment α → Option β} {b : β} {i : Nat} :
    (b, i) ∈ picked pick ms ↔ b ∈ (own i ms).filterMap pick := by
  have hfilter : (b, i) ∈ (picked pick ms).filter (·.2 = i) ↔ (b, i) ∈ picked pick ms := by simp
  rw [← hfilter, filter_picked]
  simp

/-- What each task gives once is picked once for each task. -/
theorem picked_perm {β : Type} {pick : Moment α → Option β} {l : List β}
    (hlt : ∀ m ∈ ms, m.1 < l.length)
    (h : ∀ i b, l[i]? = some b → (own i ms).filterMap pick = [b]) :
    (picked pick ms).Perm l.zipIdx := by
  apply perm_zipIdx
  · intro x hx
    obtain ⟨m, hm, hx⟩ := List.mem_filterMap.mp hx
    obtain ⟨b, -, rfl⟩ := Option.map_eq_some_iff.mp hx
    exact hlt m hm
  · intro i b hi
    rw [filter_picked, h i b hi]
    rfl

/-- What each task gives at most once is picked at most once for each task. -/
theorem picked_length_le {β : Type} {pick : Moment α → Option β} {n : Nat}
    (hlt : ∀ m ∈ ms, m.1 < n) (h : ∀ i < n, ((own i ms).filterMap pick).length ≤ 1) :
    (picked pick ms).length ≤ n := by
  have hindex : ∀ i ∈ (picked pick ms).map Prod.snd, i < n := by
    intro i hi
    obtain ⟨x, hx, rfl⟩ := List.mem_map.mp hi
    obtain ⟨m, hm, hpick⟩ := List.mem_filterMap.mp hx
    obtain ⟨_, -, rfl⟩ := Option.map_eq_some_iff.mp hpick
    exact hlt m hm
  have hnodup : ((picked pick ms).map Prod.snd).Nodup := by
    rw [List.nodup_iff_count]
    intro i
    by_cases hi : i < n
    · have hone := h i hi
      rw [← List.length_map (·, i), ← filter_picked] at hone
      rw [List.count_eq_length_filter, List.filter_map, List.length_map]
      simpa only [Function.comp_def, beq_eq_decide] using hone
    · have hnone : i ∉ (picked pick ms).map Prod.snd := fun hmem => hi (hindex i hmem)
      rw [List.count_eq_zero_of_not_mem hnone]
      exact Nat.zero_le 1
  have hsubset : (picked pick ms).map Prod.snd ⊆ List.range n := fun i hi =>
    List.mem_range.mpr (hindex i hi)
  have hle := (hnodup.subperm hsubset).length_le
  simpa using hle

theorem endings_append (ms ms' : List (Nat × Moment α)) :
    endings (ms ++ ms') = endings ms ++ endings ms' :=
  List.filterMap_append

/-- Every task ends once, whatever the order. -/
theorem Ends.endings_perm {tasks : List (Task α)} {results : List α}
    (h : Ends cloud w tasks ms results w') : (endings ms).Perm results.zipIdx := by
  apply picked_perm
  · rw [h.length_eq]
    exact h.index_lt
  · intro i a ha
    have hlt := (List.getElem?_eq_some_iff.mp ha).choose
    rw [h.length_eq] at hlt
    exact (h.lives (List.getElem?_eq_getElem hlt) ha).ended?_eq

end Batch
end NodeGroups
