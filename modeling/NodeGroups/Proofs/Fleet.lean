import Mathlib.Data.List.Perm.Subperm
import NodeGroups.Proofs.Moments
import NodeGroups.Simulation.Backend

namespace NodeGroups

/-- The machines of a cloud. No two have the same id. -/
structure Fleet where
  machines : List VirtualMachine
  distinct : (machines.map VirtualMachine.id).Nodup

namespace Fleet

/-- A list in memory holds fewer items than this. -/
def listLimit : Nat := UInt64.size / 2

def select (f : Fleet) (r : MachinesRequest) : List VirtualMachine := f.machines.filter r.accepts

/-- A fleet after a deployment: there is one more machine, and it has no tags yet. -/
def Adds (r : DeployRequest) (vmId : String) (f f' : Fleet) : Prop :=
  ∃ made : VirtualMachine, made.id = vmId ∧ made.projectId = r.projectId ∧ made.tags = [] ∧
    f'.machines = f.machines ++ [made]

theorem tagged_ids (r : TagRequest) (machines : List VirtualMachine) :
    (Backend.tagged r machines).map VirtualMachine.id = machines.map VirtualMachine.id := by
  rw [Backend.tagged, List.map_map]
  refine List.map_congr_left fun vm _ => ?_
  change (if r.resourceIds.contains vm.id then Backend.addTags r.tags vm else vm).id = vm.id
  split <;> rfl

def tagged (f : Fleet) (r : TagRequest) : Fleet :=
  ⟨Backend.tagged r f.machines, by rw [tagged_ids]; exact f.distinct⟩

def without (f : Fleet) (vmId : String) : Fleet :=
  ⟨f.machines.filter (·.id ≠ vmId), f.distinct.sublist (List.filter_sublist.map _)⟩

/-- How a cloud with a fleet answers. A call that succeeds has its effect, and one that fails may have
had it too. Listings are complete, in any order; everything else may be replied as the cloud likes. -/
def Answers : Cloud Fleet
  | .listMachines r, f, reply, f' =>
    f' = f ∧ ∀ machines, reply = .ok machines →
      machines.Perm (f.select r) ∧ machines.length < listLimit
  | .deploy r, f, .ok vm, f' => Adds r vm.id f f'
  | .deploy r, f, .error _, f' => f' = f ∨ ∃ vmId, Adds r vmId f f'
  | .tag r, f, reply, f' => f' = f.tagged r ∨ (f' = f ∧ ∃ e, reply = .error e)
  | .destroy r, f, reply, f' => f' = f.without r.id ∨ (f' = f ∧ ∃ e, reply = .error e)
  | .listProjects, f, _, f' | .listProfiles _, f, _, f' | .listDetails _, f, _, f'
  | .getOffering _, f, _, f' | .getZone _, f, _, f' => f' = f

def count (f : Fleet) (r : MachinesRequest) : Nat := (f.select r).length

theorem not_accepts_of_no_tags {r : MachinesRequest} (hr : r.tags.toList ≠ []) {vm : VirtualMachine}
    (hvm : vm.tags = []) : r.accepts vm = false := by
  obtain ⟨t, ts, ht⟩ := List.exists_cons_of_ne_nil hr
  simp [MachinesRequest.accepts, VirtualMachine.hasTag, ht, hvm]

/-- A new machine is not counted as long as it has no tags. -/
theorem Adds.count_eq {d : DeployRequest} {vmId : String} {f f' : Fleet} (h : Adds d vmId f f')
    {r : MachinesRequest} (hr : r.tags.toList ≠ []) : f'.count r = f.count r := by
  obtain ⟨made, -, -, htags, hmachines⟩ := h
  simp only [count, select, hmachines, List.filter_append]
  simp [not_accepts_of_no_tags hr htags]

theorem without_count_le (f : Fleet) (vmId : String) (r : MachinesRequest) :
    (f.without vmId).count r ≤ f.count r :=
  (List.filter_sublist.filter _).length_le

theorem length_filter_ids_le (f : Fleet) (ids : List String) :
    (f.machines.filter (ids.contains ·.id)).length ≤ ids.length := by
  have hnodup : ((f.machines.filter (ids.contains ·.id)).map VirtualMachine.id).Nodup :=
    f.distinct.sublist (List.filter_sublist.map _)
  have hsubset : (f.machines.filter (ids.contains ·.id)).map VirtualMachine.id ⊆ ids := by
    intro vmId hmem
    obtain ⟨vm, hvm, rfl⟩ := List.mem_map.mp hmem
    simpa using (List.mem_filter.mp hvm).2
  have hle := (hnodup.subperm hsubset).length_le
  rwa [List.length_map] at hle

theorem tagged_count_le (f : Fleet) (t : TagRequest) (r : MachinesRequest) :
    (f.tagged t).count r ≤ f.count r + t.resourceIds.length := by
  have hchanged (machines : List VirtualMachine) :
      (Backend.tagged t machines).countP r.accepts ≤ machines.countP r.accepts +
        machines.countP (t.resourceIds.contains ·.id) := by
    induction machines with
    | nil => simp [Backend.tagged]
    | cons vm vms ih =>
      unfold Backend.tagged at ih ⊢
      rw [List.map_cons, List.countP_cons, List.countP_cons, List.countP_cons]
      by_cases hid : t.resourceIds.contains vm.id = true
      · rw [if_pos hid, if_pos hid]
        split <;> split <;> omega
      · rw [if_neg hid, if_neg hid]
        omega
  have hids := f.length_filter_ids_le t.resourceIds
  have hle := hchanged f.machines
  simp only [List.countP_eq_length_filter] at hle
  exact Nat.le_trans hle (Nat.add_le_add_left hids _)

end Fleet

def Call.tagging? : Call → Option TagRequest
  | tag t => some t
  | _ => none

/-- A request for tags that was replied to. -/
def Moment.tagging? {α : Type} : Moment α → Option TagRequest
  | answered c _ => c.tagging?
  | _ => none

namespace Fleet

/-- Only requests for tags make machines be counted. -/
theorem Answers.count_le {c : Call} {f f' : Fleet} {reply : c.Reply} (h : Answers c f reply f')
    {r : MachinesRequest} (hr : r.tags.toList ≠ []) :
    f'.count r ≤ f.count r + c.tagging?.elim 0 fun t => t.resourceIds.length := by
  cases c with
  | deploy d =>
    cases reply with
    | ok vm => exact Nat.le_of_eq (Adds.count_eq h hr)
    | error e =>
      rcases h with rfl | ⟨vmId, hadds⟩
      · exact Nat.le_refl _
      · exact Nat.le_of_eq (hadds.count_eq hr)
  | tag t =>
    rcases h with rfl | ⟨rfl, -⟩
    · exact f.tagged_count_le t r
    · exact Nat.le_add_right _ _
  | destroy d =>
    rcases h with rfl | ⟨rfl, -⟩
    · exact f.without_count_le d.id r
    · exact Nat.le_refl _
  | listMachines _ => exact Nat.le_of_eq (congrArg (count · r) h.1)
  | listProjects | listProfiles _ | listDetails _ | getOffering _ | getZone _ =>
    exact Nat.le_of_eq (congrArg (count · r) h)

theorem moment_count_le {α : Type} {m : Moment α} {f f' : Fleet} (h : m.Changes Answers f f')
    {r : MachinesRequest} (hr : r.tags.toList ≠ []) :
    f'.count r ≤ f.count r + m.tagging?.elim 0 fun t => t.resourceIds.length := by
  cases m with
  | asked c | ended a => exact Nat.le_of_eq (congrArg (count · r) h)
  | answered c reply => exact Answers.count_le h hr

/-- At most as many machines become counted as requests for tags were replied to, when each is about at
most one machine. -/
theorem batch_count_le {α : Type} {f f' : Fleet} {stages stages' : List (Stage α)}
    {ms : List (Nat × Moment α)} (h : Batch.Run Answers f stages ms f' stages') {r : MachinesRequest}
    (hr : r.tags.toList ≠ [])
    (hone : ∀ t ∈ picked Moment.tagging? ms, t.1.resourceIds.length ≤ 1) :
    f'.count r ≤ f.count r + (picked Moment.tagging? ms).length := by
  induction h with
  | nil => exact Nat.le_add_right _ _
  | @cons f₁ f₂ f₃ stages stages' i s s' m ms hi step change rest ih =>
    have hstep := moment_count_le change hr
    cases ht : m.tagging? with
    | none =>
      rw [Batch.picked_cons_none ht] at hone ⊢
      rw [ht] at hstep
      exact Nat.le_trans (ih hone) (Nat.add_le_add_right hstep _)
    | some t =>
      rw [Batch.picked_cons_some ht] at hone ⊢
      rw [ht] at hstep
      obtain ⟨hfirst, hothers⟩ := List.forall_mem_cons.mp hone
      have hlater := ih hothers
      simp only [Option.elim_some] at hstep hfirst
      rw [List.length_cons]
      omega

def add (f : Fleet) (vm : VirtualMachine) (fresh : vm.id ∉ f.machines.map VirtualMachine.id) : Fleet :=
  ⟨f.machines ++ [vm], by
    rw [List.map_append, List.map_singleton]
    exact List.nodup_append.mpr ⟨f.distinct, List.pairwise_singleton _ _, by
      intro a ha b hb same
      subst same
      exact fresh (List.mem_singleton.mp hb ▸ ha)⟩⟩

theorem tagged_add_count {f : Fleet} {vm : VirtualMachine}
    (fresh : vm.id ∉ f.machines.map VirtualMachine.id) {t : TagRequest} (hids : t.resourceIds = [vm.id])
    {r : MachinesRequest} (haccepts : r.accepts (Backend.addTags t.tags vm) = true) :
    ((f.add vm fresh).tagged t).count r = f.count r + 1 := by
  have hothers : Backend.tagged t f.machines = f.machines := by
    unfold Backend.tagged
    conv_rhs => rw [← List.map_id f.machines]
    refine List.map_congr_left fun other hother => if_neg ?_
    rw [hids]
    intro hid
    have hsame : other.id = vm.id := by simpa using hid
    exact fresh (hsame ▸ List.mem_map_of_mem hother)
  unfold count select tagged add
  dsimp only
  unfold Backend.tagged at hothers ⊢
  rw [List.map_append, hothers, List.filter_append, List.length_append]
  simp [hids, haccepts]

end Fleet
end NodeGroups
