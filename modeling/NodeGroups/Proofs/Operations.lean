import NodeGroups.Engine.NodeGroup
import NodeGroups.Proofs.ScaleUp

namespace NodeGroups

/-- What may be done with a group that can change it. -/
inductive Operation
  | refresh
  | targetSize
  | increaseSize (delta : Int64)
  | decreaseTargetSize (delta : Int64)
  | deleteNodes (nodes : List NodeRef)

namespace Operation

/-- An operation on a group. Of what it gives back only the group counts here. -/
def on (p : Provisioner) (g : NodeGroup) : Operation → Program NodeGroup
  | refresh => do return (← g.refresh).2
  | targetSize => do return (← g.targetSize p).2
  | increaseSize delta => do return (← g.increaseSize p delta).2
  | decreaseTargetSize delta => do return (← g.decreaseTargetSize delta).2
  | deleteNodes nodes => do return (← g.deleteNodes p nodes).2

/-- Operations on a group, one after the other. -/
def perform (p : Provisioner) : List Operation → NodeGroup → Program NodeGroup
  | [], g => return g
  | op :: ops, g => do perform p ops (← op.on p g)

end Operation

theorem swapRemove_perm {α : Type} {items : List α} {i : Nat} {a : α} (h : items[i]? = some a) :
    (a :: swapRemove items i).Perm items := by
  obtain ⟨hi, rfl⟩ := List.getElem?_eq_some_iff.mp h
  obtain ⟨last, hlast⟩ : ∃ last, items.getLast? = some last :=
    Option.ne_none_iff_exists'.mp fun hnone => by
      rw [List.getLast?_eq_none_iff.mp hnone] at hi
      exact absurd hi (Nat.not_lt_zero i)
  have hsame : (items.set i last).getLast? = some last := by
    rw [List.getLast?_eq_getElem?] at hlast ⊢
    by_cases hend : i = items.length - 1
    · subst hend
      rw [List.length_set, List.getElem?_set_self hi]
    · rw [List.length_set, List.getElem?_set_ne hend, hlast]
  have hset : (items.set i last).dropLast ++ [last] = items.set i last :=
    List.dropLast_append_getLast? last hsame
  have hperm : (last :: (items.set i last).dropLast).Perm (last :: items.eraseIdx i) :=
    (List.perm_append_singleton last _).symm.trans
      ((List.Perm.of_eq hset).trans (List.set_perm_cons_eraseIdx hi last))
  rw [swapRemove, hlast]
  exact (hperm.cons_inv.cons _).trans (List.getElem_cons_eraseIdx_perm hi)

/-- The calls that only read. -/
def Call.isRead : Call → Bool
  | listProjects | listProfiles _ | listDetails _ | listMachines _ | getOffering _ | getZone _ => true
  | deploy _ | tag _ | destroy _ => false

/-- A cloud that is not changed by being read. -/
def Cloud.ReadsOnly {World : Type} (cloud : Cloud World) : Prop :=
  ∀ c w reply w', c.isRead = true → cloud c w reply w' → w' = w

theorem Cloud.any_readsOnly : Cloud.any.ReadsOnly := fun _ _ _ _ _ h => h

namespace Provisioner

variable {World : Type} {cloud : Cloud World} {w w' : World} {es : List Event} {p : Provisioner}

/-- A destruction is one call. It counts as done when the machine is gone. -/
theorem destroy_run_iff {vmId : String} {result : Except Error Unit} :
    (p.destroy vmId).toProgram.Run cloud w es result w' ↔ ∃ reply,
      es = [.called (.destroy ⟨vmId, p.expunge⟩) reply] ∧
        cloud (.destroy ⟨vmId, p.expunge⟩) w reply w' ∧
          result = match reply with
            | .ok () => .ok ()
            | .error e => if e.isNotFound vmId then .ok () else .error e := by
  constructor
  · intro h
    cases h with
    | @call _ _ reply _ _ _ _ _ change rest =>
      refine ⟨reply, ?_⟩
      cases reply with
      | ok u =>
        obtain ⟨rfl, rfl, rfl⟩ := Program.run_done_iff.mp rest
        exact ⟨rfl, change, rfl⟩
      | error e =>
        obtain ⟨rfl, rfl, rfl⟩ := Program.run_done_iff.mp rest
        exact ⟨rfl, change, rfl⟩
  · intro h
    obtain ⟨reply, rfl, change, rfl⟩ := h
    refine .call change ?_
    cases reply with
    | ok u => exact .done
    | error e => exact .done

end Provisioner

namespace NodeGroup

/-- How the reading of a group goes: it ends with the first of its three calls that fails, and the group
changes if none does. -/
inductive Refreshes {World : Type} (cloud : Cloud World) (g : NodeGroup) :
    World → List Event → Except Error Unit → NodeGroup → World → Prop
  | unlisted {w w' : World} {e : Error} (change : cloud (.listMachines g.machinesRequest) w (.error e) w') :
      Refreshes cloud g w [.called (.listMachines g.machinesRequest) (.error e)] (.error e) g w'
  | unoffered {w w₁ w' : World} {machines : List VirtualMachine} {e : Error}
      (listed : cloud (.listMachines g.machinesRequest) w (.ok machines) w₁)
      (change : cloud (.getOffering g.definition.profile.serviceOfferingId) w₁ (.error e) w') :
      Refreshes cloud g w [.called (.listMachines g.machinesRequest) (.ok machines),
        .called (.getOffering g.definition.profile.serviceOfferingId) (.error e)] (.error e) g w'
  | unzoned {w w₁ w₂ w' : World} {machines : List VirtualMachine} {offering : ServiceOffering} {e : Error}
      (listed : cloud (.listMachines g.machinesRequest) w (.ok machines) w₁)
      (offered : cloud (.getOffering g.definition.profile.serviceOfferingId) w₁ (.ok offering) w₂)
      (change : cloud (.getZone g.definition.profile.zoneId) w₂ (.error e) w') :
      Refreshes cloud g w [.called (.listMachines g.machinesRequest) (.ok machines),
        .called (.getOffering g.definition.profile.serviceOfferingId) (.ok offering),
        .called (.getZone g.definition.profile.zoneId) (.error e)] (.error e) g w'
  | read {w w₁ w₂ w' : World} {machines : List VirtualMachine} {offering : ServiceOffering} {zone : Zone}
      (listed : cloud (.listMachines g.machinesRequest) w (.ok machines) w₁)
      (offered : cloud (.getOffering g.definition.profile.serviceOfferingId) w₁ (.ok offering) w₂)
      (zoned : cloud (.getZone g.definition.profile.zoneId) w₂ (.ok zone) w') :
      Refreshes cloud g w [.called (.listMachines g.machinesRequest) (.ok machines),
        .called (.getOffering g.definition.profile.serviceOfferingId) (.ok offering),
        .called (.getZone g.definition.profile.zoneId) (.ok zone)] (.ok ())
        ⟨{ g.definition with offering, zone }, machines⟩ w'

variable {World : Type} {cloud : Cloud World} {w w' : World} {es : List Event} {p : Provisioner}
  {g g' : NodeGroup} {result : Except Error Unit} {node : NodeRef} {nodes : List NodeRef}

theorem refreshes_of_run (h : g.refresh.Run cloud w es (result, g') w') :
    g.Refreshes cloud w es result g' w' := by
  unfold refresh at h
  obtain ⟨_, listed, w₁, _, rfl, hlist, hafter⟩ := Program.run_bind_iff.mp h
  obtain ⟨rfl, hlisted⟩ := Program.run_ask_iff.mp hlist
  cases listed with
  | error e =>
    obtain ⟨rfl, hpair, rfl⟩ := Program.run_done_iff.mp hafter
    cases hpair
    exact .unlisted hlisted
  | ok machines =>
    obtain ⟨_, offering, w₂, _, rfl, hoffering, hlast⟩ := Program.run_bind_iff.mp hafter
    obtain ⟨rfl, hoffered⟩ := Program.run_ask_iff.mp hoffering
    cases offering with
    | error e =>
      obtain ⟨rfl, hpair, rfl⟩ := Program.run_done_iff.mp hlast
      cases hpair
      exact .unoffered hlisted hoffered
    | ok offering =>
      obtain ⟨_, zone, w₃, _, rfl, hzone, hdone⟩ := Program.run_bind_iff.mp hlast
      obtain ⟨rfl, hzoned⟩ := Program.run_ask_iff.mp hzone
      cases zone with
      | error e =>
        obtain ⟨rfl, hpair, rfl⟩ := Program.run_done_iff.mp hdone
        cases hpair
        exact .unzoned hlisted hoffered hzoned
      | ok zone =>
        obtain ⟨rfl, hpair, rfl⟩ := Program.run_done_iff.mp hdone
        cases hpair
        exact .read hlisted hoffered hzoned

/-- Of the nodes to be deleted the first one is not known, or its machine is to be destroyed. If that fails
the deletion ends, and else the other nodes come next. -/
theorem deleteNodes_cases (h : (deleteNodes p (node :: nodes) g).Run cloud w es (result, g') w') :
    (g.indexOf? node = none ∧ es = [] ∧ g' = g ∧
      result = .error (.nodeNotFound node.name node.providerId g.id)) ∨
    ∃ (i : Nat) (vm : VirtualMachine) (reply : Except Error Unit) (rest : List Event),
      g.machines[i]? = some vm ∧ g.vmIdOf node = vm.id ∧
      es = .called (.destroy ⟨vm.id, p.expunge⟩) reply :: rest ∧
      ((∃ e, reply = .error e ∧ e.isNotFound vm.id = false ∧ rest = [] ∧ g' = g ∧ result = .error e) ∨
        (Gone vm.id reply ∧ ∃ w₁,
          (deleteNodes p nodes { g with machines := swapRemove g.machines i }).Run cloud w₁ rest
            (result, g') w')) := by
  unfold deleteNodes at h
  cases hi : g.indexOf? node with
  | none =>
    rw [hi] at h
    obtain ⟨rfl, hpair, rfl⟩ := Program.run_done_iff.mp h
    cases hpair
    exact .inl ⟨rfl, rfl, rfl, rfl⟩
  | some i =>
    rw [hi] at h
    obtain ⟨hlt, hid, -⟩ := List.findIdx?_eq_some_iff_getElem.mp hi
    have hvm : g.vmIdOf node = g.machines[i].id := (of_decide_eq_true hid).symm
    obtain ⟨_, destroyed, w₁, rest, rfl, hdestroy, hrest⟩ := Program.run_bind_iff.mp h
    rw [hvm] at hdestroy
    obtain ⟨reply, rfl, -, hdestroyed⟩ := Provisioner.destroy_run_iff.mp hdestroy
    refine .inr ⟨i, g.machines[i], reply, rest, List.getElem?_eq_getElem hlt, hvm, rfl, ?_⟩
    cases reply with
    | ok u =>
      subst hdestroyed
      have gone : Gone g.machines[i].id (.ok u) := fun e he => by cases he
      exact .inr ⟨gone, w₁, hrest⟩
    | error e =>
      cases hfound : e.isNotFound g.machines[i].id with
      | true =>
        simp only [hfound, if_true] at hdestroyed
        subst hdestroyed
        have gone : Gone g.machines[i].id (.error e) := by
          intro e' he
          rw [← Except.error.inj he]
          exact hfound
        exact .inr ⟨gone, w₁, hrest⟩
      | false =>
        simp only [hfound, Bool.false_eq_true, if_false] at hdestroyed
        subst hdestroyed
        obtain ⟨rfl, hpair, rfl⟩ := Program.run_done_iff.mp hrest
        cases hpair
        exact .inl ⟨e, rfl, hfound, rfl, rfl, rfl⟩

/-- What a scale-up comes to: the failure to create machines, or else what came of reading the group. -/
def upshot (scaled refreshed : Except Error Unit) : Except Error Unit :=
  match scaled with
  | .error e => .error e
  | .ok () => refreshed

theorem scaleUp_upshot {count : Nat} (h : (g.scaleUp p count).Run cloud w es (result, g') w') :
    ∃ first scaled middle second refreshed, es = first ++ second ∧
      (p.scaleUp g.definition count).Run cloud w first scaled middle ∧
      g.refresh.Run cloud middle second (refreshed, g') w' ∧ result = upshot scaled refreshed := by
  unfold scaleUp at h
  obtain ⟨first, scaled, middle, _, rfl, hscaled, hrest⟩ := Program.run_bind_iff.mp h
  obtain ⟨second, ⟨refreshed, g₁⟩, last, rest, rfl, hrefresh, hdone⟩ := Program.run_bind_iff.mp hrest
  have hend : rest = [] ∧ g' = g₁ ∧ w' = last ∧ result = upshot scaled refreshed := by
    cases scaled with
    | error e =>
      obtain ⟨rfl, hpair, rfl⟩ := Program.run_done_iff.mp hdone
      cases hpair
      exact ⟨rfl, rfl, rfl, rfl⟩
    | ok u =>
      obtain ⟨rfl, hpair, rfl⟩ := Program.run_done_iff.mp hdone
      cases hpair
      exact ⟨rfl, rfl, rfl, rfl⟩
  obtain ⟨rfl, rfl, rfl, hresult⟩ := hend
  exact ⟨first, scaled, middle, second, refreshed, by rw [List.append_nil], hscaled, hrefresh, hresult⟩

/-- A group is scaled up by creating machines and then reading it, whatever became of the machines. -/
theorem scaleUp_parts {count : Nat} (h : (g.scaleUp p count).Run cloud w es (result, g') w') :
    ∃ first scaled middle second refreshed, es = first ++ second ∧
      (p.scaleUp g.definition count).Run cloud w first scaled middle ∧
      g.refresh.Run cloud middle second (refreshed, g') w' := by
  obtain ⟨first, scaled, middle, second, refreshed, hes, hscaled, hrefresh, -⟩ := scaleUp_upshot h
  exact ⟨first, scaled, middle, second, refreshed, hes, hscaled, hrefresh⟩

end NodeGroup
end NodeGroups
