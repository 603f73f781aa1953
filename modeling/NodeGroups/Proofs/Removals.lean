import NodeGroups.Proofs.Courses
import NodeGroups.Proofs.Maps

namespace NodeGroups

/-- A node that was handled: the machine it stood for, and what the cloud replied when that machine was
to be destroyed. -/
structure Removal where
  node : NodeRef
  machine : VirtualMachine
  reply : Except Error Unit

namespace Removal

def event (p : Provisioner) (r : Removal) : Event :=
  .called (.destroy ⟨r.machine.id, p.expunge⟩) r.reply

end Removal

namespace NodeGroup

/-- The machine that a node stands for: its id is what follows the group's prefix in the node's external
id, or all of an external id that does not begin with the prefix. -/
def Means (g : NodeGroup) (node : NodeRef) (vmId : String) : Prop :=
  node.providerId = g.providerId vmId ∨
    ((∀ rest, node.providerId ≠ g.providerId rest) ∧ node.providerId = vmId)

/-- Why a deletion comes to its end, with the nodes that are left, the calls made for the first of them,
and the result. The group is the one at the end. -/
inductive Stops (p : Provisioner) (g : NodeGroup) :
    List NodeRef → List Event → Except Error Unit → Prop
  | finished : Stops p g [] [] (.ok ())
  | unknown {node : NodeRef} {nodes : List NodeRef}
      (unbound : ∀ vm ∈ g.machines, ¬ g.Means node vm.id) :
      Stops p g (node :: nodes) [] (.error (.nodeNotFound node.name node.providerId g.id))
  | failed {node : NodeRef} {nodes : List NodeRef} {vm : VirtualMachine} {e : Error}
      (bound : vm ∈ g.machines) (means : g.Means node vm.id) (stays : e.isNotFound vm.id = false) :
      Stops p g (node :: nodes) [.called (.destroy ⟨vm.id, p.expunge⟩) (.error e)] (.error e)

/-- The account of a deletion: the nodes handled one after the other, those that were left, and the calls
made for the first of those. -/
structure Deletes (p : Provisioner) (g : NodeGroup) (nodes : List NodeRef) (es : List Event)
    (result : Except Error Unit) (g' : NodeGroup) (handled : List Removal) (left : List NodeRef)
    (last : List Event) : Prop where
  nodes : nodes = handled.map Removal.node ++ left
  means : ∀ r ∈ handled, g.Means r.node r.machine.id
  gone : ∀ r ∈ handled, Gone r.machine.id r.reply
  events : es = handled.map (Removal.event p) ++ last
  /-- One occurrence of each machine is unbound, and it was bound until then. -/
  machines : (handled.map Removal.machine ++ g'.machines).Perm g.machines
  definition : g'.definition = g.definition
  stops : g'.Stops p left last result

variable {p : Provisioner} {g g' : NodeGroup} {node : NodeRef} {nodes : List NodeRef}
  {World : Type} {cloud : Cloud World} {w w' : World} {es : List Event} {result : Except Error Unit}

theorem means_iff {vmId : String} : g.Means node vmId ↔ g.vmIdOf node = vmId := by
  unfold Means vmIdOf providerId
  cases hrest : Text.dropStart? g.definition.providerIdPrefix node.providerId with
  | some rest =>
    have hfull := dropStart?_eq_some_iff.mp hrest
    rw [hfull, Option.getD_some]
    constructor
    · intro h
      rcases h with same | ⟨hnone, -⟩
      · exact String.append_right_inj _ |>.mp same
      · exact absurd rfl (hnone rest)
    · intro h
      rw [h]
      exact .inl rfl
  | none =>
    have hnone : ∀ rest, node.providerId ≠ g.definition.providerIdPrefix ++ rest := by
      intro rest hfull
      rw [dropStart?_eq_some_iff.mpr hfull] at hrest
      cases hrest
    simp [hnone]

theorem means_of_providerId {vmId : String} (h : node.providerId = g.providerId vmId) :
    g.vmIdOf node = vmId :=
  means_iff.mp (.inl h)

theorem indexOf?_eq_none_iff :
    g.indexOf? node = none ↔ ∀ vm ∈ g.machines, ¬ g.Means node vm.id := by
  rw [indexOf?, List.findIdx?_eq_none_iff]
  simp [means_iff, eq_comm]

/-- Of the nodes to be deleted the first one ends the deletion and the group stays as it is, or its
machine is gone and unbound and the others come next. -/
theorem deleteNodes_head (h : (deleteNodes p (node :: nodes) g).Run cloud w es (result, g') w') :
    (g.Stops p (node :: nodes) es result ∧ g' = g) ∨
    ∃ (r : Removal) (rest : List Event) (g₁ : NodeGroup) (w₁ : World),
      r.node = node ∧ g.Means node r.machine.id ∧ Gone r.machine.id r.reply ∧
      es = r.event p :: rest ∧ (r.machine :: g₁.machines).Perm g.machines ∧
      g₁.definition = g.definition ∧ (deleteNodes p nodes g₁).Run cloud w₁ rest (result, g') w' := by
  rcases deleteNodes_cases h with ⟨hnone, rfl, rfl, rfl⟩ | ⟨i, vm, reply, rest, hvm, hid, rfl, hcases⟩
  · exact .inl ⟨.unknown (indexOf?_eq_none_iff.mp hnone), rfl⟩
  · have hmeans : g.Means node vm.id := means_iff.mpr hid
    rcases hcases with ⟨e, rfl, hstays, rfl, rfl, rfl⟩ | ⟨hgone, w₁, hrest⟩
    · exact .inl ⟨.failed (List.mem_of_getElem? hvm) hmeans hstays, rfl⟩
    · exact .inr ⟨⟨node, vm, reply⟩, rest, { g with machines := swapRemove g.machines i }, w₁, rfl, hmeans,
        hgone, rfl, swapRemove_perm hvm, rfl, hrest⟩

/-- One more node was handled before all others. -/
theorem Deletes.cons {g₁ : NodeGroup} {r : Removal} {handled : List Removal} {left : List NodeRef}
    {last : List Event} (h : g₁.Deletes p nodes es result g' handled left last)
    (hmeans : g.Means r.node r.machine.id) (hgone : Gone r.machine.id r.reply)
    (hperm : (r.machine :: g₁.machines).Perm g.machines) (hsame : g₁.definition = g.definition) :
    g.Deletes p (r.node :: nodes) (r.event p :: es) result g' (r :: handled) left last := by
  have hothers : ∀ r ∈ handled, g.Means r.node r.machine.id := by
    intro r hr
    have hr := h.means r hr
    unfold Means providerId at hr ⊢
    rwa [hsame] at hr
  constructor
  case nodes => rw [h.nodes, List.map_cons, List.cons_append]
  case means => exact List.forall_mem_cons.mpr ⟨hmeans, hothers⟩
  case gone => exact List.forall_mem_cons.mpr ⟨hgone, h.gone⟩
  case events => rw [h.events, List.map_cons, List.cons_append]
  case machines =>
    rw [List.map_cons, List.cons_append]
    exact (h.machines.cons r.machine).trans hperm
  case definition => rw [h.definition, hsame]
  case stops => exact h.stops

theorem Stops.deletes (h : g.Stops p nodes es result) : g.Deletes p nodes es result g [] nodes es where
  nodes := rfl
  means := by simp
  gone := by simp
  events := rfl
  machines := .refl _
  definition := rfl
  stops := h

/-- However a deletion goes, there is an account of it. -/
theorem exists_deletes (h : (deleteNodes p nodes g).Run cloud w es (result, g') w') :
    ∃ handled left last, g.Deletes p nodes es result g' handled left last := by
  induction nodes generalizing g w es with
  | nil =>
    obtain ⟨rfl, hpair, rfl⟩ := Program.run_done_iff.mp h
    cases hpair
    exact ⟨[], [], [], Stops.finished.deletes⟩
  | cons node nodes ih =>
    rcases deleteNodes_head h with ⟨hstops, rfl⟩ | ⟨r, rest, g₁, w₁, rfl, hmeans, hgone, rfl, hperm,
      hsame, hrest⟩
    · exact ⟨[], node :: nodes, es, hstops.deletes⟩
    · obtain ⟨handled, left, last, hdeletes⟩ := ih hrest
      exact ⟨r :: handled, left, last, hdeletes.cons hmeans hgone hperm hsame⟩

/-- A node with the external id of a bound machine has that machine destroyed first. -/
theorem deleteNodes_resolves {vm : VirtualMachine} (hvm : vm ∈ g.machines)
    (hid : node.providerId = g.providerId vm.id)
    (h : (deleteNodes p (node :: nodes) g).Run cloud w es (result, g') w') :
    ∃ reply rest, es = .called (.destroy ⟨vm.id, p.expunge⟩) reply :: rest := by
  -- The id may begin with the prefix once more: only one prefix is taken away.
  have hvmId {vmId : String} (hmeans : g.Means node vmId) : vmId = vm.id := by
    rw [← means_iff.mp hmeans, means_of_providerId hid]
  rcases deleteNodes_head h with ⟨hstops, -⟩ | ⟨r, rest, _, _, -, hmeans, -, rfl, -⟩
  · cases hstops with
    | unknown unbound => exact absurd (.inl hid) (unbound vm hvm)
    | failed bound means stays =>
      rw [hvmId means]
      exact ⟨_, [], rfl⟩
  · rw [Removal.event, hvmId hmeans]
    exact ⟨r.reply, rest, rfl⟩

theorem exists_of_mem_nodes {i : Instance} (h : i ∈ g.nodes) :
    ∃ vm ∈ g.machines, g.providerId vm.id = i.id := by
  obtain ⟨vm, hvm, rfl⟩ := List.mem_map.mp h
  exact ⟨vm, hvm, rfl⟩

/-- A deletion comes to its end, and there is always an account of it: nodes are handled from the first
one on until one is not known or its machine stays. Every instance the group lists is a node of the group,
and a deletion takes it for the machine it was listed for. -/
theorem deleteNodes_accounts (cloud : Cloud World) (p : Provisioner) (g : NodeGroup)
    (nodes : List NodeRef) (w : World) :
    (cloud.Responds → ∃ es result g' w', (deleteNodes p nodes g).Run cloud w es (result, g') w') ∧
    (∀ es result g' w', (deleteNodes p nodes g).Run cloud w es (result, g') w' →
      ∃ handled left last, g.Deletes p nodes es result g' handled left last) ∧
    ∀ i ∈ g.nodes, g.hasNode i.id = true ∧ ∃ vm ∈ g.machines, g.providerId vm.id = i.id ∧
      ∀ node others es result g' w', node.providerId = i.id →
        (deleteNodes p (node :: others) g).Run cloud w es (result, g') w' →
        ∃ reply rest, es = .called (.destroy ⟨vm.id, p.expunge⟩) reply :: rest := by
  refine ⟨?_, ?_, ?_⟩
  · intro responds
    obtain ⟨es, ⟨result, g'⟩, w', hrun⟩ := Program.exists_run responds (deleteNodes p nodes g) w
    exact ⟨es, result, g', w', hrun⟩
  · intro es result g' w' hrun
    exact exists_deletes hrun
  · intro i hi
    obtain ⟨vm, hvm, hid⟩ := exists_of_mem_nodes hi
    have hhas : g.hasNode i.id = true := by
      rw [hasNode, List.any_eq_true]
      exact ⟨vm, hvm, decide_eq_true hid⟩
    refine ⟨hhas, vm, hvm, hid, ?_⟩
    intro node others es result g' w' hnode hrun
    exact deleteNodes_resolves hvm (hnode.trans hid.symm) hrun

/-- A group whose machines have ids that begin with its prefix, and two of them the same one. -/
def twins : NodeGroup :=
  ⟨.new default (.ofList [(GroupDefinition.providerIdPrefixKey, "a")]),
    [Operation.plainMachine "aa", Operation.plainMachine "ab", Operation.plainMachine "aa"]⟩

/-- A node named three times takes both machines of its id, and is not known the third time. -/
theorem deleteNodes_accounts_of_twins :
    let nodes : List NodeRef := [⟨"n1", "aaa"⟩, ⟨"n2", "aaa"⟩, ⟨"n3", "aaa"⟩, ⟨"n4", "aab"⟩]
    let es : List Event := [.called (.destroy ⟨"aa", true⟩) (.ok ()),
      .called (.destroy ⟨"aa", true⟩) (.ok ())]
    let unknown : Except Error Unit := .error (.nodeNotFound "n3" "aaa" "")
    let g' : NodeGroup := { twins with machines := [Operation.plainMachine "ab"] }
    (deleteNodes ⟨true⟩ nodes twins).Run Cloud.any () es (unknown, g') () ∧
      ∃ handled left last, twins.Deletes ⟨true⟩ nodes es unknown g' handled left last := by
  intro nodes es unknown g'
  have hrun : (deleteNodes ⟨true⟩ nodes twins).Run Cloud.any () es (unknown, g') () :=
    .call rfl (.call rfl .done)
  obtain ⟨-, haccount, -⟩ := deleteNodes_accounts Cloud.any ⟨true⟩ twins nodes ()
  exact ⟨hrun, haccount es unknown g' () hrun⟩

end NodeGroup
end NodeGroups
