import NodeGroups.Proofs.Readings

namespace NodeGroups

namespace Provisioner

variable {World : Type} {cloud : Cloud World} {w w' : World} {es : List Event} {p : Provisioner}

/-- Machines are created without a reading and without a deletion among the events of the group. -/
theorem scaleUp_idle {d : GroupDefinition} {count : Nat} {result : Except Error Unit}
    (h : (p.scaleUp d count).Run cloud w es result w') :
    BeginsAnew es ∧ NodeGroup.Idle es := by
  obtain ⟨values, ms, results, -, rfl, -, -⟩ := scaleUp_run_iff.mp h
  clear h
  induction values with
  | nil => exact ⟨by simp [BeginsAnew, Event.offering?, Event.zone?], rfl, rfl⟩
  | cons value values ih =>
    obtain ⟨-, hnone, hdeleted⟩ := ih
    refine ⟨by simp [BeginsAnew, Event.offering?, Event.zone?], ?_, ?_⟩
    · rw [List.map_cons, List.cons_append, lastReading?, hnone, Option.none_or]
      cases values with
      | nil => rfl
      | cons value' values => cases values <;> rfl
    · rw [List.map_cons, List.cons_append, deletions]
      exact hdeleted

end Provisioner

namespace NodeGroup

variable {World : Type} {cloud : Cloud World} {w w' : World} {es : List Event} {p : Provisioner}
  {g g' : NodeGroup} {result : Except Error Unit}

/-- A group is read in full, or stays as it is. -/
theorem refresh_reads (hreads : cloud.ReadsOnly) (h : g.refresh.Run cloud w es (result, g') w') :
    w' = w ∧ BeginsAnew es ∧ ((g' = g ∧ (∃ e, result = .error e) ∧ Idle es) ∨
      ∃ r : Reading, result = .ok () ∧ g' = g.bound r ∧ lastReading? es = some (r, []) ∧
        deletions es = [] ∧ cloud (.listMachines g.machinesRequest) w (.ok r.machines) w) := by
  have hnew (listed : Except Error (List VirtualMachine)) (rest : List Event) :
      BeginsAnew (.called (.listMachines g.machinesRequest) listed :: rest) := by
    simp [BeginsAnew, Event.offering?, Event.zone?]
  cases refreshes_of_run h with
  | unlisted change =>
    obtain rfl := hreads _ _ _ _ rfl change
    exact ⟨rfl, hnew _ _, .inl ⟨rfl, ⟨_, rfl⟩, rfl, rfl⟩⟩
  | unoffered listed change =>
    obtain rfl := hreads _ _ _ _ rfl listed
    obtain rfl := hreads _ _ _ _ rfl change
    exact ⟨rfl, hnew _ _, .inl ⟨rfl, ⟨_, rfl⟩, rfl, rfl⟩⟩
  | unzoned listed offered change =>
    obtain rfl := hreads _ _ _ _ rfl listed
    obtain rfl := hreads _ _ _ _ rfl offered
    obtain rfl := hreads _ _ _ _ rfl change
    exact ⟨rfl, hnew _ _, .inl ⟨rfl, ⟨_, rfl⟩, rfl, rfl⟩⟩
  | @read _ _ _ machines offering zone listed offered zoned =>
    obtain rfl := hreads _ _ _ _ rfl listed
    obtain rfl := hreads _ _ _ _ rfl offered
    obtain rfl := hreads _ _ _ _ rfl zoned
    exact ⟨rfl, hnew _ _, .inr ⟨⟨machines, offering, zone⟩, rfl, rfl, rfl, rfl, listed⟩⟩

theorem deletions_of_gone {vmId : String} {expunge : Bool} {reply : Except Error Unit}
    (h : Gone vmId reply) : deletions [.called (.destroy ⟨vmId, expunge⟩) reply] = [vmId] := by
  cases reply with
  | ok u => rfl
  | error e => simp [deletions, Event.deleted?, h e rfl]

/-- Of a node, either the machine is not bound or not destroyed, and then the group stays as it is; or
the machine is destroyed and unbound. -/
theorem deleteNode_run {node : NodeRef}
    (h : (deleteNodes p [node] g).Run cloud w es (result, g') w') :
    BeginsAnew es ∧ lastReading? es = none ∧ ((g' = g ∧ deletions es = []) ∨
      ∃ i vm, g.machines[i]? = some vm ∧ deletions es = [vm.id] ∧
        g' = { g with machines := swapRemove g.machines i }) := by
  have hnew (vmId : String) (reply : Except Error Unit) :
      BeginsAnew [.called (.destroy ⟨vmId, p.expunge⟩) reply] := by
    simp [BeginsAnew, Event.offering?, Event.zone?]
  rcases deleteNodes_cases h with ⟨-, rfl, rfl, -⟩ | ⟨i, vm, reply, rest, hvm, -, rfl, hcases⟩
  · exact ⟨by simp [BeginsAnew], rfl, .inl ⟨rfl, rfl⟩⟩
  · rcases hcases with ⟨e, rfl, hstays, rfl, rfl, -⟩ | ⟨hgone, w₁, hrest⟩
    · exact ⟨hnew _ _, rfl, .inl ⟨rfl, by simp [deletions, Event.deleted?, hstays]⟩⟩
    · obtain ⟨rfl, hpair, -⟩ := Program.run_done_iff.mp hrest
      cases hpair
      exact ⟨hnew _ _, rfl, .inr ⟨i, vm, hvm, deletions_of_gone hgone, rfl⟩⟩

end NodeGroup

/-- What an operation does with a group, one thing after the other: the group is read, machines are
created for it, or one of its machines is deleted. Until that is done the group is as it was. -/
inductive Part (p : Provisioner) (g : NodeGroup) : List Event → NodeGroup → Prop
  | read {es : List Event} {g' : NodeGroup} {result : Except Error Unit}
      (run : g.refresh.Run Cloud.any () es (result, g') ()) : Part p g es g'
  | create {es : List Event} {count : Nat} {result : Except Error Unit}
      (run : (p.scaleUp g.definition count).Run Cloud.any () es result ()) : Part p g es g
  | delete {es : List Event} {g' : NodeGroup} {node : NodeRef} {result : Except Error Unit}
      (run : (NodeGroup.deleteNodes p [node] g).Run Cloud.any () es (result, g') ()) : Part p g es g'

/-- A point in the life of a group: what has happened so far, and what the group is then. -/
structure Point where
  history : List Event
  group : NodeGroup

/-- Parts one after the other, with the points they lead to. -/
inductive Course (p : Provisioner) : Point → List Point → Point → Prop
  | nil {x : Point} : Course p x [] x
  | cons {x z : Point} {es : List Event} {g : NodeGroup} {points : List Point}
      (part : Part p x.group es g) (rest : Course p ⟨x.history ++ es, g⟩ points z) :
      Course p x (⟨x.history ++ es, g⟩ :: points) z

namespace Part

variable {p : Provisioner} {g g' : NodeGroup} {d : GroupDefinition} {es es' : List Event}

/-- A part in which nothing is read in full and nothing is deleted leaves the group as it is. -/
theorem eq_of_idle (h : Part p g es g') (hidle : NodeGroup.Idle es) : g' = g := by
  obtain ⟨hnone, hdeleted⟩ := hidle
  cases h with
  | read run =>
    obtain ⟨-, -, ⟨same, -⟩ | ⟨r, -, -, hread, -⟩⟩ := NodeGroup.refresh_reads Cloud.any_readsOnly run
    · exact same
    · rw [hnone] at hread
      cases hread
  | create run => rfl
  | delete run =>
    obtain ⟨-, -, ⟨same, -⟩ | ⟨i, vm, -, hone, -⟩⟩ := NodeGroup.deleteNode_run run
    · exact same
    · rw [hdeleted] at hone
      cases hone

theorem follows (h : Part p g es' g') (hg : g.Follows d es) : g'.Follows d (es ++ es') := by
  cases h with
  | read run =>
    obtain ⟨-, hnew, ⟨rfl, -, hidle⟩ | ⟨r, -, rfl, hread, -⟩⟩ :=
      NodeGroup.refresh_reads Cloud.any_readsOnly run
    · exact hg.idle hnew hidle
    · exact hg.read hnew hread
  | create run =>
    obtain ⟨hnew, hidle⟩ := Provisioner.scaleUp_idle run
    exact hg.idle hnew hidle
  | delete run =>
    obtain ⟨hnew, hnone, ⟨rfl, hdeleted⟩ | ⟨i, vm, hvm, hdeleted, rfl⟩⟩ := NodeGroup.deleteNode_run run
    · exact hg.idle hnew ⟨hnone, hdeleted⟩
    · exact hg.delete hvm hnew hnone hdeleted

end Part

namespace Course

variable {p : Provisioner} {x y z : Point} {points points' : List Point} {d : GroupDefinition}

theorem append (h : Course p x points y) (h' : Course p y points' z) :
    Course p x (points ++ points') z := by
  induction h with
  | nil => exact h'
  | cons part rest ih => exact .cons part (ih h')

theorem single {es : List Event} {g : NodeGroup} (part : Part p x.group es g) :
    Course p x [⟨x.history ++ es, g⟩] ⟨x.history ++ es, g⟩ :=
  .cons part .nil

theorem follows (h : Course p x points z) (hx : x.group.Follows d x.history) :
    ∀ y ∈ x :: points, y.group.Follows d y.history := by
  induction h with
  | nil => exact List.forall_mem_singleton.mpr hx
  | cons part rest ih => exact List.forall_mem_cons.mpr ⟨hx, ih (part.follows hx)⟩

end Course

namespace NodeGroup

variable {p : Provisioner} {g g' : NodeGroup} {es : List Event} {result : Except Error Unit}

theorem scaleUp_course {count : Nat}
    (h : (g.scaleUp p count).Run Cloud.any () es (result, g') ()) (history : List Event) :
    ∃ points, Course p ⟨history, g⟩ points ⟨history ++ es, g'⟩ := by
  obtain ⟨first, scaled, _, second, refreshed, rfl, hscaled, hrefresh⟩ := scaleUp_parts h
  rw [← List.append_assoc]
  exact ⟨_, .cons (.create hscaled) (.single (.read hrefresh))⟩

theorem heal_course (h : (g.heal p).Run Cloud.any () es g' ()) (history : List Event) :
    ∃ points, Course p ⟨history, g⟩ points ⟨history ++ es, g'⟩ := by
  unfold heal at h
  split at h
  · obtain ⟨first, ⟨result, g₁⟩, _, _, rfl, hscale, hdone⟩ := Program.run_bind_iff.mp h
    obtain ⟨rfl, rfl, -⟩ := Program.run_done_iff.mp hdone
    rw [List.append_nil]
    exact scaleUp_course hscale history
  · obtain ⟨rfl, rfl, -⟩ := Program.run_done_iff.mp h
    rw [List.append_nil]
    exact ⟨[], .nil⟩

theorem increaseSize_course {delta : Int64}
    (h : (g.increaseSize p delta).Run Cloud.any () es (result, g') ()) (history : List Event) :
    ∃ points, Course p ⟨history, g⟩ points ⟨history ++ es, g'⟩ := by
  unfold increaseSize at h
  split at h
  · obtain ⟨rfl, hpair, -⟩ := Program.run_done_iff.mp h
    cases hpair
    rw [List.append_nil]
    exact ⟨[], .nil⟩
  · obtain ⟨first, g₁, _, second, rfl, hheal, hrest⟩ := Program.run_bind_iff.mp h
    obtain ⟨points, hfirst⟩ := heal_course hheal history
    dsimp only at hrest
    split at hrest
    · obtain ⟨rfl, hpair, -⟩ := Program.run_done_iff.mp hrest
      cases hpair
      rw [List.append_nil]
      exact ⟨points, hfirst⟩
    · obtain ⟨points', hsecond⟩ := scaleUp_course hrest (history ++ first)
      rw [← List.append_assoc]
      exact ⟨_, hfirst.append hsecond⟩

/-- The nodes after the first are dealt with when the first one was. -/
theorem deleteNodes_cons (node : NodeRef) (nodes : List NodeRef) (g : NodeGroup) :
    deleteNodes p (node :: nodes) g = (deleteNodes p [node] g).bind fun
      | (.error e, g) => .done (.error e, g)
      | (.ok (), g) => deleteNodes p nodes g := by
  rw [deleteNodes, deleteNodes]
  cases g.indexOf? node with
  | none => rfl
  | some i =>
    simp only [Program.bind_eq, Program.bind_assoc]
    congr 1
    funext reply
    cases reply <;> rfl

theorem deleteNodes_course {nodes : List NodeRef}
    (h : (deleteNodes p nodes g).Run Cloud.any () es (result, g') ()) (history : List Event) :
    ∃ points, Course p ⟨history, g⟩ points ⟨history ++ es, g'⟩ := by
  induction nodes generalizing g es history with
  | nil =>
    obtain ⟨rfl, hpair, -⟩ := Program.run_done_iff.mp h
    cases hpair
    rw [List.append_nil]
    exact ⟨[], .nil⟩
  | cons node nodes ih =>
    rw [deleteNodes_cons] at h
    obtain ⟨first, ⟨deleted, g₁⟩, _, second, rfl, hfirst, hrest⟩ := Program.run_bind_iff.mp h
    have hone : Course p ⟨history, g⟩ _ ⟨history ++ first, g₁⟩ := .single (.delete hfirst)
    cases deleted with
    | error e =>
      obtain ⟨rfl, hpair, -⟩ := Program.run_done_iff.mp hrest
      cases hpair
      rw [List.append_nil]
      exact ⟨_, hone⟩
    | ok u =>
      obtain ⟨points, hothers⟩ := ih hrest (history ++ first)
      rw [← List.append_assoc]
      exact ⟨_, hone.append hothers⟩

end NodeGroup

namespace Operation

variable {p : Provisioner} {g g' : NodeGroup} {d : GroupDefinition} {es : List Event}

/-- A group that an operation gives back is one that the operation without its result comes to. -/
theorem run_snd {α : Type} {q : Program (α × NodeGroup)}
    (h : (do return (← q).2 : Program NodeGroup).Run Cloud.any () es g' ()) :
    ∃ a, q.Run Cloud.any () es (a, g') () := by
  obtain ⟨first, ⟨a, g₁⟩, _, rest, rfl, hq, hdone⟩ := Program.run_bind_iff.mp h
  obtain ⟨rfl, rfl, -⟩ := Program.run_done_iff.mp hdone
  rw [List.append_nil]
  exact ⟨a, hq⟩

theorem on_course {op : Operation} (h : (op.on p g).Run Cloud.any () es g' ())
    (history : List Event) : ∃ points, Course p ⟨history, g⟩ points ⟨history ++ es, g'⟩ := by
  cases op with
  | refresh =>
    obtain ⟨result, hrun⟩ := run_snd h
    exact ⟨_, .single (.read hrun)⟩
  | targetSize =>
    obtain ⟨result, hrun⟩ := run_snd h
    obtain ⟨first, g₁, _, rest, rfl, hheal, hdone⟩ := Program.run_bind_iff.mp hrun
    obtain ⟨rfl, hpair, -⟩ := Program.run_done_iff.mp hdone
    cases hpair
    rw [List.append_nil]
    exact NodeGroup.heal_course hheal history
  | increaseSize delta =>
    obtain ⟨result, hrun⟩ := run_snd h
    exact NodeGroup.increaseSize_course hrun history
  | decreaseTargetSize delta =>
    obtain ⟨result, hrun⟩ := run_snd h
    obtain ⟨rfl, hpair, -⟩ := Program.run_done_iff.mp hrun
    cases hpair
    rw [List.append_nil]
    exact ⟨[], .nil⟩
  | deleteNodes nodes =>
    obtain ⟨result, hrun⟩ := run_snd h
    exact NodeGroup.deleteNodes_course hrun history

theorem perform_course {ops : List Operation} (h : (perform p ops g).Run Cloud.any () es g' ())
    (history : List Event) : ∃ points, Course p ⟨history, g⟩ points ⟨history ++ es, g'⟩ := by
  induction ops generalizing g es history with
  | nil =>
    obtain ⟨rfl, rfl, -⟩ := Program.run_done_iff.mp h
    rw [List.append_nil]
    exact ⟨[], .nil⟩
  | cons op ops ih =>
    obtain ⟨first, g₁, _, second, rfl, hop, hrest⟩ := Program.run_bind_iff.mp h
    obtain ⟨points, hfirst⟩ := on_course hop history
    obtain ⟨points', hothers⟩ := ih hrest (history ++ first)
    rw [← List.append_assoc]
    exact ⟨_, hfirst.append hothers⟩

theorem perform_cons_run {op : Operation} {ops : List Operation} {g₁ : NodeGroup}
    {first second : List Event} (hop : (op.on p g).Run Cloud.any () first g₁ ())
    (hops : (perform p ops g₁).Run Cloud.any () second g' ()) :
    (perform p (op :: ops) g).Run Cloud.any () (first ++ second) g' () :=
  Program.run_bind_iff.mpr ⟨first, g₁, (), second, rfl, hop, hops⟩

/-- All along a course of operations the group has the machines of its last reading in which all three
reads succeeded, less those deleted since, and the offering and zone of that reading. So it never has a
machine that was not listed, and only a reading or a deletion changes it. -/
theorem perform_follows_readings {ops : List Operation}
    (h : (perform p ops (.new d)).Run Cloud.any () es g ()) :
    ∃ points, Course p ⟨[], .new d⟩ points ⟨es, g⟩ ∧
      (∀ x ∈ (⟨[], .new d⟩ : Point) :: points, x.group.Follows d x.history ∧
        ∀ vm ∈ x.group.machines,
          ∃ e ∈ x.history, ∃ machines, e.machines? = some machines ∧ vm ∈ machines) ∧
      ∀ x es' x', Part p x es' x' → lastReading? es' = none → deletions es' = [] → x' = x := by
  obtain ⟨points, hcourse⟩ := perform_course h []
  refine ⟨points, hcourse, ?_, ?_⟩
  · intro x hx
    have hfollows := hcourse.follows (NodeGroup.Follows.new d) x hx
    exact ⟨hfollows, fun vm hvm => hfollows.listed hvm⟩
  · intro x es' x' hpart hnone hdeleted
    exact hpart.eq_of_idle ⟨hnone, hdeleted⟩

def plainMachine (vmId : String) : VirtualMachine := ⟨vmId, "", none, "Running", none, none, []⟩

def listedPair : Event :=
  .called (.listMachines (NodeGroup.new default).machinesRequest)
    (.ok [plainMachine "vm1", plainMachine "vm2"])

/-- Here two machines are read, one of them is deleted, and then a reading fails halfway. -/
theorem perform_follows_readings_after_lostZone :
    ∃ es g, (perform ⟨false⟩ [.refresh, .deleteNodes [⟨"n1", "vm1"⟩], .refresh] (.new default)).Run
        Cloud.any () es g () ∧ g.machines = [plainMachine "vm2"] ∧
      ∃ points, Course ⟨false⟩ ⟨[], .new default⟩ points ⟨es, g⟩ ∧
        (∀ x ∈ (⟨[], .new default⟩ : Point) :: points, x.group.Follows default x.history ∧
          ∀ vm ∈ x.group.machines,
            ∃ e ∈ x.history, ∃ machines, e.machines? = some machines ∧ vm ∈ machines) ∧
        ∀ x es' x', Part ⟨false⟩ x es' x' → lastReading? es' = none → deletions es' = [] → x' = x := by
  let r : Reading := ⟨[plainMachine "vm1", plainMachine "vm2"], default, default⟩
  let g := (NodeGroup.new default).bound r
  have hindex : g.indexOf? ⟨"n1", "vm1"⟩ = some 0 := by decide
  have hread : (on ⟨false⟩ (.new default) .refresh).Run Cloud.any ()
      [listedPair, .called (.getOffering "") (.ok default), .called (.getZone "") (.ok default)] g () :=
    .call rfl (.call rfl (.call rfl .done))
  have hdelete : (on ⟨false⟩ g (.deleteNodes [⟨"n1", "vm1"⟩])).Run Cloud.any ()
      [.called (.destroy ⟨g.vmIdOf ⟨"n1", "vm1"⟩, false⟩) (.ok ())]
      { g with machines := swapRemove g.machines 0 } () := by
    rw [on, NodeGroup.deleteNodes, hindex]
    exact .call rfl .done
  have hlost : (on ⟨false⟩ { g with machines := swapRemove g.machines 0 } .refresh).Run Cloud.any ()
      [listedPair, .called (.getOffering "") (.ok default), .called (.getZone "") (.error default)]
      { g with machines := swapRemove g.machines 0 } () :=
    .call rfl (.call rfl (.call rfl .done))
  have hnothing : (perform ⟨false⟩ [] { g with machines := swapRemove g.machines 0 }).Run Cloud.any ()
      [] { g with machines := swapRemove g.machines 0 } () := .done
  have hrun := perform_cons_run hread (perform_cons_run hdelete (perform_cons_run hlost hnothing))
  exact ⟨_, _, hrun, rfl, perform_follows_readings hrun⟩

end Operation
end NodeGroups
