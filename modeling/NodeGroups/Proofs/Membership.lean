import Mathlib.Data.List.Nodup
import NodeGroups.Proofs.Capacity
import NodeGroups.Proofs.Estates

namespace NodeGroups

/-- A machine of a group has the tag of the group, and for every other key the value that the metadata has
under the marked key. -/
theorem GroupDefinition.Member.mem_tags_iff {d : GroupDefinition} {vm : VirtualMachine}
    (h : d.Member vm) {k v : String} : ⟨k, v⟩ ∈ vm.tags ↔
      (k = nameKey ∧ v = d.name) ∨ (k ≠ nameKey ∧ d.metadata.get? (tagMark ++ k) = some v) := by
  have hpair : ⟨k, v⟩ ∈ vm.tags ↔ (k, v) ∈ (TagRequest.ofDefinition d).tags.toList := by
    rw [h.tags, List.mem_map]
    constructor
    · intro hmem
      obtain ⟨t, ht, hsame⟩ := hmem
      cases hsame
      exact ht
    · intro hmem
      exact ⟨(k, v), hmem, rfl⟩
  rw [hpair, TextMap.mem_toList_iff, TagRequest.get?_tags_ofDefinition]
  change (if k = nameKey then some d.name else d.metadata.get? (tagMark ++ k)) = some v ↔ _
  by_cases hname : k = nameKey
  · rw [if_pos hname, Option.some_inj]
    simp [hname, eq_comm]
  · rw [if_neg hname]
    simp [hname]

/-- A machine that the group tagged is one that it asks for. -/
theorem GroupDefinition.Member.accepts {g : NodeGroup} {vm : VirtualMachine}
    (h : g.definition.Member vm) : g.machinesRequest.accepts vm = true := by
  have htag : (⟨nameKey, g.id⟩ : ResourceTag) ∈ vm.tags := h.mem_tags_iff.mpr (.inl ⟨rfl, rfl⟩)
  exact g.accepts_of_tag h.project htag

theorem Fleet.eq_of_id_eq {f : Fleet} {vm vm' : VirtualMachine} (h : vm ∈ f.machines)
    (h' : vm' ∈ f.machines) (same : vm.id = vm'.id) : vm = vm' :=
  List.inj_on_of_nodup_map f.distinct h h' same

theorem Fleet.select_nodup (f : Fleet) (r : MachinesRequest) : (f.select r).Nodup :=
  (List.Nodup.of_map _ f.distinct).filter _

namespace Tended

variable {g : NodeGroup} {start s : Estate} {results : List (Except Error String)}

theorem owned_eq (results : List (Except Error String)) :
    (results.map Standing.ended).filterMap Standing.owned? = results.filterMap Except.toOption := by
  rw [List.filterMap_map]
  congr 1
  funext result
  cases result <;> rfl

/-- When all units are over, a listing gives what it gave at the start and the machines of the units that
succeeded. -/
theorem select_perm (h : Tended g.definition start s (results.map .ended)) :
    ∃ made, (s.select g.machinesRequest).Perm (start.select g.machinesRequest ++ made) ∧
      (made.map VirtualMachine.id).Perm (results.filterMap Except.toOption) ∧
        ∀ vm ∈ made, vm.id ∉ start.handed ∧ g.definition.Member vm := by
  obtain ⟨howned, hdistinct⟩ := And.intro h.owned h.distinct
  rw [owned_eq] at howned hdistinct
  have hended {vmId : String} : .ended (.ok vmId) ∈ results.map Standing.ended ↔
      vmId ∈ results.filterMap Except.toOption := by
    rw [List.mem_map, List.mem_filterMap]
    constructor
    · intro hmem
      obtain ⟨result, hresult, hsame⟩ := hmem
      cases hsame
      exact ⟨_, hresult, rfl⟩
    · intro hmem
      obtain ⟨result, hresult, hsome⟩ := hmem
      cases result with
      | error e => cases hsome
      | ok vmId' =>
        cases hsome
        exact ⟨_, hresult, rfl⟩
  have hmember {vm : VirtualMachine} (hvm : vm ∈ s.machines)
      (hid : vm.id ∈ results.filterMap Except.toOption) : g.definition.Member vm := by
    obtain ⟨vm', hvm', hsame, hfacts⟩ := h.members vm.id (hended.mpr hid)
    rwa [← Fleet.eq_of_id_eq hvm' hvm hsame]
  refine ⟨s.machines.filter (·.id ∈ results.filterMap Except.toOption), ?_, ?_, ?_⟩
  · have hseparate : (start.select g.machinesRequest ++
        s.machines.filter (·.id ∈ results.filterMap Except.toOption)).Nodup := by
      refine List.nodup_append.mpr ⟨start.select_nodup _, (List.Nodup.of_map _ s.distinct).filter _, ?_⟩
      intro vm hold vm' hmade same
      subst same
      have hid := of_decide_eq_true (List.mem_filter.mp hmade).2
      exact (howned vm.id hid).2 (start.known vm (List.mem_of_mem_filter hold))
    -- No machine is listed twice, so it is enough to compare which ones are.
    rw [List.perm_ext_iff_of_nodup (s.select_nodup _) hseparate]
    intro vm
    rw [Fleet.select, Fleet.select, List.mem_append, List.mem_filter, List.mem_filter,
      List.mem_filter, decide_eq_true_eq]
    by_cases hknown : vm.id ∈ start.handed
    · rw [h.kept vm hknown]
      exact ⟨.inl, fun hmem => hmem.resolve_right fun hmade => (howned vm.id hmade.2).2 hknown⟩
    · constructor
      · intro hmem
        refine .inr ⟨hmem.1, hended.mp ((h.untagged vm hmem.1 hknown).resolve_left fun hnone => ?_)⟩
        have hrefused := Fleet.not_accepts_of_no_tags g.machinesRequest_tags_ne_nil hnone
        rw [hmem.2] at hrefused
        cases hrefused
      · intro hmem
        rcases hmem with hold | hmade
        · exact absurd (start.known vm hold.1) hknown
        · exact ⟨hmade.1, (hmember hmade.1 hmade.2).accepts⟩
  · rw [List.perm_ext_iff_of_nodup (s.distinct.sublist (List.filter_sublist.map _)) hdistinct]
    intro vmId
    constructor
    · intro hmem
      obtain ⟨vm, hvm, rfl⟩ := List.mem_map.mp hmem
      exact of_decide_eq_true (List.mem_filter.mp hvm).2
    · intro hmem
      obtain ⟨vm, hvm, rfl, -⟩ := h.members vmId (hended.mpr hmem)
      exact List.mem_map_of_mem (List.mem_filter.mpr ⟨hvm, decide_eq_true hmem⟩)
  · intro vm hvm
    obtain ⟨hin, hid⟩ := List.mem_filter.mp hvm
    have hid := of_decide_eq_true hid
    exact ⟨(howned vm.id hid).2, hmember hin hid⟩

end Tended

theorem Estate.answers_readsOnly : Cloud.ReadsOnly Estate.Answers := by
  intro c s reply s' hread hanswer
  cases c with
  | listMachines r => exact hanswer.1
  | listProjects | listProfiles _ | listDetails _ | getOffering _ | getZone _ => exact hanswer
  | deploy _ | tag _ | destroy _ => cases hread

namespace NodeGroup

/-- A group that has the machines it had, and one new machine for each unit that succeeded. -/
structure Grows (g g' : NodeGroup) (s : Estate) (ms : List (Nat × Moment (Except Error String)))
    (made : List VirtualMachine) : Prop where
  machines : g'.machines.Perm (g.machines ++ made)
  ids : (made.map VirtualMachine.id).Perm ((endings ms).filterMap fun ending => ending.1.toOption)
  new : ∀ vm ∈ made, vm.id ∉ s.handed
  project : ∀ vm ∈ made, vm.projectId = g.definition.project?
  tags : ∀ vm ∈ made, ∀ k v, ⟨k, v⟩ ∈ vm.tags ↔ (k = GroupDefinition.nameKey ∧ v = g.id) ∨
    (k ≠ GroupDefinition.nameKey ∧ g.definition.metadata.get? ("tag-" ++ k) = some v)

/-- If a group knew its machines and can be read anew after a scale-up, it has grown by the machines of the
units that succeeded, and every new machine has the tags that the metadata asks for. -/
theorem scaleUp_members {p : Provisioner} {count : Nat} {g g' : NodeGroup} {s s' : Estate}
    {es : List Event} {result : Except Error Unit}
    (h : (g.scaleUp p count).Run Estate.Answers s es (result, g') s')
    (hknows : g.machines.Perm (s.select g.machinesRequest)) (hread : (lastReading? es).isSome) :
    ∃ (values : List UInt64) (ms : List (Nat × Moment (Except Error String))) (reads : List Event)
      (made : List VirtualMachine), values.length = count ∧
      es = values.map .drew ++ .batch ms :: reads ∧ (endings ms).length = count ∧
      g.Grows g' s ms made := by
  obtain ⟨_, scaled, s₁, reads, refreshed, rfl, hscaled, hrefresh⟩ := scaleUp_parts h
  obtain ⟨values, ms, results, hlength, rfl, hends, -⟩ := Provisioner.scaleUp_run_iff.mp hscaled
  obtain ⟨hidle, -⟩ := (Provisioner.scaleUp_idle hscaled).2
  obtain ⟨made, hselect, hids, hmade⟩ := (Estate.tended_of_ends hends).select_perm
  have hresults : ((endings ms).map Prod.fst).Perm results := by
    simpa using hends.endings_perm.map Prod.fst
  have hcount : (endings ms).length = count := by
    have hsame := hresults.length_eq
    rw [List.length_map, hends.length_eq] at hsame
    simpa [hlength] using hsame
  obtain ⟨-, hnew, hcases⟩ := refresh_reads Estate.answers_readsOnly hrefresh
  rw [lastReading?_append hnew, hidle, Option.map_none, Option.or_none] at hread
  refine ⟨values, ms, reads, made, hlength, ?_, hcount, ?_⟩
  · rw [List.append_assoc]
    rfl
  constructor
  case machines =>
    rcases hcases with ⟨-, -, hnone, -⟩ | ⟨r, -, rfl, -, -, hlisted⟩
    · rw [hnone] at hread
      cases hread
    · calc
        (g.bound r).machines.Perm (s₁.select g.machinesRequest) := hlisted.2 r.machines rfl
        List.Perm _ (s.select g.machinesRequest ++ made) := hselect
        List.Perm _ (g.machines ++ made) := hknows.symm.append_right made
  case ids =>
    rw [← Function.comp_def, ← List.filterMap_map]
    exact hids.trans (hresults.filterMap _).symm
  case new => exact fun vm hvm => (hmade vm hvm).1
  case project => exact fun vm hvm => (hmade vm hvm).2.project
  case tags => exact fun vm hvm k v => (hmade vm hvm).2.mem_tags_iff

/-- The project is a deploy parameter here, and the metadata has a tag of the name that marks members. -/
def inProject : NodeGroup :=
  .new (.new { (default : AutoscaleProfile) with otherDeployParams := "projectid=p1" }
    (.ofList [("nodeGroupName", "g1"), ("tag-nodeGroupName", "other"), ("tag-env", "prod")]))

def projectMachine (vmId : String) (tags : List ResourceTag) : VirtualMachine :=
  ⟨vmId, "", none, "Running", none, some "p1", tags⟩

def oldMember : VirtualMachine := projectMachine "vm0" [⟨"nodeGroupName", "g1"⟩]

def memberTags (vmId : String) : TagRequest :=
  (TagRequest.ofDefinition inProject.definition).forMachine vmId

def oneMember : Estate := ⟨⟨[oldMember], by decide⟩, ["vm0"], by decide⟩

def firstDeployed : Estate :=
  ⟨⟨[oldMember, projectMachine "vm1" []], by decide⟩, ["vm1", "vm0"], by decide⟩

def bothDeployed : Estate :=
  ⟨⟨[oldMember, projectMachine "vm1" [], projectMachine "vm2" []], by decide⟩,
    ["vm2", "vm1", "vm0"], by decide⟩

def firstTagged : Estate :=
  ⟨bothDeployed.tagged (memberTags "vm1"), bothDeployed.handed, by decide⟩

def secondGone : Estate := ⟨firstTagged.without "vm2", firstTagged.handed, by decide⟩

def projectDeploy (value : UInt64) : DeployRequest :=
  (DeployRequest.ofDefinition inProject.definition).withName (randomName "g1" value)

/-- Two units at once: the second one cannot tag its machine, and destroys it. -/
def unevenUnits : List (Nat × Moment (Except Error String)) :=
  [(0, .asked (.deploy (projectDeploy 0))), (1, .asked (.deploy (projectDeploy 1))),
    (0, .answered (.deploy (projectDeploy 0)) (.ok (projectMachine "vm1" []))),
    (1, .answered (.deploy (projectDeploy 1)) (.ok (projectMachine "vm2" []))),
    (1, .asked (.tag (memberTags "vm2"))), (0, .asked (.tag (memberTags "vm1"))),
    (1, .answered (.tag (memberTags "vm2")) (.error default)),
    (0, .answered (.tag (memberTags "vm1")) (.ok ())), (1, .asked (.destroy ⟨"vm2", false⟩)),
    (0, .ended (.ok "vm1")), (1, .answered (.destroy ⟨"vm2", false⟩) (.ok ())),
    (1, .ended (.error default))]

/-- A group of one machine grows by two units, of which one fails. -/
theorem scaleUp_members_of_unevenUnits :
    ∃ es result g' s', ({ inProject with machines := [oldMember] }.scaleUp ⟨false⟩ 2).Run
        Estate.Answers oneMember es (result, g') s' ∧
      [oldMember].Perm (oneMember.select inProject.machinesRequest) ∧ (lastReading? es).isSome ∧
      g'.machines.map VirtualMachine.id = ["vm0", "vm1"] ∧
      ∃ (values : List UInt64) (ms : List (Nat × Moment (Except Error String))) (reads : List Event)
        (made : List VirtualMachine), values.length = 2 ∧
        es = values.map .drew ++ .batch ms :: reads ∧ (endings ms).length = 2 ∧
        { inProject with machines := [oldMember] }.Grows g' oneMember ms made := by
  have hproject : inProject.definition.project? = some "p1" := by decide +kernel
  have hadds (value : UInt64) (vmId : String) (f f' : Fleet)
      (hmachines : f'.machines = f.machines ++ [projectMachine vmId []]) :
      Fleet.Adds (projectDeploy value) vmId f f' :=
    ⟨projectMachine vmId [], rfl, hproject.symm, rfl, hmachines⟩
  have hfirst : Estate.Answers (.deploy (projectDeploy 0)) oneMember
      (.ok (projectMachine "vm1" [])) firstDeployed := ⟨by decide, rfl, hadds 0 "vm1" _ _ rfl⟩
  have hsecond : Estate.Answers (.deploy (projectDeploy 1)) firstDeployed
      (.ok (projectMachine "vm2" [])) bothDeployed := ⟨by decide, rfl, hadds 1 "vm2" _ _ rfl⟩
  have hlost : Estate.Answers (.tag (memberTags "vm2")) bothDeployed (.error default)
      bothDeployed := rfl
  have htagged : Estate.Answers (.tag (memberTags "vm1")) bothDeployed (.ok ()) firstTagged :=
    ⟨rfl, rfl⟩
  have hgone : Estate.Answers (.destroy ⟨"vm2", false⟩) firstTagged (.ok ()) secondGone := ⟨rfl, rfl⟩
  have hends : Batch.Ends Estate.Answers oneMember (([0, 1].map (randomName "g1")).map
      (Provisioner.unit ⟨false⟩ inProject.definition)) unevenUnits [.ok "vm1", .error default]
      secondGone :=
    .cons rfl .ask rfl (.cons rfl .ask rfl (.cons rfl .answer hfirst (.cons rfl .answer hsecond
      (.cons rfl .ask rfl (.cons rfl .ask rfl (.cons rfl .answer hlost (.cons rfl .answer htagged
      (.cons rfl .ask rfl (.cons rfl .finish rfl (.cons rfl .answer hgone
      (.cons rfl .finish rfl .nil)))))))))))
  have hscaled : (Provisioner.scaleUp ⟨false⟩ inProject.definition 2).Run Estate.Answers oneMember
      [.drew 0, .drew 1, .batch unevenUnits] (.error (.scaleUp [(default : Error).message]))
      secondGone :=
    Provisioner.scaleUp_run_iff.mpr ⟨[0, 1], unevenUnits, _, rfl, rfl, hends, rfl⟩
  let machines := secondGone.select inProject.machinesRequest
  have hread : ({ inProject with machines := [oldMember] } : NodeGroup).refresh.Run Estate.Answers
      secondGone [.called (.listMachines inProject.machinesRequest) (.ok machines),
        .called (.getOffering "") (.ok default), .called (.getZone "") (.ok default)]
      (.ok (), { inProject with machines := machines }) secondGone :=
    .call ⟨rfl, fun _ h => Except.ok.inj h ▸ .rfl⟩ (.call rfl (.call rfl .done))
  have hrun : ({ inProject with machines := [oldMember] } : NodeGroup).scaleUp ⟨false⟩ 2 |>.Run
      Estate.Answers oneMember _ (.error (.scaleUp [(default : Error).message]),
        { inProject with machines := machines }) secondGone :=
    Program.run_bind_iff.mpr ⟨_, _, _, _, rfl, hscaled,
      Program.run_bind_iff.mpr ⟨_, _, _, [], (List.append_nil _).symm, hread, .done⟩⟩
  have hselected : oneMember.select inProject.machinesRequest = [oldMember] := by decide +kernel
  have hknows : [oldMember].Perm (oneMember.select inProject.machinesRequest) := .of_eq hselected.symm
  have hmembers : machines.map VirtualMachine.id = ["vm0", "vm1"] := by decide +kernel
  exact ⟨_, _, _, _, hrun, hknows, rfl, hmembers, scaleUp_members hrun hknows rfl⟩

end NodeGroup
end NodeGroups
