import NodeGroups.Proofs.Courses
import NodeGroups.Proofs.Fleet
import NodeGroups.Proofs.Maps

namespace NodeGroups

namespace Provisioner

variable {p : Provisioner} {ms : List (Moment (Except Error String))} {result : Except Error String}

theorem CleansUp.taggings {vmId : String} {cause : Error} {wrap : Error → Error}
    (h : p.CleansUp vmId cause wrap ms result) : ms.filterMap Moment.tagging? = [] := by
  obtain ⟨reply, rfl, -⟩ := h
  rfl

theorem create_taggings {deploy : DeployRequest} {tags : TagRequest}
    (h : (p.create deploy tags).Lives ms result) : ms.filterMap Moment.tagging? = [] ∨
      ∃ vmId, ms.filterMap Moment.tagging? = [tags.forMachine vmId] := by
  obtain ⟨reply, rest, rfl, hrest⟩ := create_lives h
  change rest.filterMap Moment.tagging? = [] ∨ ∃ vmId, rest.filterMap Moment.tagging? = _
  cases reply with
  | error f =>
    left
    unfold GoesOn at hrest
    simp only at hrest
    split at hrest
    · rw [hrest.1]
      rfl
    · exact hrest.taggings
  | ok vm =>
    right
    obtain ⟨tagged, after, rfl, hafter⟩ := hrest
    refine ⟨vm.id, ?_⟩
    change _ :: after.filterMap Moment.tagging? = _
    cases tagged with
    | ok u =>
      rw [hafter.1]
      rfl
    | error cause => rw [CleansUp.taggings hafter]

/-- A scale-up adds at most as many machines to a group as it has units. -/
theorem scaleUp_count_le {d : GroupDefinition} {count : Nat} {f f' : Fleet} {es : List Event}
    {scaled : Except Error Unit} (h : (p.scaleUp d count).Run Fleet.Answers f es scaled f')
    {r : MachinesRequest} (hr : r.tags.toList ≠ []) : f'.count r ≤ f.count r + count := by
  obtain ⟨values, ms, results, rfl, rfl, hends, -⟩ := scaleUp_run_iff.mp h
  have hindex : ∀ m ∈ ms, m.1 < values.length := by simpa using hends.index_lt
  have hunit (i : Nat) (hi : i < values.length) :
      (own i ms).filterMap Moment.tagging? = [] ∨ ∃ vmId,
        (own i ms).filterMap Moment.tagging? = [(TagRequest.ofDefinition d).forMachine vmId] := by
    have hresults : i < results.length := by
      rw [hends.length_eq]
      simpa using hi
    exact create_taggings (hends.lives (by simp [hi]; rfl) (List.getElem?_eq_getElem hresults))
  have hle := Fleet.batch_count_le hends hr (by
    intro x ht
    obtain ⟨t, i⟩ := x
    have hmem := Batch.mem_picked_iff.mp ht
    obtain ⟨m, hm, hpick⟩ := List.mem_filterMap.mp ht
    obtain ⟨_, -, hpair⟩ := Option.map_eq_some_iff.mp hpick
    cases hpair
    rcases hunit m.1 (hindex m hm) with hnone | ⟨vmId, hone⟩
    · rw [hnone] at hmem
      cases hmem
    · rw [hone] at hmem
      rw [List.mem_singleton.mp hmem]
      exact Nat.le_refl 1)
  refine Nat.le_trans hle (Nat.add_le_add_left (Batch.picked_length_le hindex fun i hi => ?_) _)
  rcases hunit i hi with hnone | ⟨vmId, hone⟩
  · rw [hnone]
    exact Nat.zero_le 1
  · rw [hone]
    exact Nat.le_refl 1

end Provisioner

theorem Fleet.answers_readsOnly : Cloud.ReadsOnly Fleet.Answers := by
  intro c f reply f' hread hanswer
  cases c with
  | listMachines r => exact hanswer.1
  | listProjects | listProfiles _ | listDetails _ | getOffering _ | getZone _ => exact hanswer
  | deploy _ | tag _ | destroy _ => cases hread

namespace NodeGroup

variable {p : Provisioner} {g g' : NodeGroup} {f f' : Fleet} {es : List Event}
  {result : Except Error Unit}

/-- The same group, perhaps with other machines, another offering or another zone. -/
structure Same (g g' : NodeGroup) : Prop where
  profile : g'.definition.profile = g.definition.profile
  metadata : g'.definition.metadata = g.definition.metadata

/-- A group that knows the machines there are, as many as a list can hold. -/
def Knows (g : NodeGroup) (f : Fleet) : Prop :=
  g.machines.Perm (f.select g.machinesRequest) ∧ g.size < Fleet.listLimit

theorem Knows.size_eq (h : g.Knows f) : g.size = f.count g.machinesRequest := h.1.length_eq

theorem Same.rfl : g.Same g := ⟨Eq.refl _, Eq.refl _⟩

theorem Same.trans {g'' : NodeGroup} (h : g.Same g') (h' : g'.Same g'') : g.Same g'' :=
  ⟨h'.profile.trans h.profile, h'.metadata.trans h.metadata⟩

namespace Same

theorem id_eq (h : g.Same g') : g'.id = g.id := by
  simp only [NodeGroup.id, GroupDefinition.name, h.metadata]

theorem minSize_eq (h : g.Same g') : g'.minSize = g.minSize := by
  simp only [minSize, GroupDefinition.minSize, GroupDefinition.sizeAt, h.metadata]

theorem maxSize_eq (h : g.Same g') : g'.maxSize = g.maxSize := by
  simp only [maxSize, GroupDefinition.maxSize, GroupDefinition.sizeAt, h.metadata]

theorem machinesRequest_eq (h : g.Same g') : g'.machinesRequest = g.machinesRequest := by
  have hproject : g'.definition.project? = g.definition.project? := by
    unfold GroupDefinition.project? GroupDefinition.projectId GroupDefinition.param?
      GroupDefinition.deployParams
    rw [h.profile]
  rw [machinesRequest, machinesRequest, hproject, h.id_eq]

end Same

theorem machinesRequest_tags_ne_nil (g : NodeGroup) : g.machinesRequest.tags.toList ≠ [] :=
  List.cons_ne_nil _ _

/-- Reading a group anew changes nothing in the cloud, and if it fails nothing in the group. -/
theorem refresh_run (h : g.refresh.Run Fleet.Answers f es (result, g') f') :
    f' = f ∧ g.Same g' ∧ (((∃ e, result = .error e) ∧ g' = g) ∨ (result = .ok () ∧ g'.Knows f)) := by
  obtain ⟨rfl, -, ⟨rfl, hfailed, -⟩ | ⟨r, rfl, rfl, -, -, hlisted⟩⟩ :=
    refresh_reads Fleet.answers_readsOnly h
  · exact ⟨rfl, .rfl, .inl ⟨hfailed, rfl⟩⟩
  · have hsame : g.Same (g.bound r) := ⟨rfl, rfl⟩
    refine ⟨rfl, hsame, .inr ⟨rfl, ?_⟩⟩
    rw [Knows, hsame.machinesRequest_eq]
    exact hlisted.2 r.machines rfl

/-- A scale-up adds at most as many machines as it is told to. Afterwards the group knows the machines
there are, or it knows those it knew before. -/
theorem scaleUp_run {count : Nat} (h : (g.scaleUp p count).Run Fleet.Answers f es (result, g') f') :
    f'.count g.machinesRequest ≤ f.count g.machinesRequest + count ∧ g.Same g' ∧
      (g' = g ∨ g'.Knows f') := by
  obtain ⟨_, scaled, f₁, _, refreshed, rfl, hscaled, hrefresh⟩ := scaleUp_parts h
  obtain ⟨rfl, hsame, hknows⟩ := refresh_run hrefresh
  exact ⟨Provisioner.scaleUp_count_le hscaled g.machinesRequest_tags_ne_nil, hsame,
    hknows.imp And.right And.right⟩

theorem heal_of_minSize_le (h : g.minSize ≤ g.size) : g.heal p = .done g := by
  rw [heal, if_neg (Nat.not_lt.mpr h)]
  rfl

/-- Healing adds at most what the group lacks. Afterwards the group knows the machines there are, or it
knows those it knew before. -/
theorem heal_run (hsmall : g.size < g.minSize) (h : (g.heal p).Run Fleet.Answers f es g' f') :
    f'.count g.machinesRequest ≤ f.count g.machinesRequest + (g.minSize - g.size) ∧ g.Same g' ∧
      (g' = g ∨ g'.Knows f') := by
  rw [heal, if_pos hsmall] at h
  obtain ⟨_, ⟨result, g₁⟩, f₁, _, rfl, hscale, hdone⟩ := Program.run_bind_iff.mp h
  obtain ⟨-, rfl, rfl⟩ := Program.run_done_iff.mp hdone
  exact scaleUp_run hscale

theorem addSizes_eq {a b : Nat} (ha : a < Fleet.listLimit) (hb : b < Fleet.listLimit) :
    addSizes a b = a + b := by
  simp only [Fleet.listLimit, UInt64.size] at ha hb
  simp only [addSizes, Decimal.maxSize, UInt64.size]
  omega

theorem delta_lt (delta : Int64) : delta.toInt.toNat < Fleet.listLimit := by
  have hlt := delta.toInt_lt
  simp only [Fleet.listLimit, UInt64.size]
  omega

/-- After an increase the group is within its maximum, unless it was below its minimum and the increase
fits on top of its old size. Then it may have grown to its minimum first. -/
theorem increaseSize_run {delta : Int64} (hrange : g.minSize ≤ g.maxSize) (hknows : g.Knows f)
    (hfull : g.size ≤ g.maxSize)
    (h : (g.increaseSize p delta).Run Fleet.Answers f es (result, g') f') :
    f'.count g.machinesRequest ≤ g.maxSize ∨
      (0 < delta.toInt ∧ g.size < g.minSize ∧ g.size + delta.toInt.toNat ≤ g.maxSize ∧
        f'.count g.machinesRequest ≤ g.minSize + delta.toInt.toNat) := by
  have hsize := hknows.size_eq
  unfold increaseSize at h
  by_cases hdelta : delta.toInt ≤ 0
  · rw [if_pos hdelta] at h
    obtain ⟨-, -, rfl⟩ := Program.run_done_iff.mp h
    left
    omega
  · rw [if_neg hdelta] at h
    obtain ⟨_, g₁, f₁, _, rfl, hheal, hrest⟩ := Program.run_bind_iff.mp h
    have hhealed : f₁.count g.machinesRequest ≤ max g.minSize g.size ∧ g.Same g₁ ∧
        ((g₁ = g ∧ (f₁ = f ∨ g.size < g.minSize)) ∨ g₁.Knows f₁) := by
      by_cases hsmall : g.size < g.minSize
      · obtain ⟨hcount, hsame, hg⟩ := heal_run hsmall hheal
        exact ⟨by omega, hsame, hg.imp_left (⟨·, .inr hsmall⟩)⟩
      · rw [heal_of_minSize_le (Nat.not_lt.mp hsmall)] at hheal
        obtain ⟨-, rfl, rfl⟩ := Program.run_done_iff.mp hheal
        exact ⟨by omega, .rfl, .inl ⟨rfl, .inl rfl⟩⟩
    obtain ⟨hcount, hsame, hg⟩ := hhealed
    by_cases hlimit : g₁.maxSize < addSizes g₁.size delta.toInt.toNat
    · rw [if_pos hlimit] at hrest
      obtain ⟨-, -, rfl⟩ := Program.run_done_iff.mp hrest
      left
      omega
    · rw [if_neg hlimit] at hrest
      obtain ⟨hgrown, -, -⟩ := scaleUp_run hrest
      rw [hsame.machinesRequest_eq] at hgrown
      have hlt : g₁.size < Fleet.listLimit := by
        rcases hg with ⟨rfl, -⟩ | hg
        · exact hknows.2
        · exact hg.2
      rw [addSizes_eq hlt (delta_lt delta), hsame.maxSize_eq] at hlimit
      rcases hg with ⟨rfl, rfl | hsmall⟩ | hg
      · left
        omega
      · right
        exact ⟨by omega, hsmall, by omega, by omega⟩
      · left
        have hsize₁ := hg.size_eq
        rw [hsame.machinesRequest_eq] at hsize₁
        omega

end NodeGroup

/-- A group asks for the machines of its project that have its tag. -/
theorem NodeGroup.accepts_of_tag (g : NodeGroup) {vm : VirtualMachine}
    (hproject : vm.projectId = g.definition.project?)
    (htag : (⟨GroupDefinition.nameKey, g.id⟩ : ResourceTag) ∈ vm.tags) :
    g.machinesRequest.accepts vm = true := by
  have hall : g.machinesRequest.tags.toList = [(GroupDefinition.nameKey, g.id)] := rfl
  rw [MachinesRequest.accepts, hall]
  simpa [VirtualMachine.hasTag, NodeGroup.machinesRequest, hproject] using htag

/-- The tags of a new machine of the group make it a member. -/
theorem NodeGroup.accepts_addTags (g : NodeGroup) {vm : VirtualMachine}
    (hproject : vm.projectId = g.definition.project?) :
    g.machinesRequest.accepts (Backend.addTags (TagRequest.ofDefinition g.definition).tags vm) =
      true := by
  have hmem : (GroupDefinition.nameKey, g.id) ∈ (TagRequest.ofDefinition g.definition).tags.toList := by
    rw [TextMap.mem_toList_iff]
    exact (TextMap.get?_insert _ _ _ _).trans (if_pos rfl)
  exact g.accepts_of_tag hproject (List.mem_append_right _ (List.mem_map_of_mem hmem))

theorem Fleet.exists_fresh (f : Fleet) : ∃ vmId, vmId ∉ f.machines.map VirtualMachine.id := by
  have longer (ids : List String) : ∃ n, ∀ vmId ∈ ids, vmId.length < n := by
    induction ids with
    | nil => exact ⟨0, by simp⟩
    | cons vmId ids ih =>
      obtain ⟨n, hn⟩ := ih
      refine ⟨max n (vmId.length + 1), List.forall_mem_cons.mpr ⟨by omega, ?_⟩⟩
      intro other hother
      have hlt := hn other hother
      omega
  obtain ⟨n, hn⟩ := longer (f.machines.map VirtualMachine.id)
  refine ⟨String.ofList (List.replicate n 'a'), fun hmem => ?_⟩
  have hlt := hn _ hmem
  simp at hlt

namespace NodeGroup

variable {p : Provisioner} {g : NodeGroup}

theorem unit_run (p : Provisioner) (g : NodeGroup) (name : String) (f : Fleet) :
    ∃ ms vmId f', (p.unit g.definition name).Run Fleet.Answers f ms (.ok vmId) f' ∧
      f'.count g.machinesRequest = f.count g.machinesRequest + 1 := by
  obtain ⟨vmId, fresh⟩ := f.exists_fresh
  let vm : VirtualMachine := ⟨vmId, name, none, "Starting", none, g.definition.project?, []⟩
  let f₁ := f.add vm fresh
  let tag := (TagRequest.ofDefinition g.definition).forMachine vmId
  have hdeploy : Fleet.Answers
      (.deploy ((DeployRequest.ofDefinition g.definition).withName name)) f (.ok vm) f₁ :=
    ⟨vm, rfl, rfl, rfl, rfl⟩
  have htag : Fleet.Answers (.tag tag) f₁ (.ok ()) (f₁.tagged tag) := .inl rfl
  exact ⟨_, vmId, f₁.tagged tag, .call hdeploy (.call htag .done),
    Fleet.tagged_add_count fresh rfl (g.accepts_addTags rfl)⟩

theorem units_run (p : Provisioner) (g : NodeGroup) (names : List String) (f : Fleet) :
    ∃ (results : List (Except Error String)) (f' : Fleet),
      Batch.InTurn Fleet.Answers f (names.map (p.unit g.definition)) results f' ∧
      (∀ r ∈ results, ∃ vmId, r = .ok vmId) ∧
      f'.count g.machinesRequest = f.count g.machinesRequest + names.length := by
  induction names generalizing f with
  | nil => exact ⟨[], f, .nil, by simp, rfl⟩
  | cons name names ih =>
    obtain ⟨own, vmId, f₁, hunit, hcount₁⟩ := unit_run p g name f
    obtain ⟨results, f', hrest, hok, hcount⟩ := ih f₁
    refine ⟨.ok vmId :: results, f', .cons hunit hrest, ?_, ?_⟩
    · exact List.forall_mem_cons.mpr ⟨⟨vmId, rfl⟩, hok⟩
    · rw [hcount, hcount₁, List.length_cons]
      omega

/-- A scale-up may make all the members it is told to, while the group cannot be read anew. -/
theorem scaleUp_unread (p : Provisioner) (g : NodeGroup) (count : Nat) (f : Fleet) :
    ∃ es f', (g.scaleUp p count).Run Fleet.Answers f es (.error default, g) f' ∧
      f'.count g.machinesRequest = f.count g.machinesRequest + count := by
  let values := List.replicate count (0 : UInt64)
  obtain ⟨results, f', hunits, hok, hcount⟩ :=
    units_run p g (values.map (randomName g.definition.name)) f
  obtain ⟨ms, hends⟩ := hunits.ends
  have hverdict : Provisioner.verdict ((endings ms).map Prod.fst) = .ok () := by
    rw [Provisioner.verdict_eq_ok_iff]
    intro r hr
    have hperm := hends.endings_perm.map Prod.fst
    rw [hperm.mem_iff] at hr
    exact hok r (by simpa using hr)
  have hscaled := Provisioner.scaleUp_run_iff.mpr
    ⟨values, ms, results, List.length_replicate, rfl, hends, hverdict.symm⟩
  have hunread : g.refresh.Run Fleet.Answers f'
      [.called (.listMachines g.machinesRequest) (.error default)] (.error default, g) f' :=
    .call ⟨rfl, fun machines h => by cases h⟩ .done
  refine ⟨_, f', Program.run_bind_iff.mpr ⟨_, _, f', _, rfl, hscaled,
    Program.run_bind_iff.mpr ⟨_, _, f', _, rfl, hunread, .done⟩⟩, ?_⟩
  simpa [values] using hcount

/-- An increase may take a group that is below its minimum to its minimum and all of the increase on top
of that, when the increase fits on top of its old size. -/
theorem increaseSize_unread {delta : Int64} {f : Fleet} (hknows : g.Knows f) (hdelta : 0 < delta.toInt)
    (hsmall : g.size < g.minSize) (hfits : g.size + delta.toInt.toNat ≤ g.maxSize) :
    ∃ es f', (g.increaseSize p delta).Run Fleet.Answers f es (.error default, g) f' ∧
      f'.count g.machinesRequest = g.minSize + delta.toInt.toNat := by
  obtain ⟨es₁, f₁, hheal, hcount₁⟩ := scaleUp_unread p g (g.minSize - g.size) f
  obtain ⟨es₂, f₂, hscale, hcount₂⟩ := scaleUp_unread p g delta.toInt.toNat f₁
  have hhealed : (g.heal p).Run Fleet.Answers f es₁ g f₁ := by
    rw [heal, if_pos hsmall, ← List.append_nil es₁]
    exact Program.run_bind_iff.mpr ⟨es₁, _, f₁, [], rfl, hheal, .done⟩
  refine ⟨es₁ ++ es₂, f₂, ?_, ?_⟩
  · rw [increaseSize, if_neg (by omega)]
    refine Program.run_bind_iff.mpr ⟨es₁, g, f₁, es₂, rfl, hhealed, ?_⟩
    rw [addSizes_eq hknows.2 (delta_lt delta), if_neg (by omega)]
    exact hscale
  · have hsize := hknows.size_eq
    omega

/-- An increase of a group that knows its machines, of which it has no more than it may, keeps it within
its maximum whatever the cloud answers, except in one case: the group is below its minimum, the increase
fits on top of its old size, and does not fit on top of its minimum. -/
theorem increaseSize_within_max_iff {delta : Int64} {f : Fleet} (hrange : g.minSize ≤ g.maxSize)
    (hknows : g.Knows f) (hfull : g.size ≤ g.maxSize) :
    (∀ es result g' f', (g.increaseSize p delta).Run Fleet.Answers f es (result, g') f' →
        f'.count g.machinesRequest ≤ g.maxSize) ↔
      ¬ (0 < delta.toInt ∧ g.size < g.minSize ∧ g.size + delta.toInt.toNat ≤ g.maxSize ∧
        g.maxSize < g.minSize + delta.toInt.toNat) := by
  constructor
  · intro hwithin h
    obtain ⟨hdelta, hsmall, hfits, hlarge⟩ := h
    obtain ⟨es, f', hrun, hcount⟩ := increaseSize_unread (p := p) hknows hdelta hsmall hfits
    have hle := hwithin es _ _ f' hrun
    omega
  · intro hnot es result g' f' hrun
    rcases increaseSize_run hrange hknows hfull hrun with hle | ⟨hdelta, hsmall, hfits, hle⟩
    · exact hle
    · exact Nat.not_lt.mp fun hlarge => hnot ⟨hdelta, hsmall, hfits, by omega⟩

def bounded (minSize maxSize : String) : NodeGroup :=
  .new (.new default (.ofList [(GroupDefinition.nameKey, "g1"), (GroupDefinition.minKey, minSize),
    (GroupDefinition.maxKey, maxSize)]))

/-- Between one and three machines an increase by two is safe, even when none is there yet. -/
theorem increaseSize_within_max_of_bounded :
    (bounded "1" "3").minSize ≤ (bounded "1" "3").maxSize ∧ (bounded "1" "3").Knows ⟨[], .nil⟩ ∧
      (bounded "1" "3").size ≤ (bounded "1" "3").maxSize ∧
      ∀ es result g' f', ((bounded "1" "3").increaseSize ⟨false⟩ 2).Run Fleet.Answers ⟨[], .nil⟩ es
        (result, g') f' → f'.count (bounded "1" "3").machinesRequest ≤ (bounded "1" "3").maxSize := by
  have hmin : (bounded "1" "3").minSize = 1 := by decide
  have hmax : (bounded "1" "3").maxSize = 3 := by decide
  have hrange : (bounded "1" "3").minSize ≤ (bounded "1" "3").maxSize := by omega
  have hknows : (bounded "1" "3").Knows ⟨[], .nil⟩ := ⟨.nil, by decide⟩
  have hfull : (bounded "1" "3").size ≤ (bounded "1" "3").maxSize := Nat.zero_le _
  refine ⟨hrange, hknows, hfull, (increaseSize_within_max_iff hrange hknows hfull).mpr ?_⟩
  rw [hmin, hmax]
  decide

/-- A group that must have two machines and may have no more can get four. -/
theorem increaseSize_exceeds_max :
    (bounded "2" "2").minSize ≤ (bounded "2" "2").maxSize ∧ (bounded "2" "2").Knows ⟨[], .nil⟩ ∧
      (bounded "2" "2").size ≤ (bounded "2" "2").maxSize ∧
      ∃ es result g' f', ((bounded "2" "2").increaseSize ⟨false⟩ 2).Run Fleet.Answers ⟨[], .nil⟩ es
        (result, g') f' ∧ (bounded "2" "2").maxSize = 2 ∧
        f'.count (bounded "2" "2").machinesRequest = 4 := by
  have hmin : (bounded "2" "2").minSize = 2 := by decide
  have hmax : (bounded "2" "2").maxSize = 2 := by decide
  have hsize : (bounded "2" "2").size = 0 := rfl
  have hdelta : (2 : Int64).toInt.toNat = 2 := by decide
  have hpos : 0 < (2 : Int64).toInt := by decide
  have hknows : (bounded "2" "2").Knows ⟨[], .nil⟩ := ⟨.nil, by decide⟩
  obtain ⟨es, f', hrun, hcount⟩ := increaseSize_unread (p := ⟨false⟩) hknows hpos (by omega) (by omega)
  exact ⟨by omega, hknows, by omega, es, _, _, f', hrun, hmax, by omega⟩

end NodeGroup
end NodeGroups
