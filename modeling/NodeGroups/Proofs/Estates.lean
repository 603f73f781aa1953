import NodeGroups.Proofs.Fleet
import NodeGroups.Proofs.ScaleUp

namespace NodeGroups

/-- A fleet that remembers every id it ever handed out. -/
structure Estate extends Fleet where
  handed : List String
  known : ∀ vm ∈ machines, vm.id ∈ handed

namespace Estate

/-- How a cloud with such a fleet answers. No id is handed out twice. A call that fails does nothing, but a
deployment that fails may have used up an id or even have made a machine, which it may name, and a machine
may be gone though it could not be destroyed. Listings are complete, in any order. -/
def Answers : Cloud Estate
  | .listMachines r, s, reply, s' =>
    s' = s ∧ ∀ machines, reply = .ok machines → machines.Perm (s.select r)
  | .deploy r, s, .ok vm, s' =>
    vm.id ∉ s.handed ∧ s'.handed = vm.id :: s.handed ∧ Fleet.Adds r vm.id s.toFleet s'.toFleet
  | .deploy r, s, .error f, s' => (s' = s ∧ f.vmId.filter (· ≠ "") = none) ∨
    ∃ vmId, vmId ∉ s.handed ∧ s'.handed = vmId :: s.handed ∧
      (s'.toFleet = s.toFleet ∨ Fleet.Adds r vmId s.toFleet s'.toFleet) ∧
        ∀ named, f.vmId.filter (· ≠ "") = some named → named = vmId
  | .tag r, s, .ok (), s' => s'.toFleet = s.tagged r ∧ s'.handed = s.handed
  | .tag _, s, .error _, s' => s' = s
  | .destroy r, s, .ok (), s' => s'.toFleet = s.without r.id ∧ s'.handed = s.handed
  | .destroy r, s, .error _, s' =>
    (s'.toFleet = s.without r.id ∨ s'.toFleet = s.toFleet) ∧ s'.handed = s.handed
  | .listProjects, s, _, s' | .listProfiles _, s, _, s' | .listDetails _, s, _, s'
  | .getOffering _, s, _, s' | .getZone _, s, _, s' => s' = s

/-- A change that is about one machine only. -/
structure Touches (vmId : String) (s s' : Estate) : Prop where
  handed : s.handed ⊆ s'.handed
  own : vmId ∈ s'.handed
  others : ∀ vm : VirtualMachine, vm.id ≠ vmId → (vm ∈ s'.machines ↔ vm ∈ s.machines)

variable {s s' : Estate} {vmId : String} {d : DeployRequest}

theorem touches_of_same (hfleet : s'.toFleet = s.toFleet) (hhanded : s'.handed = s.handed)
    (hv : vmId ∈ s.handed) : Touches vmId s s' :=
  ⟨hhanded ▸ List.Subset.refl _, hhanded ▸ hv, fun vm _ => by rw [hfleet]⟩

theorem touches_of_taken (hfleet : s'.toFleet = s.toFleet) (hhanded : s'.handed = vmId :: s.handed) :
    Touches vmId s s' :=
  ⟨hhanded ▸ List.subset_cons_self _ _, hhanded ▸ List.mem_cons_self, fun vm _ => by rw [hfleet]⟩

theorem touches_of_adds (hadds : Fleet.Adds d vmId s.toFleet s'.toFleet)
    (hhanded : s'.handed = vmId :: s.handed) : Touches vmId s s' := by
  obtain ⟨made, rfl, -, -, hmachines⟩ := hadds
  refine ⟨hhanded ▸ List.subset_cons_self _ _, hhanded ▸ List.mem_cons_self, fun vm hvm => ?_⟩
  rw [hmachines, List.mem_append, List.mem_singleton]
  exact or_iff_left fun same => hvm (congrArg VirtualMachine.id same)

theorem touches_of_without (hfleet : s'.toFleet = s.without vmId) (hhanded : s'.handed = s.handed)
    (hv : vmId ∈ s.handed) : Touches vmId s s' := by
  refine ⟨hhanded ▸ List.Subset.refl _, hhanded ▸ hv, fun vm hvm => ?_⟩
  rw [hfleet, Fleet.without, List.mem_filter, decide_eq_true_eq]
  exact and_iff_left hvm

theorem touches_of_tagged {t : TagRequest} (hids : t.resourceIds = [vmId])
    (hfleet : s'.toFleet = s.tagged t) (hhanded : s'.handed = s.handed) (hv : vmId ∈ s.handed) :
    Touches vmId s s' := by
  refine ⟨hhanded ▸ List.Subset.refl _, hhanded ▸ hv, fun vm hvm => ?_⟩
  rw [hfleet]
  change vm ∈ Backend.tagged t s.machines ↔ _
  rw [Backend.tagged, List.mem_map]
  constructor
  · intro h
    obtain ⟨old, hold, hsame⟩ := h
    by_cases hid : t.resourceIds.contains old.id = true
    · rw [if_pos hid] at hsame
      rw [hids] at hid
      have hold : old.id = vmId := by simpa using hid
      exact absurd (hsame ▸ hold) hvm
    · rw [if_neg hid] at hsame
      exact hsame ▸ hold
  · intro h
    refine ⟨vm, h, if_neg ?_⟩
    rw [hids]
    simpa using hvm

end Estate

/-- Where a unit stands. -/
inductive Standing
  | begun
  | tagging (vmId : String)
  | leaving (vmId : String)
  | ended (result : Except Error String)

/-- The machine that a unit is responsible for. -/
def Standing.owned? : Standing → Option String
  | begun | ended (.error _) => none
  | tagging vmId | leaving vmId | ended (.ok vmId) => some vmId

namespace Provisioner

/-- What is left to be done when a machine is to go: it is destroyed, and the unit has failed. -/
def Leaves (p : Provisioner) (vmId : String) (t : Task (Except Error String)) : Prop :=
  ∃ next, t = .call (.destroy ⟨vmId, p.expunge⟩) next ∧ ∀ reply, ∃ e, next reply = .done (.error e)

/-- What is left to be done by a unit that stands somewhere. -/
def Stands (p : Provisioner) (d : GroupDefinition) : Standing → Task (Except Error String) → Prop
  | .begun, t => ∃ name, t = p.unit d name
  | .tagging vmId, t => ∃ next,
    t = .call (.tag ((TagRequest.ofDefinition d).forMachine vmId)) next ∧
      next (.ok ()) = .done (.ok vmId) ∧ ∀ e, p.Leaves vmId (next (.error e))
  | .leaving vmId, t => p.Leaves vmId t
  | .ended result, t => t = .done result

variable {p : Provisioner} {d : GroupDefinition}

theorem leaves_of_destroy {vmId : String} {next : Except Error Unit → Task (Except Error String)}
    (h : ∀ reply, ∃ e, next reply = .done (.error e)) : p.Leaves vmId (p.destroy vmId >>= next) := by
  refine ⟨_, rfl, fun reply => ?_⟩
  cases reply with
  | ok u => exact h (.ok u)
  | error e => exact h (if e.isNotFound vmId then .ok () else .error e)

/-- A unit begins with a deployment. A machine that it gives is tagged, and one that a failure names is
destroyed. -/
theorem unit_deploys (p : Provisioner) (d : GroupDefinition) (name : String) :
    ∃ next, p.unit d name = .call (.deploy ((DeployRequest.ofDefinition d).withName name)) next ∧
      (∀ vm, p.Stands d (.tagging vm.id) (next (.ok vm))) ∧
      (∀ f, f.vmId.filter (· ≠ "") = none → ∃ e, next (.error f) = .done (.error e)) ∧
      ∀ f vmId, f.vmId.filter (· ≠ "") = some vmId → p.Leaves vmId (next (.error f)) := by
  refine ⟨_, rfl, ?_, ?_, ?_⟩
  · intro vm
    refine ⟨_, rfl, rfl, fun e => leaves_of_destroy fun reply => ?_⟩
    cases reply with
    | ok u => exact ⟨e, rfl⟩
    | error destroy => exact ⟨.tagCleanup destroy e, rfl⟩
  · intro f hnone
    obtain ⟨named, cause⟩ := f
    refine ⟨cause, ?_⟩
    simp only [Task.done_bind, hnone]
    rfl
  · intro f vmId hsome
    obtain ⟨named, cause⟩ := f
    simp only [Task.done_bind, hsome]
    refine leaves_of_destroy fun reply => ?_
    cases reply with
    | ok u => exact ⟨cause, rfl⟩
    | error destroy => exact ⟨.createCleanup destroy cause, rfl⟩

end Provisioner

/-- A machine as the units of a group leave it: in the project of the group and with its tags. -/
structure GroupDefinition.Member (d : GroupDefinition) (vm : VirtualMachine) : Prop where
  project : vm.projectId = d.project?
  tags : vm.tags = (TagRequest.ofDefinition d).tags.toList.map fun t => ⟨t.1, t.2⟩

/-- What holds while units work on an estate: those that are under way have a machine each or none, which no
other unit has, and apart from these machines nothing has changed since the start. -/
structure Tended (d : GroupDefinition) (start s : Estate) (standings : List Standing) : Prop where
  handed : start.handed ⊆ s.handed
  kept : ∀ vm : VirtualMachine, vm.id ∈ start.handed → (vm ∈ s.machines ↔ vm ∈ start.machines)
  owned : ∀ vmId ∈ standings.filterMap Standing.owned?, vmId ∈ s.handed ∧ vmId ∉ start.handed
  distinct : (standings.filterMap Standing.owned?).Nodup
  untagged : ∀ vm ∈ s.machines, vm.id ∉ start.handed → vm.tags = [] ∨ .ended (.ok vm.id) ∈ standings
  tagging : ∀ vmId, .tagging vmId ∈ standings →
    ∃ vm ∈ s.machines, vm.id = vmId ∧ vm.projectId = d.project? ∧ vm.tags = []
  members : ∀ vmId, .ended (.ok vmId) ∈ standings → ∃ vm ∈ s.machines, vm.id = vmId ∧ d.Member vm

namespace Tended

variable {d : GroupDefinition} {start s s' : Estate} {standings standings' rest : List Standing}
  {before after : Standing} {vmId : String}

theorem perm (h : Tended d start s standings) (hperm : standings.Perm standings') :
    Tended d start s standings' where
  handed := h.handed
  kept := h.kept
  owned v hv := h.owned v ((hperm.filterMap _).mem_iff.mpr hv)
  distinct := (hperm.filterMap _).nodup_iff.mp h.distinct
  untagged vm hvm hnew := (h.untagged vm hvm hnew).imp_right hperm.mem_iff.mp
  tagging v hv := h.tagging v (hperm.mem_iff.mpr hv)
  members v hv := h.members v (hperm.mem_iff.mpr hv)

theorem not_mem_rest (h : Tended d start s (before :: rest)) (hv : before.owned? = some vmId) :
    vmId ∈ s.handed ∧ vmId ∉ start.handed ∧ vmId ∉ rest.filterMap Standing.owned? := by
  obtain ⟨howned, hdistinct⟩ := And.intro h.owned h.distinct
  rw [List.filterMap_cons_some hv] at howned hdistinct
  obtain ⟨hhanded, hnew⟩ := howned vmId List.mem_cons_self
  exact ⟨hhanded, hnew, (List.nodup_cons.mp hdistinct).1⟩

/-- The machine of a unit has no tags before the unit is over. -/
theorem no_tags (h : Tended d start s (before :: rest)) (hv : before.owned? = some vmId)
    (hbefore : before ≠ .ended (.ok vmId)) {vm : VirtualMachine} (hvm : vm ∈ s.machines)
    (hid : vm.id = vmId) : vm.tags = [] := by
  obtain ⟨-, hnew, hrest⟩ := h.not_mem_rest hv
  subst hid
  refine (h.untagged vm hvm hnew).resolve_right fun hended => ?_
  have hin := (List.mem_cons.mp hended).resolve_left hbefore.symm
  exact hrest (List.mem_filterMap.mpr ⟨_, hin, rfl⟩)

/-- A unit goes on, with a change that is about its own machine. -/
theorem goesOn (h : Tended d start s (before :: rest)) (hbefore : ∀ v, before ≠ .ended (.ok v))
    (hnew : vmId ∉ start.handed) (hrest : vmId ∉ rest.filterMap Standing.owned?)
    (htouches : Estate.Touches vmId s s') (howned : ∀ v, after.owned? = some v → v = vmId)
    (huntagged : ∀ vm ∈ s'.machines, vm.id = vmId → vm.tags = [] ∨ after = .ended (.ok vmId))
    (htagging : after = .tagging vmId →
      ∃ vm ∈ s'.machines, vm.id = vmId ∧ vm.projectId = d.project? ∧ vm.tags = [])
    (hmember : after = .ended (.ok vmId) → ∃ vm ∈ s'.machines, vm.id = vmId ∧ d.Member vm) :
    Tended d start s' (after :: rest) := by
  -- The machines of the other units are not the one that is touched.
  have hothers : ∀ v ∈ rest.filterMap Standing.owned?, v ≠ vmId := by
    intro v hv same
    exact hrest (same ▸ hv)
  have hsublist : (rest.filterMap Standing.owned?).Sublist
      ((before :: rest).filterMap Standing.owned?) := (List.sublist_cons_self _ _).filterMap _
  have hmem {v : String} {x : Standing} (hx : x.owned? = some v) (hin : x ∈ rest) : v ≠ vmId :=
    hothers v (List.mem_filterMap.mpr ⟨x, hin, hx⟩)
  have hshape : (after :: rest).filterMap Standing.owned? = rest.filterMap Standing.owned? ∨
      (after :: rest).filterMap Standing.owned? = vmId :: rest.filterMap Standing.owned? := by
    cases hafter : after.owned? with
    | none => exact .inl (List.filterMap_cons_none hafter)
    | some v =>
      obtain rfl := howned v hafter
      exact .inr (List.filterMap_cons_some hafter)
  constructor
  case handed => exact List.Subset.trans h.handed htouches.handed
  case kept =>
    intro vm hvm
    have hne : vm.id ≠ vmId := fun same => hnew (same ▸ hvm)
    rw [htouches.others vm hne]
    exact h.kept vm hvm
  case owned =>
    have hold : ∀ v ∈ rest.filterMap Standing.owned?, v ∈ s'.handed ∧ v ∉ start.handed := by
      intro v hv
      obtain ⟨hhanded, hfresh⟩ := h.owned v (hsublist.subset hv)
      exact ⟨htouches.handed hhanded, hfresh⟩
    rcases hshape with hsame | hmore
    · rwa [hsame]
    · rw [hmore]
      exact List.forall_mem_cons.mpr ⟨⟨htouches.own, hnew⟩, hold⟩
  case distinct =>
    have hold := h.distinct.sublist hsublist
    rcases hshape with hsame | hmore
    · rwa [hsame]
    · rw [hmore]
      exact List.nodup_cons.mpr ⟨hrest, hold⟩
  case untagged =>
    intro vm hvm hfresh
    by_cases same : vm.id = vmId
    · subst same
      refine (huntagged vm hvm rfl).imp_right fun hafter => ?_
      rw [hafter]
      exact List.mem_cons_self
    · have hold := h.untagged vm ((htouches.others vm same).mp hvm) hfresh
      refine hold.imp_right fun hmem => ?_
      exact List.mem_cons_of_mem _ ((List.mem_cons.mp hmem).resolve_left (Ne.symm (hbefore _)))
  case tagging =>
    intro v hv
    rcases List.mem_cons.mp hv with hafter | hin
    · obtain rfl := howned v (by rw [← hafter]; rfl)
      exact htagging hafter.symm
    · obtain ⟨vm, hvm, rfl, hfacts⟩ := h.tagging v (List.mem_cons_of_mem _ hin)
      exact ⟨vm, (htouches.others vm (hmem rfl hin)).mpr hvm, rfl, hfacts⟩
  case members =>
    intro v hv
    rcases List.mem_cons.mp hv with hafter | hin
    · obtain rfl := howned v (by rw [← hafter]; rfl)
      exact hmember hafter.symm
    · obtain ⟨vm, hvm, rfl, hfacts⟩ := h.members v (List.mem_cons_of_mem _ hin)
      exact ⟨vm, (htouches.others vm (hmem rfl hin)).mpr hvm, rfl, hfacts⟩

/-- A deployment uses up a new id. Under that id there may be a machine then, without tags. -/
theorem deploys (h : Tended d start s (.begun :: rest)) {r : DeployRequest}
    (hproject : r.projectId = d.project?) (hfresh : vmId ∉ s.handed)
    (hhanded : s'.handed = vmId :: s.handed)
    (hchange : s'.toFleet = s.toFleet ∨ Fleet.Adds r vmId s.toFleet s'.toFleet)
    (howned : ∀ v, after.owned? = some v → v = vmId) (hended : after ≠ .ended (.ok vmId))
    (hmade : after = .tagging vmId → Fleet.Adds r vmId s.toFleet s'.toFleet) :
    Tended d start s' (after :: rest) := by
  have hunknown : ∀ vm ∈ s.machines, vm.id ≠ vmId := by
    intro vm hvm same
    exact hfresh (same ▸ s.known vm hvm)
  have htouches : Estate.Touches vmId s s' := by
    rcases hchange with hsame | hadds
    · exact Estate.touches_of_taken hsame hhanded
    · exact Estate.touches_of_adds hadds hhanded
  refine h.goesOn (fun v hv => nomatch hv) (fun hv => hfresh (h.handed hv)) ?_ htouches howned ?_ ?_
    (fun hafter => absurd hafter hended)
  · intro hmem
    exact hfresh (h.owned vmId hmem).1
  · intro vm hvm hid
    left
    rcases hchange with hsame | ⟨made, -, -, htags, hmachines⟩
    · rw [hsame] at hvm
      exact absurd hid (hunknown vm hvm)
    · rw [hmachines, List.mem_append, List.mem_singleton] at hvm
      rcases hvm with hold | rfl
      · exact absurd hid (hunknown vm hold)
      · exact htags
  · intro hafter
    obtain ⟨made, hid, hin, htags, hmachines⟩ := hmade hafter
    refine ⟨made, ?_, hid, hin.trans hproject, htags⟩
    rw [hmachines]
    exact List.mem_append_right _ (List.mem_singleton_self made)

/-- A machine that was made gets its tags. -/
theorem tags (h : Tended d start s (.tagging vmId :: rest))
    (hfleet : s'.toFleet = s.tagged ((TagRequest.ofDefinition d).forMachine vmId))
    (hhanded : s'.handed = s.handed) : Tended d start s' (.ended (.ok vmId) :: rest) := by
  obtain ⟨hin, hnew, hrest⟩ := h.not_mem_rest rfl
  obtain ⟨vm, hvm, rfl, hproject, htags⟩ := h.tagging vmId List.mem_cons_self
  have htouches := Estate.touches_of_tagged rfl hfleet hhanded hin
  refine h.goesOn (fun v hv => nomatch hv) hnew hrest htouches (fun v hv => (Option.some.inj hv).symm)
    (fun _ _ _ => .inr rfl) (fun hafter => nomatch hafter) fun _ => ?_
  refine ⟨Backend.addTags (TagRequest.ofDefinition d).tags vm, ?_, rfl, hproject, ?_⟩
  · rw [hfleet]
    refine List.mem_map.mpr ⟨vm, hvm, if_pos ?_⟩
    exact List.contains_iff_mem.mpr (List.mem_singleton_self vm.id)
  · change vm.tags ++ _ = _
    rw [htags]
    rfl

/-- A machine that was not tagged is to go. -/
theorem abandons (h : Tended d start s (.tagging vmId :: rest)) :
    Tended d start s (.leaving vmId :: rest) := by
  obtain ⟨hin, hnew, hrest⟩ := h.not_mem_rest rfl
  have htouches : Estate.Touches vmId s s := Estate.touches_of_same rfl rfl hin
  refine h.goesOn (fun v hv => nomatch hv) hnew hrest htouches (fun v hv => (Option.some.inj hv).symm)
    ?_ (fun hafter => nomatch hafter) (fun hafter => nomatch hafter)
  intro vm hvm hid
  left
  exact h.no_tags rfl (fun hbefore => nomatch hbefore) hvm hid

/-- A machine goes, or cannot be destroyed. Either way it is no member. -/
theorem leaves (h : Tended d start s (.leaving vmId :: rest)) {e : Error}
    (hchange : s'.toFleet = s.without vmId ∨ s'.toFleet = s.toFleet)
    (hhanded : s'.handed = s.handed) : Tended d start s' (.ended (.error e) :: rest) := by
  obtain ⟨hin, hnew, hrest⟩ := h.not_mem_rest rfl
  have htouches : Estate.Touches vmId s s' := by
    rcases hchange with hgone | hsame
    · exact Estate.touches_of_without hgone hhanded hin
    · exact Estate.touches_of_same hsame hhanded hin
  refine h.goesOn (fun v hv => nomatch hv) hnew hrest htouches (fun v hv => nomatch hv)
    ?_ (fun hafter => nomatch hafter) (fun hafter => nomatch hafter)
  intro vm hvm hid
  left
  have hold : vm ∈ s.machines := by
    rcases hchange with hgone | hsame
    · rw [hgone] at hvm
      exact List.mem_of_mem_filter hvm
    · rwa [hsame] at hvm
  exact h.no_tags rfl (fun hbefore => nomatch hbefore) hold hid

/-- A unit whose deployment fails without a trace is over. -/
theorem stops (h : Tended d start s (.begun :: rest)) (e : Error) :
    Tended d start s (.ended (.error e) :: rest) := by
  have hmem {x : Standing} (hx : x ≠ .ended (.error e)) (hin : x ∈ .ended (.error e) :: rest) :
      x ∈ .begun :: rest :=
    List.mem_cons_of_mem _ ((List.mem_cons.mp hin).resolve_left hx)
  have hmem' {x : Standing} (hx : x ≠ .begun) (hin : x ∈ .begun :: rest) :
      x ∈ .ended (.error e) :: rest :=
    List.mem_cons_of_mem _ ((List.mem_cons.mp hin).resolve_left hx)
  constructor
  case handed => exact h.handed
  case kept => exact h.kept
  case owned => exact h.owned
  case distinct => exact h.distinct
  case untagged =>
    intro vm hvm hnew
    exact (h.untagged vm hvm hnew).imp_right (hmem' (fun same => nomatch same))
  case tagging =>
    intro v hv
    exact h.tagging v (hmem (fun same => nomatch same) hv)
  case members =>
    intro v hv
    exact h.members v (hmem (fun same => nomatch same) hv)

/-- A unit that is replied to goes on, and the others are as they were. -/
theorem replied (h : Tended d start s (before :: rest)) {p : Provisioner} {c : Call}
    {next : c.Reply → Task (Except Error String)} (hstands : p.Stands d before (.call c next))
    {reply : c.Reply} (hanswer : Estate.Answers c s reply s') :
    ∃ after, p.Stands d after (next reply) ∧ Tended d start s' (after :: rest) := by
  cases before with
  | begun =>
    obtain ⟨name, hunit⟩ := hstands
    obtain ⟨next', hdeploys, hok, hnone, hsome⟩ := Provisioner.unit_deploys p d name
    cases hunit.trans hdeploys
    cases reply with
    | ok vm =>
      obtain ⟨hfresh, hhanded, hadds⟩ := hanswer
      refine ⟨.tagging vm.id, hok vm, ?_⟩
      exact h.deploys rfl hfresh hhanded (.inr hadds) (fun v hv => (Option.some.inj hv).symm)
        (fun hafter => nomatch hafter) fun _ => hadds
    | error f =>
      rcases hanswer with ⟨rfl, hunnamed⟩ | ⟨vmId, hfresh, hhanded, hchange, hnamed⟩
      · obtain ⟨e, hend⟩ := hnone f hunnamed
        exact ⟨.ended (.error e), hend, h.stops e⟩
      · cases hfilter : f.vmId.filter (· ≠ "") with
        | none =>
          obtain ⟨e, hend⟩ := hnone f hfilter
          refine ⟨.ended (.error e), hend, ?_⟩
          exact h.deploys rfl hfresh hhanded hchange (fun v hv => nomatch hv)
            (fun hafter => nomatch hafter) (fun hafter => nomatch hafter)
        | some named =>
          obtain rfl := hnamed named hfilter
          refine ⟨.leaving named, hsome f named hfilter, ?_⟩
          exact h.deploys rfl hfresh hhanded hchange (fun v hv => (Option.some.inj hv).symm)
            (fun hafter => nomatch hafter) (fun hafter => nomatch hafter)
  | tagging vmId =>
    obtain ⟨next', htag, hok, herror⟩ := hstands
    cases htag
    cases reply with
    | ok u => exact ⟨.ended (.ok vmId), hok, h.tags hanswer.1 hanswer.2⟩
    | error e =>
      cases hanswer
      exact ⟨.leaving vmId, herror e, h.abandons⟩
  | leaving vmId =>
    obtain ⟨next', hdestroy, hend⟩ := hstands
    cases hdestroy
    obtain ⟨e, he⟩ := hend reply
    refine ⟨.ended (.error e), he, ?_⟩
    cases reply with
    | ok u => exact h.leaves (.inl hanswer.1) hanswer.2
    | error cause => exact h.leaves hanswer.1 hanswer.2
  | ended result => cases hstands

/-- Before the units begin, nothing has changed. -/
theorem untouched (d : GroupDefinition) (s : Estate) (h : ∀ x ∈ standings, x = .begun) :
    Tended d s s standings := by
  have hnone : standings.filterMap Standing.owned? = [] :=
    List.filterMap_eq_nil_iff.mpr fun x hx => by
      rw [h x hx]
      rfl
  constructor
  case handed => exact List.Subset.refl _
  case kept => exact fun vm _ => Iff.rfl
  case owned =>
    rw [hnone]
    exact List.forall_mem_nil _
  case distinct =>
    rw [hnone]
    exact List.nodup_nil
  case untagged => exact fun vm hvm hnew => absurd (s.known vm hvm) hnew
  case tagging => exact fun v hv => nomatch h _ hv
  case members => exact fun v hv => nomatch h _ hv

end Tended

/-- Units at work on an estate, each with what it still has to do. -/
def Estate.Works (p : Provisioner) (d : GroupDefinition) (start s : Estate)
    (tasks : List (Task (Except Error String))) : Prop :=
  ∃ units : List (Standing × Task (Except Error String)), units.map Prod.snd = tasks ∧
    (∀ x ∈ units, p.Stands d x.1 x.2) ∧ Tended d start s (units.map Prod.fst)

namespace Estate

variable {p : Provisioner} {d : GroupDefinition} {start s s' : Estate}

theorem Works.replied {tasks : List (Task (Except Error String))} (h : Works p d start s tasks)
    {i : Nat} {c : Call} {next : c.Reply → Task (Except Error String)}
    (hi : tasks[i]? = some (.call c next)) {reply : c.Reply} (hanswer : Answers c s reply s') :
    Works p d start s' (tasks.set i (next reply)) := by
  obtain ⟨units, rfl, hstands, htended⟩ := h
  rw [List.getElem?_map] at hi
  obtain ⟨⟨before, task⟩, hunit, hcall⟩ := Option.map_eq_some_iff.mp hi
  dsimp only at hcall
  subst hcall
  obtain ⟨hlt, hget⟩ := List.getElem?_eq_some_iff.mp hunit
  have hlt' : i < (units.map Prod.fst).length := by simpa using hlt
  have hbefore : (units.map Prod.fst)[i] = before := by simp [hget]
  -- The order of the units does not matter, so the one that is replied to may come first.
  have hfirst := (List.getElem_cons_eraseIdx_perm hlt').symm
  rw [hbefore] at hfirst
  have hunitStands : p.Stands d before (.call c next) := hstands _ (hget ▸ List.getElem_mem hlt)
  obtain ⟨after, hafter, hlater⟩ := (htended.perm hfirst).replied hunitStands hanswer
  refine ⟨units.set i (after, next reply), List.map_set, ?_, ?_⟩
  · intro x hx
    rcases List.mem_or_eq_of_mem_set hx with hold | rfl
    · exact hstands x hold
    · exact hafter
  · rw [List.map_set]
    exact hlater.perm (List.set_perm_cons_eraseIdx hlt' after).symm

end Estate

theorem Provisioner.stands_of_done {p : Provisioner} {d : GroupDefinition} {x : Standing}
    {result : Except Error String} (h : p.Stands d x (.done result)) : x = .ended result := by
  cases x with
  | begun =>
    obtain ⟨name, hunit⟩ := h
    obtain ⟨next, hdeploys, -⟩ := unit_deploys p d name
    cases hunit.trans hdeploys
  | tagging vmId =>
    obtain ⟨next, htag, -⟩ := h
    cases htag
  | leaving vmId =>
    obtain ⟨next, hdestroy, -⟩ := h
    cases hdestroy
  | ended result' =>
    cases h
    rfl

theorem Provisioner.standings_of_done {p : Provisioner} {d : GroupDefinition}
    {units : List (Standing × Task (Except Error String))} {results : List (Except Error String)}
    (htasks : units.map Prod.snd = results.map .done) (hstands : ∀ x ∈ units, p.Stands d x.1 x.2) :
    units.map Prod.fst = results.map .ended := by
  induction units generalizing results with
  | nil =>
    rw [List.map_eq_nil_iff.mp htasks.symm]
    rfl
  | cons x units ih =>
    obtain ⟨result, others, rfl, hfirst, hothers⟩ := List.map_eq_cons_iff.mp htasks.symm
    obtain ⟨hx, hrest⟩ := List.forall_mem_cons.mp hstands
    rw [← hfirst] at hx
    rw [List.map_cons, List.map_cons, stands_of_done hx, ih hothers.symm hrest]

/-- When all units are over, the machines they made are those that their results name. -/
theorem Estate.tended_of_ends {p : Provisioner} {d : GroupDefinition} {s s' : Estate}
    {names : List String} {ms : List (Nat × Moment (Except Error String))}
    {results : List (Except Error String)}
    (h : Batch.Ends Answers s (names.map (p.unit d)) ms results s') :
    Tended d s s' (results.map .ended) := by
  have hbegin : Works p d s s (((names.map (p.unit d)).map Stage.ready).map Stage.task) := by
    refine ⟨names.map fun name => (.begun, p.unit d name), ?_, ?_, Tended.untouched d s ?_⟩
    · simp [Function.comp_def, Stage.task]
    · intro x hx
      obtain ⟨name, -, rfl⟩ := List.mem_map.mp hx
      exact ⟨name, rfl⟩
    · simp
  have hend : Works p d s s' ((results.map Stage.ended).map Stage.task) :=
    Batch.Run.preserves (fun _ _ _ _ _ _ _ hworks hi hanswer => hworks.replied hi hanswer) h hbegin
  obtain ⟨units, htasks, hstands, htended⟩ := hend
  rw [List.map_map] at htasks
  exact Provisioner.standings_of_done htasks hstands ▸ htended

end NodeGroups
