import NodeGroups.Engine.Discovery
import NodeGroups.Proofs.Maps
import NodeGroups.Proofs.Readings
import NodeGroups.Proofs.Steps

namespace NodeGroups

/-- Whether details make a profile a group: they have the required keys, and everything that one of the
selectors wants. Of a wanted pair without a value only the key counts. -/
def Selected (selectors : List LabelSelector) (details : List ResourceDetail) : Prop :=
  (∀ key ∈ ["nodeGroupName", "minNodes", "maxNodes"], (ResourceDetail.last? details key).isSome) ∧
    ∃ s ∈ selectors, ∀ pair ∈ s.wanted.toList,
      ∃ v ∈ ResourceDetail.last? details pair.1, pair.2 = "" ∨ v = pair.2

instance (selectors : List LabelSelector) (details : List ResourceDetail) :
    Decidable (Selected selectors details) :=
  inferInstanceAs (Decidable (_ ∧ _))

theorem Discovery.accepts_iff {selectors : List LabelSelector} {profile : AutoscaleProfile}
    {details : List ResourceDetail} :
    accepts selectors (.new profile (ResourceDetail.metadata details)) = true ↔
      Selected selectors details := by
  have hkeys : (GroupDefinition.new profile (ResourceDetail.metadata details)).hasRequiredMetadata =
      true ↔ ∀ key ∈ ["nodeGroupName", "minNodes", "maxNodes"],
        (ResourceDetail.last? details key).isSome := by
    rw [GroupDefinition.hasRequiredMetadata, List.all_eq_true]
    refine forall₂_congr fun key _ => ?_
    rw [← ResourceDetail.get?_metadata]
    rfl
  have hselector (s : LabelSelector) : s.accepts (ResourceDetail.metadata details) = true ↔
      ∀ pair ∈ s.wanted.toList,
        ∃ v ∈ ResourceDetail.last? details pair.1, pair.2 = "" ∨ v = pair.2 := by
    rw [LabelSelector.accepts, List.all_eq_true]
    refine forall₂_congr fun pair _ => ?_
    rw [ResourceDetail.get?_metadata]
    cases ResourceDetail.last? details pair.1 <;> simp
  have hany : LabelSelector.anyAccepts selectors (ResourceDetail.metadata details) = true ↔
      ∃ s ∈ selectors, s.accepts (ResourceDetail.metadata details) = true := List.any_eq_true
  rw [accepts, Bool.and_eq_true, hkeys, Selected]
  refine and_congr_right fun _ => hany.trans ?_
  exact exists_congr fun s => and_congr_right fun _ => hselector s

/-- The steps of reading a group. -/
def NodeGroup.readSteps (g : NodeGroup) (machines : Except Error (List VirtualMachine))
    (offering : Except Error ServiceOffering) (zone : Except Error Zone) : List Step :=
  [.read (.listMachines g.machinesRequest) machines,
    .read (.getOffering g.definition.profile.serviceOfferingId) offering,
    .read (.getZone g.definition.profile.zoneId) zone]

theorem NodeGroup.refresh_gathers_iff {g : NodeGroup} {es : List Event}
    {result : Except Error NodeGroup} : g.refresh.Gathers es result ↔ ∃ machines offering zone,
      es = Step.events (g.readSteps machines offering zone) ∧
        result = (Step.outcome (g.readSteps machines offering zone)).map fun () =>
          g.bound ⟨machines.toOption.getD default, offering.toOption.getD default,
            zone.toOption.getD default⟩ := by
  constructor
  · intro h
    obtain ⟨machines, _, rfl, hmachines⟩ := Program.gathers_call_iff.mp h
    cases machines with
    | error e =>
      obtain ⟨rfl, rfl⟩ := Program.gathers_done_iff.mp hmachines
      exact ⟨.error e, default, default, rfl, rfl⟩
    | ok machines =>
      obtain ⟨offering, _, rfl, hoffering⟩ := Program.gathers_call_iff.mp hmachines
      cases offering with
      | error e =>
        obtain ⟨rfl, rfl⟩ := Program.gathers_done_iff.mp hoffering
        exact ⟨.ok machines, .error e, default, rfl, rfl⟩
      | ok offering =>
        obtain ⟨zone, _, rfl, hzone⟩ := Program.gathers_call_iff.mp hoffering
        cases zone with
        | error e =>
          obtain ⟨rfl, rfl⟩ := Program.gathers_done_iff.mp hzone
          exact ⟨.ok machines, .ok offering, .error e, rfl, rfl⟩
        | ok zone =>
          obtain ⟨rfl, rfl⟩ := Program.gathers_done_iff.mp hzone
          exact ⟨.ok machines, .ok offering, .ok zone, rfl, rfl⟩
  · intro h
    obtain ⟨machines, offering, zone, rfl, rfl⟩ := h
    cases machines with
    | error e => exact ⟨_, _, .call rfl .done, rfl⟩
    | ok machines =>
      cases offering with
      | error e => exact ⟨_, _, .call rfl (.call rfl .done), rfl⟩
      | ok offering =>
        cases zone with
        | error e => exact ⟨_, _, .call rfl (.call rfl (.call rfl .done)), rfl⟩
        | ok zone => exact ⟨_, _, .call rfl (.call rfl (.call rfl .done)), rfl⟩

/-- What there is to be read about a profile. Not all of it has to be read. -/
structure ProfileReads where
  profile : AutoscaleProfile
  details : Except Error (List ResourceDetail)
  machines : Except Error (List VirtualMachine)
  offering : Except Error ServiceOffering
  zone : Except Error Zone

namespace ProfileReads

def found (x : ProfileReads) : List ResourceDetail := x.details.toOption.getD []

def accepted (selectors : List LabelSelector) (x : ProfileReads) : Bool :=
  decide (Selected selectors x.found)

def name (x : ProfileReads) : String :=
  (ResourceDetail.last? x.found "nodeGroupName").getD ""

/-- The group of a profile before it is read. -/
def unread (x : ProfileReads) : NodeGroup :=
  .new (.new x.profile (ResourceDetail.metadata x.found))

/-- The group of a profile, bound to what is read about it. -/
def group (x : ProfileReads) : NodeGroup :=
  x.unread.bound ⟨x.machines.toOption.getD default, x.offering.toOption.getD default,
    x.zone.toOption.getD default⟩

/-- The failure of a profile whose name an earlier one has. -/
def clash? (earlier : List ProfileReads) (x : ProfileReads) : Option Error :=
  (earlier.find? fun y => y.name = x.name).map fun y =>
    .duplicateNodeGroup x.name x.profile.id y.profile.id

/-- The steps of taking on a profile after those accepted earlier. -/
def steps (selectors : List LabelSelector) (earlier : List ProfileReads) (x : ProfileReads) :
    List Step :=
  .read (.listDetails ⟨"AutoScaleVmProfile", x.profile.id⟩) x.details ::
    if x.accepted selectors then
      .check (x.clash? earlier) :: x.unread.readSteps x.machines x.offering x.zone
    else []

def after (selectors : List LabelSelector) (earlier : List ProfileReads) (x : ProfileReads) :
    List ProfileReads :=
  earlier ++ [x].filter (accepted selectors)

theorem group_id (x : ProfileReads) : x.group.id = x.name := by
  change ((ResourceDetail.metadata x.found).get? "nodeGroupName").getD "" = _
  rw [ResourceDetail.get?_metadata, name]

theorem profile_surjective : Function.Surjective profile := fun p =>
  ⟨⟨p, default, default, default, default⟩, rfl⟩

end ProfileReads

namespace Discovery

variable {selectors : List LabelSelector} {earlier : List ProfileReads} {es : List Event}

theorem named?_groups (earlier : List ProfileReads) (name : String) :
    named? (earlier.map ProfileReads.group) name =
      (earlier.find? fun y => y.name = name).map ProfileReads.group := by
  rw [named?, List.find?_map]
  congr 2
  funext y
  simp only [Function.comp_apply, y.group_id]

/-- What is done with a profile once its details are known. -/
def takeOn (selectors : List LabelSelector) (found : Found) (d : GroupDefinition) :
    Program (Except Error Unit × Found) :=
  if accepts selectors d then
    match named? found d.name with
    | some other => .done
        (.error (.duplicateNodeGroup d.name d.profile.id other.definition.profile.id), found)
    | none => (NodeGroup.new d).refresh.andThen (fun _ => found) fun g => .done (.ok (), found ++ [g])
  else .done (.ok (), found)

theorem addProfile_eq (selectors : List LabelSelector) (found : Found) (profile : AutoscaleProfile) :
    addProfile selectors found profile = .call (.listDetails (.ofProfile profile.id)) fun
      | .error e => .done (.error e, found)
      | .ok details => takeOn selectors found (.new profile (ResourceDetail.metadata details)) := by
  refine congrArg (Program.call _) (funext fun reply => ?_)
  cases reply with
  | error e => rfl
  | ok details =>
    change (if _ then _ else _) = takeOn _ _ _
    rw [takeOn]
    cases accepts selectors (.new profile (ResourceDetail.metadata details)) with
    | false => rfl
    | true =>
      simp only [Bool.not_true, Bool.false_eq_true, if_false, if_true]
      cases named? found (GroupDefinition.new profile (ResourceDetail.metadata details)).name with
      | some other => rfl
      | none =>
        refine congrArg (Program.bind _) (funext fun x => ?_)
        obtain ⟨read, g⟩ := x
        cases read <;> rfl

theorem takeOn_gathers_iff {profile : AutoscaleProfile} {details : List ResourceDetail}
    {result : Except Error Found} :
    (takeOn selectors (earlier.map ProfileReads.group)
        (.new profile (ResourceDetail.metadata details))).Gathers es result ↔
      ∃ machines offering zone,
        es = Step.events (ProfileReads.steps selectors earlier
          ⟨profile, .ok details, machines, offering, zone⟩).tail ∧
        result = (Step.outcome (ProfileReads.steps selectors earlier
          ⟨profile, .ok details, machines, offering, zone⟩).tail).map fun () =>
            (ProfileReads.after selectors earlier
              ⟨profile, .ok details, machines, offering, zone⟩).map ProfileReads.group := by
  let x : ProfileReads := ⟨profile, .ok details, default, default, default⟩
  have hname : (GroupDefinition.new profile (ResourceDetail.metadata details)).name = x.name :=
    x.group_id
  by_cases hselected : Selected selectors details
  · -- Whether a profile is accepted and whether its name is free is known from its details.
    have haccepted : decide (Selected selectors details) = true := decide_eq_true hselected
    have htail (machines offering zone) : (ProfileReads.steps selectors earlier
        ⟨profile, .ok details, machines, offering, zone⟩).tail =
          .check (x.clash? earlier) :: x.unread.readSteps machines offering zone :=
      if_pos haccepted
    have hafter (machines offering zone) : ProfileReads.after selectors earlier
        ⟨profile, .ok details, machines, offering, zone⟩ =
          earlier ++ [⟨profile, .ok details, machines, offering, zone⟩] :=
      congrArg (earlier ++ ·) (List.filter_cons_of_pos haccepted)
    simp only [htail, hafter]
    rw [takeOn, if_pos (accepts_iff.mpr hselected), hname, named?_groups]
    cases hfirst : earlier.find? fun y => y.name = x.name with
    | some y =>
      have hclash : x.clash? earlier =
          some (.duplicateNodeGroup x.name profile.id y.profile.id) := by
        rw [ProfileReads.clash?, hfirst]
        rfl
      have hfails : (Step.check (x.clash? earlier)).failure? =
          some (.duplicateNodeGroup x.name profile.id y.profile.id) := hclash
      simp only [Step.outcome_cons_of_some hfails, Step.events_cons_of_some hfails]
      rw [Option.map_some, Program.gathers_done_iff]
      exact ⟨fun h => ⟨default, default, default, h⟩, fun ⟨_, _, _, h⟩ => h⟩
    | none =>
      have hclash : x.clash? earlier = none := by
        rw [ProfileReads.clash?, hfirst]
        rfl
      have hclear : (Step.check (x.clash? earlier)).failure? = none := hclash
      simp only [Step.outcome_cons_of_none hclear, Step.events_cons_of_none hclear]
      rw [Option.map_none, Program.gathers_andThen_done_iff]
      have hbound (machines offering zone) :
          ((Step.outcome (x.unread.readSteps machines offering zone)).map fun () =>
            x.unread.bound ⟨machines.toOption.getD default, offering.toOption.getD default,
              zone.toOption.getD default⟩).map (earlier.map ProfileReads.group ++ [·]) =
          (Step.outcome (x.unread.readSteps machines offering zone)).map fun () =>
            (earlier ++ [(⟨profile, .ok details, machines, offering, zone⟩ : ProfileReads)]).map
              ProfileReads.group := by
        rw [List.map_append]
        cases Step.outcome (x.unread.readSteps machines offering zone) <;> rfl
      constructor
      · intro h
        obtain ⟨gathered, hread, rfl⟩ := h
        obtain ⟨machines, offering, zone, rfl, rfl⟩ := NodeGroup.refresh_gathers_iff.mp hread
        exact ⟨machines, offering, zone, rfl, hbound machines offering zone⟩
      · intro h
        obtain ⟨machines, offering, zone, rfl, rfl⟩ := h
        have hread : x.unread.refresh.Gathers _ _ :=
          NodeGroup.refresh_gathers_iff.mpr ⟨machines, offering, zone, rfl, rfl⟩
        exact ⟨_, hread, (hbound machines offering zone).symm⟩
  · have hrefused : decide (Selected selectors details) = false := decide_eq_false hselected
    have htail (machines offering zone) : (ProfileReads.steps selectors earlier
        ⟨profile, .ok details, machines, offering, zone⟩).tail = [] :=
      if_neg (Bool.eq_false_iff.mp hrefused)
    have hafter (machines offering zone) : ProfileReads.after selectors earlier
        ⟨profile, .ok details, machines, offering, zone⟩ = earlier :=
      (congrArg (earlier ++ ·) (List.filter_cons_of_neg (Bool.eq_false_iff.mp hrefused))).trans
        (List.append_nil earlier)
    simp only [htail, hafter]
    rw [takeOn, if_neg (mt accepts_iff.mp hselected), Program.gathers_done_iff]
    exact ⟨fun h => ⟨default, default, default, h⟩, fun ⟨_, _, _, h⟩ => h⟩

theorem addProfile_gathers_iff {profile : AutoscaleProfile} {result : Except Error Found} :
    (addProfile selectors (earlier.map ProfileReads.group) profile).Gathers es result ↔
      ∃ x : ProfileReads, x.profile = profile ∧ es = Step.events (x.steps selectors earlier) ∧
        result = (Step.outcome (x.steps selectors earlier)).map fun () =>
          (x.after selectors earlier).map ProfileReads.group := by
  rw [addProfile_eq, Program.gathers_call_iff]
  constructor
  · intro h
    obtain ⟨reply, rest, rfl, hrest⟩ := h
    cases reply with
    | error e =>
      obtain ⟨rfl, rfl⟩ := Program.gathers_done_iff.mp hrest
      exact ⟨⟨profile, .error e, default, default, default⟩, rfl, rfl, rfl⟩
    | ok details =>
      obtain ⟨machines, offering, zone, rfl, rfl⟩ := takeOn_gathers_iff.mp hrest
      exact ⟨⟨profile, .ok details, machines, offering, zone⟩, rfl, rfl, rfl⟩
  · intro h
    obtain ⟨⟨profile, reply, machines, offering, zone⟩, rfl, rfl, rfl⟩ := h
    cases reply with
    | error e => exact ⟨.error e, [], rfl, Program.gathers_done_iff.mpr ⟨rfl, rfl⟩⟩
    | ok details =>
      exact ⟨.ok details, _, rfl, takeOn_gathers_iff.mpr ⟨machines, offering, zone, rfl, rfl⟩⟩

theorem addProfiles_eq (selectors : List LabelSelector) (profiles : List AutoscaleProfile)
    (found : Found) :
    addProfiles selectors profiles found = Program.inTurn (addProfile selectors) profiles found := by
  induction profiles generalizing found with
  | nil => rfl
  | cons profile profiles ih =>
    rw [addProfiles, Program.inTurn]
    refine congrArg (Program.bind _) (funext fun x => ?_)
    obtain ⟨added, found⟩ := x
    cases added with
    | error e => rfl
    | ok u => exact ih found

end Discovery

/-- What there is to be read about a scope: the root scope, or a project. -/
structure ScopeReads where
  project : String
  profiles : Except Error (List ProfileReads)

namespace ScopeReads

def found (y : ScopeReads) : List ProfileReads := y.profiles.toOption.getD []

/-- The steps of taking on the profiles of a scope after those accepted earlier. -/
def steps (selectors : List LabelSelector) (earlier : List ProfileReads) (y : ScopeReads) :
    List Step :=
  .read (.listProfiles (.inProject y.project)) (y.profiles.map (List.map ProfileReads.profile)) ::
    Step.inOrder (ProfileReads.steps selectors) (ProfileReads.after selectors) earlier y.found

def after (selectors : List LabelSelector) (earlier : List ProfileReads) (y : ScopeReads) :
    List ProfileReads :=
  y.found.foldl (ProfileReads.after selectors) earlier

theorem project_surjective : Function.Surjective project := fun id => ⟨⟨id, default⟩, rfl⟩

end ScopeReads

namespace Discovery

variable {selectors : List LabelSelector} {earlier : List ProfileReads} {es : List Event}

theorem visitProject_gathers_iff {project : String} {result : Except Error Found} :
    (visitProject selectors (earlier.map ProfileReads.group) project).Gathers es result ↔
      ∃ y : ScopeReads, y.project = project ∧ es = Step.events (y.steps selectors earlier) ∧
        result = (Step.outcome (y.steps selectors earlier)).map fun () =>
          (y.after selectors earlier).map ProfileReads.group := by
  have hprofiles {profiles : List AutoscaleProfile} {es : List Event} {result : Except Error Found} :
      (Program.inTurn (addProfile selectors) profiles (earlier.map ProfileReads.group)).Gathers es
        result ↔ _ :=
    Program.gathers_inTurn_iff (ProfileReads.steps selectors) (ProfileReads.after selectors)
      (List.map ProfileReads.group)
      ProfileReads.profile_surjective fun _ _ _ _ => addProfile_gathers_iff
  refine Program.gathers_call_iff.trans ?_
  constructor
  · intro h
    obtain ⟨reply, rest, rfl, hrest⟩ := h
    cases reply with
    | error e =>
      obtain ⟨rfl, rfl⟩ := Program.gathers_done_iff.mp hrest
      exact ⟨⟨project, .error e⟩, rfl, rfl, rfl⟩
    | ok profiles =>
      change (addProfiles selectors profiles _).Gathers rest result at hrest
      rw [addProfiles_eq] at hrest
      obtain ⟨known, rfl, rfl, rfl⟩ := hprofiles.mp hrest
      exact ⟨⟨project, .ok known⟩, rfl, rfl, rfl⟩
  · intro h
    obtain ⟨⟨project, reply⟩, rfl, rfl, rfl⟩ := h
    cases reply with
    | error e => exact ⟨.error e, [], rfl, Program.gathers_done_iff.mpr ⟨rfl, rfl⟩⟩
    | ok known =>
      refine ⟨.ok (known.map ProfileReads.profile), _, rfl, ?_⟩
      change (addProfiles selectors (known.map ProfileReads.profile) _).Gathers _ _
      rw [addProfiles_eq]
      exact hprofiles.mpr ⟨known, rfl, rfl, rfl⟩

theorem visitAll_eq {σ : Type} (visit : σ → String → Program (Except Error Unit × σ))
    (ids : List String) (s : σ) : ProjectCache.visitAll visit ids s = Program.inTurn visit ids s := by
  induction ids generalizing s with
  | nil => rfl
  | cons id ids ih =>
    rw [ProjectCache.visitAll, Program.inTurn]
    refine congrArg (Program.bind _) (funext fun x => ?_)
    obtain ⟨visited, s⟩ := x
    cases visited with
    | error e => rfl
    | ok u => exact ih s

end Discovery
end NodeGroups
