import NodeGroups.Proofs.Surveys

namespace NodeGroups

namespace ProjectCache

variable {cache cache' : ProjectCache} {es : List Event} {ended : Except Error Unit}

/-- Whether the projects are listed at a moment. -/
def isDue (cache : ProjectCache) (now : Nat) : Bool := cache.enabled && !cache.isFresh now

def glances (cache : ProjectCache) (now : Nat) : List Event :=
  if cache.enabled then [.clock now] else []

def listSteps (cache : ProjectCache) (now : Nat) (projects : Except Error (List Project)) :
    List Step :=
  if cache.isDue now then [.read .listProjects projects] else []

/-- The cache after the projects were listed, if that is due. -/
def listed (cache : ProjectCache) (now : Nat) (projects : Except Error (List Project)) :
    ProjectCache :=
  match projects with
  | .error _ => cache
  | .ok projects =>
    if cache.isDue now then { cache with projects, lastRefreshed := some now } else cache

theorem refresh_run_iff : cache.refresh.Run Cloud.any () es (ended, cache') () ↔
    ∃ now projects, es = cache.glances now ++ Step.events (cache.listSteps now projects) ∧
      ended = Step.outcome (cache.listSteps now projects) ∧ cache' = cache.listed now projects := by
  unfold refresh glances listSteps listed isDue
  cases henabled : cache.enabled with
  | false =>
    simp only [Bool.not_false, if_true, Bool.false_and, Bool.false_eq_true, if_false]
    constructor
    · intro h
      obtain ⟨rfl, hpair, -⟩ := Program.run_done_iff.mp h
      cases hpair
      exact ⟨0, default, rfl, rfl, rfl⟩
    · intro h
      obtain ⟨now, projects, rfl, rfl, rfl⟩ := h
      cases projects <;> exact .done
  | true =>
    simp only [Bool.not_true, Bool.false_eq_true, if_false, Bool.true_and, if_true]
    constructor
    · intro h
      cases h with
      | @clock _ now _ _ _ _ rest =>
        refine ⟨now, ?_⟩
        cases hfresh : cache.isFresh now with
        | true =>
          simp only [Program.done_bind, hfresh, if_true] at rest
          obtain ⟨rfl, hpair, -⟩ := Program.run_done_iff.mp rest
          cases hpair
          exact ⟨default, rfl, rfl, rfl⟩
        | false =>
          simp only [Program.done_bind, hfresh] at rest
          cases rest with
          | @call _ _ projects _ _ _ _ _ change rest =>
            refine ⟨projects, ?_⟩
            cases projects with
            | error e =>
              obtain ⟨rfl, hpair, -⟩ := Program.run_done_iff.mp rest
              cases hpair
              exact ⟨rfl, rfl, rfl⟩
            | ok projects =>
              obtain ⟨rfl, hpair, -⟩ := Program.run_done_iff.mp rest
              cases hpair
              exact ⟨rfl, rfl, rfl⟩
    · intro h
      obtain ⟨now, projects, rfl, rfl, rfl⟩ := h
      refine .clock ?_
      cases hfresh : cache.isFresh now with
      | true =>
        simp only [Program.done_bind, hfresh, if_true]
        cases projects <;> exact .done
      | false =>
        simp only [Program.done_bind, hfresh]
        cases projects with
        | error e => exact .call rfl .done
        | ok projects => exact .call rfl .done

end ProjectCache

/-- What there is to be read in a search for groups: the moment of the glance at the clock, the projects,
and for each scope its profiles with all there is to be read about them. -/
structure Survey where
  now : Nat
  projects : Except Error (List Project)
  scopes : List ScopeReads

namespace Survey

/-- A survey of the root scope and then of the projects that are known once they were listed. -/
def Fits (survey : Survey) (cache : ProjectCache) : Prop :=
  survey.scopes.map ScopeReads.project = (cache.listed survey.now survey.projects).projectIds

def steps (survey : Survey) (cache : ProjectCache) (selectors : List LabelSelector) : List Step :=
  cache.listSteps survey.now survey.projects ++
    Step.inOrder (ScopeReads.steps selectors) (ScopeReads.after selectors) [] survey.scopes

def events (survey : Survey) (cache : ProjectCache) (selectors : List LabelSelector) : List Event :=
  cache.glances survey.now ++ Step.events (survey.steps cache selectors)

/-- The accepted profiles in the order in which they are walked past. -/
def accepted (survey : Survey) (selectors : List LabelSelector) : List ProfileReads :=
  (survey.scopes.flatMap ScopeReads.found).filter (ProfileReads.accepted selectors)

def result (survey : Survey) (cache : ProjectCache) (selectors : List LabelSelector) :
    Except Error (List NodeGroup) :=
  (Step.outcome (survey.steps cache selectors)).map fun () =>
    (survey.accepted selectors).map ProfileReads.group

end Survey

theorem ProfileReads.foldl_after (selectors : List LabelSelector) (earlier xs : List ProfileReads) :
    xs.foldl (after selectors) earlier = earlier ++ xs.filter (accepted selectors) := by
  induction xs generalizing earlier with
  | nil => exact (List.append_nil earlier).symm
  | cons x xs ih =>
    rw [List.foldl_cons, ih, after, List.append_assoc, ← List.filter_append]
    rfl

theorem ScopeReads.foldl_after (selectors : List LabelSelector) (earlier : List ProfileReads)
    (scopes : List ScopeReads) : scopes.foldl (after selectors) earlier =
      earlier ++ (scopes.flatMap found).filter (ProfileReads.accepted selectors) := by
  induction scopes generalizing earlier with
  | nil => exact (List.append_nil earlier).symm
  | cons y scopes ih =>
    rw [List.foldl_cons, ih, after, ProfileReads.foldl_after, List.append_assoc,
      ← List.filter_append]
    rfl

namespace Survey

variable {cache : ProjectCache} {e : Error}

/-- If the projects cannot be listed, no scope is visited. -/
theorem of_listing_error (survey : Survey) (selectors : List LabelSelector)
    (h : Step.outcome (cache.listSteps survey.now survey.projects) = .error e) :
    survey.events cache selectors =
        cache.glances survey.now ++ Step.events (cache.listSteps survey.now survey.projects) ∧
      survey.result cache selectors = .error e := by
  obtain ⟨houtcome, hevents⟩ := Step.outcome_append_of_error h
    (Step.inOrder (ScopeReads.steps selectors) (ScopeReads.after selectors) [] survey.scopes)
  rw [events, result, steps, houtcome, hevents]
  exact ⟨rfl, rfl⟩

/-- Once the projects are known, the scopes decide. -/
theorem of_listing_ok (survey : Survey) (selectors : List LabelSelector)
    (h : Step.outcome (cache.listSteps survey.now survey.projects) = .ok ()) :
    survey.events cache selectors =
        cache.glances survey.now ++ Step.events (cache.listSteps survey.now survey.projects) ++
          Step.events (Step.inOrder (ScopeReads.steps selectors) (ScopeReads.after selectors) []
            survey.scopes) ∧
      survey.result cache selectors =
        (Step.outcome (Step.inOrder (ScopeReads.steps selectors) (ScopeReads.after selectors) []
          survey.scopes)).map fun () =>
            (survey.scopes.foldl (ScopeReads.after selectors) []).map ProfileReads.group := by
  obtain ⟨houtcome, hevents⟩ := Step.outcome_append_of_ok h
    (Step.inOrder (ScopeReads.steps selectors) (ScopeReads.after selectors) [] survey.scopes)
  rw [events, result, steps, houtcome, hevents, ScopeReads.foldl_after, List.append_assoc]
  exact ⟨rfl, rfl⟩

end Survey

namespace Discovery

variable {cache cache' : ProjectCache} {selectors : List LabelSelector} {es : List Event}
  {result : Except Error (List NodeGroup)}

theorem discover_eq (cache : ProjectCache) (selectors : List LabelSelector) :
    discover cache selectors = cache.refresh.bind fun
      | (.error e, cache) => .done (.error e, cache)
      | (.ok (), cache) => (Program.inTurn (visitProject selectors) cache.projectIds []).bind
          fun x => .done (x.1.map fun () => x.2, cache) := by
  unfold discover ProjectCache.forEach
  simp only [Program.bind_eq, Program.bind_assoc]
  refine congrArg (Program.bind _) (funext fun x => ?_)
  obtain ⟨ended, cache⟩ := x
  cases ended with
  | error e => rfl
  | ok u =>
    simp only [visitAll_eq, Program.bind_assoc]
    refine congrArg (Program.bind _) (funext fun x => ?_)
    obtain ⟨visited, found⟩ := x
    cases visited <;> rfl

/-- A search begins with a look at the projects. Scopes are visited only if that did not fail. -/
theorem discover_run_parts : (discover cache selectors).Run Cloud.any () es (result, cache') () ↔
    ∃ first ended rest, es = first ++ rest ∧ cache.refresh.Run Cloud.any () first (ended, cache') () ∧
      ((∃ e, ended = .error e ∧ rest = [] ∧ result = .error e) ∨
        ended = .ok () ∧ (Program.inTurn (visitProject selectors) cache'.projectIds []).Gathers rest
          result) := by
  rw [discover_eq, Program.run_bind_iff]
  constructor
  · intro h
    obtain ⟨first, ⟨ended, cache₁⟩, _, rest, rfl, hrefresh, hrest⟩ := h
    cases ended with
    | error e =>
      obtain ⟨rfl, hpair, -⟩ := Program.run_done_iff.mp hrest
      cases hpair
      exact ⟨first, .error e, [], rfl, hrefresh, .inl ⟨e, rfl, rfl, rfl⟩⟩
    | ok u =>
      obtain ⟨visits, ⟨visited, found⟩, _, last, rfl, hvisits, hdone⟩ := Program.run_bind_iff.mp hrest
      obtain ⟨rfl, hpair, -⟩ := Program.run_done_iff.mp hdone
      cases hpair
      rw [List.append_nil]
      exact ⟨first, .ok (), visits, rfl, hrefresh, .inr ⟨rfl, visited, found, hvisits, rfl⟩⟩
  · intro h
    obtain ⟨first, ended, rest, rfl, hrefresh, hrest⟩ := h
    rcases hrest with ⟨e, rfl, rfl, rfl⟩ | ⟨rfl, visited, found, hvisits, rfl⟩
    · exact ⟨first, _, (), [], rfl, hrefresh, .done⟩
    · refine ⟨first, _, (), rest, rfl, hrefresh, Program.run_bind_iff.mpr ?_⟩
      exact ⟨rest, _, (), [], (List.append_nil rest).symm, hvisits, .done⟩

theorem discover_run_iff : (discover cache selectors).Run Cloud.any () es (result, cache') () ↔
    ∃ survey : Survey, survey.Fits cache ∧ es = survey.events cache selectors ∧
      result = survey.result cache selectors ∧ cache' = cache.listed survey.now survey.projects := by
  rw [discover_run_parts]
  have hscopes {ids : List String} {es : List Event} {result : Except Error Found} :
      (Program.inTurn (visitProject selectors) ids []).Gathers es result ↔ _ :=
    Program.gathers_inTurn_iff (ScopeReads.steps selectors) (ScopeReads.after selectors)
      (List.map ProfileReads.group) (k := [])
      ScopeReads.project_surjective fun _ _ _ _ => visitProject_gathers_iff
  constructor
  · intro h
    obtain ⟨first, ended, rest, rfl, hrefresh, hrest⟩ := h
    obtain ⟨now, projects, rfl, rfl, rfl⟩ := ProjectCache.refresh_run_iff.mp hrefresh
    rcases hrest with ⟨e, hlisted, rfl, rfl⟩ | ⟨hlisted, hvisits⟩
    · obtain ⟨scopes, hids⟩ := List.map_surjective_iff.mpr ScopeReads.project_surjective
        (cache.listed now projects).projectIds
      obtain ⟨hevents, hresult⟩ := Survey.of_listing_error ⟨now, projects, scopes⟩ selectors
        hlisted
      exact ⟨⟨now, projects, scopes⟩, hids, by rw [hevents, List.append_nil], hresult.symm, rfl⟩
    · obtain ⟨scopes, hids, rfl, rfl⟩ := hscopes.mp hvisits
      obtain ⟨hevents, hresult⟩ := Survey.of_listing_ok ⟨now, projects, scopes⟩ selectors
        hlisted
      exact ⟨⟨now, projects, scopes⟩, hids, hevents.symm, hresult.symm, rfl⟩
  · intro h
    obtain ⟨survey, hids, rfl, rfl, rfl⟩ := h
    cases hlisted : Step.outcome (cache.listSteps survey.now survey.projects) with
    | error e =>
      obtain ⟨hevents, hresult⟩ := survey.of_listing_error selectors hlisted
      have hrefresh := ProjectCache.refresh_run_iff.mpr ⟨_, _, rfl, hlisted.symm, rfl⟩
      exact ⟨_, .error e, [], by rw [hevents, List.append_nil], hrefresh, .inl ⟨e, rfl, rfl, hresult⟩⟩
    | ok u =>
      obtain ⟨hevents, hresult⟩ := survey.of_listing_ok selectors hlisted
      have hrefresh := ProjectCache.refresh_run_iff.mpr ⟨_, _, rfl, hlisted.symm, rfl⟩
      exact ⟨_, .ok (), _, hevents, hrefresh,
        .inr ⟨rfl, hscopes.mpr ⟨survey.scopes, hids, rfl, hresult⟩⟩⟩

end Discovery

/-- A step that is no check, or a check that goes well. -/
def Step.Clear (step : Step) : Prop := ∀ failure, step = .check failure → failure = none

theorem Step.clear_read (c : Call) (reply : c.Reply) : (read c reply).Clear := fun _ h => nomatch h

namespace ProfileReads

variable {selectors : List LabelSelector} {earlier : List ProfileReads} {x : ProfileReads}

def NamesDiffer (xs : List ProfileReads) : Prop := (xs.map name).Nodup

theorem namesDiffer_of_after (h : NamesDiffer (x.after selectors earlier)) : NamesDiffer earlier :=
  h.sublist ((List.sublist_append_left _ _).map name)

theorem clash?_eq_none_iff : x.clash? earlier = none ↔ ∀ y ∈ earlier, y.name ≠ x.name := by
  rw [clash?, Option.map_eq_none_iff, List.find?_eq_none]
  refine forall₂_congr fun y _ => ?_
  rw [decide_eq_true_eq]

/-- The check of a profile goes well exactly if its name is a new one. -/
theorem steps_clear_iff (h : NamesDiffer earlier) :
    (∀ step ∈ x.steps selectors earlier, step.Clear) ↔ NamesDiffer (x.after selectors earlier) := by
  cases haccepted : x.accepted selectors with
  | false =>
    have hsteps : x.steps selectors earlier =
        [.read (.listDetails ⟨"AutoScaleVmProfile", x.profile.id⟩) x.details] := by
      simp [steps, haccepted]
    have hafter : x.after selectors earlier = earlier := by simp [after, haccepted]
    rw [hsteps, hafter, List.forall_mem_singleton]
    exact ⟨fun _ => h, fun _ => Step.clear_read _ _⟩
  | true =>
    have hafter : x.after selectors earlier = earlier ++ [x] := by simp [after, haccepted]
    have hsteps : (∀ step ∈ x.steps selectors earlier, step.Clear) ↔ x.clash? earlier = none := by
      simp only [steps, haccepted, if_true, NodeGroup.readSteps, List.forall_mem_cons]
      constructor
      · intro hclear
        exact hclear.2.1 _ rfl
      · intro hnone
        refine ⟨Step.clear_read _ _, ?_, Step.clear_read _ _, Step.clear_read _ _,
          Step.clear_read _ _, List.forall_mem_nil _⟩
        intro failure hfailure
        cases hfailure
        exact hnone
    rw [hsteps, hafter, clash?_eq_none_iff, NamesDiffer, List.map_append, List.nodup_append]
    constructor
    · intro hnew
      refine ⟨h, List.pairwise_singleton _ _, ?_⟩
      intro name hname name' hname'
      obtain ⟨y, hy, rfl⟩ := List.mem_map.mp hname
      rw [List.mem_singleton.mp hname']
      exact hnew y hy
    · intro hnodup y hy
      exact hnodup.2.2 _ (List.mem_map_of_mem hy) _ (List.mem_singleton_self _)

/-- A profile that was read in full, with the group that is bound to what was read. -/
structure Bound (x : ProfileReads) : Prop where
  machines : x.machines = .ok x.group.machines
  offering : x.offering = .ok x.group.definition.offering
  zone : x.zone = .ok x.group.definition.zone

theorem bound_of_steps (haccepted : x.accepted selectors = true)
    (h : ∀ step ∈ x.steps selectors earlier, step.failure? = none) : x.Bound := by
  simp only [steps, haccepted, if_true, NodeGroup.readSteps, List.forall_mem_cons] at h
  obtain ⟨-, -, hmachines, hoffering, hzone, -⟩ := h
  obtain ⟨profile, details, machines, offering, zone⟩ := x
  constructor
  case machines =>
    cases machines with
    | error e => cases hmachines
    | ok machines => rfl
  case offering =>
    cases offering with
    | error e => cases hoffering
    | ok offering => rfl
  case zone =>
    cases zone with
    | error e => cases hzone
    | ok zone => rfl

end ProfileReads

namespace ScopeReads

variable {selectors : List LabelSelector} {earlier : List ProfileReads} {y : ScopeReads}

theorem namesDiffer_of_after (h : ProfileReads.NamesDiffer (y.after selectors earlier)) :
    ProfileReads.NamesDiffer earlier := by
  rw [after, ProfileReads.foldl_after] at h
  exact h.sublist ((List.sublist_append_left _ _).map ProfileReads.name)

theorem steps_clear_iff (h : ProfileReads.NamesDiffer earlier) :
    (∀ step ∈ y.steps selectors earlier, step.Clear) ↔
      ProfileReads.NamesDiffer (y.after selectors earlier) := by
  rw [steps, List.forall_mem_cons, Step.forall_mem_inOrder_iff
    (fun _ _ => ProfileReads.namesDiffer_of_after) (fun _ _ => ProfileReads.steps_clear_iff) h]
  exact and_iff_right (Step.clear_read _ _)

end ScopeReads

namespace Survey

variable {survey : Survey} {cache : ProjectCache} {selectors : List LabelSelector}

/-- The checks of a survey go well exactly if no two accepted profiles have one name. -/
theorem steps_clear_iff : (∀ step ∈ survey.steps cache selectors, step.Clear) ↔
    ProfileReads.NamesDiffer (survey.accepted selectors) := by
  have hlisting : ∀ step ∈ cache.listSteps survey.now survey.projects, step.Clear := by
    unfold ProjectCache.listSteps
    split
    · exact List.forall_mem_singleton.mpr (Step.clear_read _ _)
    · exact List.forall_mem_nil _
  have hnone : ProfileReads.NamesDiffer [] := List.Pairwise.nil
  rw [steps, List.forall_mem_append, Step.forall_mem_inOrder_iff
    (fun _ _ => ScopeReads.namesDiffer_of_after) (fun _ _ => ScopeReads.steps_clear_iff) hnone,
    ScopeReads.foldl_after]
  exact and_iff_right hlisting

theorem result_eq_ok_iff {groups : List NodeGroup} : survey.result cache selectors = .ok groups ↔
    Step.outcome (survey.steps cache selectors) = .ok () ∧
      groups = (survey.accepted selectors).map ProfileReads.group := by
  constructor
  · intro h
    exact Step.outcome_of_map_ok h
  · intro h
    obtain ⟨houtcome, rfl⟩ := h
    rw [result, houtcome]
    rfl

/-- A search succeeds exactly if all it reads can be read and no two accepted profiles have one name. -/
theorem result_ok_iff : (∃ groups, survey.result cache selectors = .ok groups) ↔
    (∀ c reply, .called c reply ∈ survey.events cache selectors → c.failure? reply = none) ∧
      ((survey.accepted selectors).map ProfileReads.name).Nodup := by
  have hglances (c : Call) (reply : c.Reply) : .called c reply ∉ cache.glances survey.now := by
    unfold ProjectCache.glances
    split <;> simp
  have hread {step : Step} {c : Call} {reply : c.Reply} (h : step.event? = some (.called c reply)) :
      step = .read c reply := by
    cases step with
    | read c' reply' =>
      cases h
      rfl
    | check failure => cases h
  constructor
  · intro h
    obtain ⟨groups, hgroups⟩ := h
    have hok := (result_eq_ok_iff.mp hgroups).1
    have hsteps := Step.outcome_eq_ok_iff.mp hok
    constructor
    · intro c reply hmem
      rw [events, List.mem_append, Step.events_of_ok hok] at hmem
      obtain ⟨step, hstep, hevent⟩ := List.mem_filterMap.mp (hmem.resolve_left (hglances c reply))
      have hnone := hsteps step hstep
      rwa [hread hevent] at hnone
    · have hclear : ∀ step ∈ survey.steps cache selectors, step.Clear := by
        intro step hstep failure hcheck
        have hnone := hsteps step hstep
        rwa [hcheck] at hnone
      exact steps_clear_iff.mp hclear
  · intro h
    obtain ⟨hreads, hnames⟩ := h
    refine ⟨_, result_eq_ok_iff.mpr ⟨?_, rfl⟩⟩
    cases houtcome : Step.outcome (survey.steps cache selectors) with
    | ok u => rfl
    | error e =>
      obtain ⟨before, step, after, hsteps, -, hfailed, hevents⟩ := Step.exists_of_outcome_error houtcome
      exfalso
      cases step with
      | read c reply =>
        have hmem : .called c reply ∈ survey.events cache selectors := by
          rw [events, hevents]
          exact List.mem_append_right _ (List.mem_append_right _ (List.mem_singleton_self _))
        rw [Step.failure?, hreads c reply hmem] at hfailed
        cases hfailed
      | check failure =>
        have hmem : .check failure ∈ survey.steps cache selectors := by
          rw [hsteps]
          exact List.mem_append_right _ List.mem_cons_self
        rw [Step.failure?, steps_clear_iff.mpr hnames _ hmem failure rfl] at hfailed
        cases hfailed

theorem bound_of_result_ok {groups : List NodeGroup} (h : survey.result cache selectors = .ok groups)
    {x : ProfileReads} (hx : x ∈ survey.accepted selectors) : x.Bound := by
  have hok := Step.outcome_eq_ok_iff.mp (result_eq_ok_iff.mp h).1
  obtain ⟨hmem, haccepted⟩ := List.mem_filter.mp hx
  obtain ⟨y, hy, hxy⟩ := List.mem_flatMap.mp hmem
  obtain ⟨earlier, hscope⟩ := Step.exists_subset_inOrder (ScopeReads.steps selectors)
    (ScopeReads.after selectors) [] hy
  obtain ⟨earlier', hprofile⟩ := Step.exists_subset_inOrder (ProfileReads.steps selectors)
    (ProfileReads.after selectors) earlier hxy
  have hsteps : ∀ step ∈ x.steps selectors earlier', step.failure? = none := fun step hstep =>
    hok step (List.mem_append_right _ (hscope (List.mem_cons_of_mem _ (hprofile hstep))))
  exact ProfileReads.bound_of_steps haccepted hsteps

end Survey

namespace Discovery

variable {cache : ProjectCache} {selectors : List LabelSelector}

/-- A search for groups is a walk over the root scope and the projects. It finds the groups of the accepted
profiles in the order of the walk, or it stops at the first step that fails. -/
theorem discover_surveys :
    (∀ es result cache', (discover cache selectors).Run Cloud.any () es (result, cache') () ↔
      ∃ survey : Survey, survey.Fits cache ∧ es = survey.events cache selectors ∧
        result = survey.result cache selectors ∧
          cache' = cache.listed survey.now survey.projects) ∧
    ∀ survey : Survey,
      ((∃ groups, survey.result cache selectors = .ok groups) ↔
        (∀ c reply, .called c reply ∈ survey.events cache selectors → c.failure? reply = none) ∧
          ((survey.accepted selectors).map ProfileReads.name).Nodup) ∧
      (∀ groups, survey.result cache selectors = .ok groups →
        groups = (survey.accepted selectors).map ProfileReads.group ∧
          ∀ x ∈ survey.accepted selectors, x.Bound) ∧
      ∀ e, survey.result cache selectors = .error e → ∃ before step after,
        survey.steps cache selectors = before ++ step :: after ∧
          (∀ step ∈ before, step.failure? = none) ∧ step.failure? = some e ∧
          survey.events cache selectors =
            cache.glances survey.now ++ (before ++ [step]).filterMap Step.event? := by
  refine ⟨fun es result cache' => discover_run_iff, fun survey => ⟨survey.result_ok_iff, ?_, ?_⟩⟩
  · intro groups h
    exact ⟨(Survey.result_eq_ok_iff.mp h).2, fun x hx => Survey.bound_of_result_ok h hx⟩
  · intro e h
    obtain ⟨before, step, after, hsteps, hbefore, hfailed, hevents⟩ :=
      Step.exists_of_outcome_error (Step.outcome_of_map_error h)
    refine ⟨before, step, after, hsteps, Step.outcome_eq_ok_iff.mp hbefore, hfailed, ?_⟩
    rw [Survey.events, hevents, List.filterMap_append]
    cases step <;> rfl

def twin (profileId : String) : ProfileReads :=
  ⟨{ (default : AutoscaleProfile) with id := profileId },
    .ok [⟨"nodeGroupName", "old"⟩, ⟨"minNodes", "1"⟩, ⟨"maxNodes", "3"⟩, ⟨"nodeGroupName", "g1"⟩],
    .ok [], .ok default, .ok default⟩

/-- A profile without a greatest size. -/
def boundless : ProfileReads :=
  ⟨{ (default : AutoscaleProfile) with id := "p0" }, .ok [⟨"nodeGroupName", "g1"⟩, ⟨"minNodes", "1"⟩],
    .ok [], .ok default, .ok default⟩

/-- One name in the root scope, where a profile that is no group has it too, and in a project. -/
def twins : Survey :=
  ⟨0, .ok [⟨"project", ""⟩], [⟨"", .ok [boundless, twin "p1"]⟩, ⟨"project", .ok [twin "p2"]⟩]⟩

/-- The second group of a name ends the search, before its machines are listed. A profile that lacks one
of the required keys is passed over. -/
theorem discover_surveys_twins :
    (discover (.ofInterval true .standard) [⟨.empty⟩]).Run Cloud.any ()
      [.clock 0, .called .listProjects (.ok [⟨"project", ""⟩]),
        .called (.listProfiles ⟨none⟩) (.ok [boundless.profile, (twin "p1").profile]),
        .called (.listDetails ⟨"AutoScaleVmProfile", "p0"⟩)
          (.ok [⟨"nodeGroupName", "g1"⟩, ⟨"minNodes", "1"⟩]),
        .called (.listDetails ⟨"AutoScaleVmProfile", "p1"⟩) (twin "p1").details,
        .called (.listMachines ⟨none, .ofList [("nodeGroupName", "g1")]⟩) (.ok []),
        .called (.getOffering "") (.ok default), .called (.getZone "") (.ok default),
        .called (.listProfiles ⟨some "project"⟩) (.ok [(twin "p2").profile]),
        .called (.listDetails ⟨"AutoScaleVmProfile", "p2"⟩) (twin "p2").details]
      (.error (.duplicateNodeGroup "g1" "p2" "p1"),
        ⟨true, .standard, some 0, [⟨"project", ""⟩]⟩) () :=
  (discover_surveys.1 _ _ _).mpr ⟨twins, rfl, rfl, by decide, rfl⟩

end Discovery
end NodeGroups
