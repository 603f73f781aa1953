import NodeGroups.Engine.Provider
import NodeGroups.Proofs.Capacity
import NodeGroups.Proofs.Discoveries

namespace NodeGroups

/-- What the metadata of every group of a provider has: the required keys, and all that one of the specs
wants. -/
def GroupDefinition.Eligible (specs : List String) (d : GroupDefinition) : Prop :=
  (∀ key ∈ ["nodeGroupName", "minNodes", "maxNodes"], ∃ v, d.metadata.get? key = some v) ∧
    ∃ spec ∈ specs, ∃ s, LabelSelector.parse spec = .ok s ∧ ∀ pair ∈ s.wanted.toList,
      ∃ v, d.metadata.get? pair.1 = some v ∧ (pair.2 = "" ∨ v = pair.2)

theorem NodeGroup.Same.eligible {g g' : NodeGroup} {specs : List String} (h : g.Same g')
    (hg : g.definition.Eligible specs) : g'.definition.Eligible specs := by
  unfold GroupDefinition.Eligible at hg ⊢
  rwa [h.metadata]

theorem Part.same {p : Provisioner} {g g' : NodeGroup} {es : List Event} (h : Part p g es g') :
    g.Same g' := by
  cases h with
  | read run =>
    obtain ⟨-, -, ⟨rfl, -⟩ | ⟨r, -, rfl, -⟩⟩ := NodeGroup.refresh_reads Cloud.any_readsOnly run
    · exact .rfl
    · exact ⟨rfl, rfl⟩
  | create run => exact .rfl
  | delete run =>
    obtain ⟨-, -, ⟨rfl, -⟩ | ⟨i, vm, -, -, rfl⟩⟩ := NodeGroup.deleteNode_run run
    · exact .rfl
    · exact ⟨rfl, rfl⟩

theorem Course.same {p : Provisioner} {x z : Point} {points : List Point}
    (h : Course p x points z) : x.group.Same z.group := by
  induction h with
  | nil => exact .rfl
  | cons part rest ih => exact part.same.trans ih

/-- No operation makes another group of a group. -/
theorem Operation.on_same {p : Provisioner} {g g' : NodeGroup} {op : Operation} {es : List Event}
    (h : (op.on p g).Run Cloud.any () es g' ()) : g.Same g' := by
  obtain ⟨points, hcourse⟩ := on_course h []
  exact hcourse.same

/-- The groups of a search have different names, and one of the selectors selects them. -/
theorem Discovery.discover_ok {cache cache' : ProjectCache} {selectors : List LabelSelector}
    {es : List Event} {groups : List NodeGroup}
    (h : (discover cache selectors).Run Cloud.any () es (.ok groups, cache') ()) :
    (groups.map NodeGroup.id).Nodup ∧ ∀ g ∈ groups, ∃ details, Selected selectors details ∧
      g.definition.metadata = ResourceDetail.metadata details := by
  obtain ⟨survey, -, -, hresult, -⟩ := discover_run_iff.mp h
  obtain ⟨-, hnames⟩ := Survey.result_ok_iff.mp ⟨groups, hresult.symm⟩
  obtain ⟨-, rfl⟩ := Survey.result_eq_ok_iff.mp hresult.symm
  constructor
  · rw [List.map_map]
    rwa [List.map_congr_left fun x _ => x.group_id]
  · intro g hg
    obtain ⟨x, hx, rfl⟩ := List.mem_map.mp hg
    exact ⟨x.found, of_decide_eq_true (List.mem_filter.mp hx).2, rfl⟩

theorem exists_of_mapM_ok {α β ε : Type} {f : α → Except ε β} {items : List α} {results : List β}
    (h : items.mapM f = .ok results) : ∀ b ∈ results, ∃ a ∈ items, f a = .ok b := by
  induction items generalizing results with
  | nil =>
    cases h
    exact List.forall_mem_nil _
  | cons a items ih =>
    rw [List.mapM_cons] at h
    cases hfirst : f a with
    | error e =>
      rw [hfirst] at h
      cases h
    | ok b =>
      cases hothers : items.mapM f with
      | error e =>
        rw [hfirst, hothers] at h
        cases h
      | ok others =>
        rw [hfirst, hothers] at h
        cases h
        refine List.forall_mem_cons.mpr ⟨⟨a, List.mem_cons_self, hfirst⟩, fun b' hb' => ?_⟩
        obtain ⟨a', ha', hok⟩ := ih hothers b' hb'
        exact ⟨a', List.mem_cons_of_mem a ha', hok⟩

namespace Provider

variable {settings : Settings} {specs : List String} {p p' : Provider} {es : List Event}
  {result : Except Error Unit}

/-- A refresh replaces all groups, or none. -/
theorem refresh_run (h : p.refresh.Run Cloud.any () es (result, p') ()) :
    p'.selectors = p.selectors ∧ ((∃ e, result = .error e) ∧ p'.groups = p.groups ∨
      result = .ok () ∧ ∃ cache cache', (Discovery.discover cache p.selectors).Run Cloud.any () es
        (.ok p'.groups, cache') ()) := by
  unfold refresh at h
  obtain ⟨first, ⟨found, cache⟩, _, rest, rfl, hfound, hdone⟩ := Program.run_bind_iff.mp h
  cases found with
  | error e =>
    obtain ⟨rfl, hpair, -⟩ := Program.run_done_iff.mp hdone
    cases hpair
    exact ⟨rfl, .inl ⟨⟨e, rfl⟩, rfl⟩⟩
  | ok groups =>
    obtain ⟨rfl, hpair, -⟩ := Program.run_done_iff.mp hdone
    cases hpair
    rw [List.append_nil]
    exact ⟨rfl, .inr ⟨rfl, _, _, hfound⟩⟩

/-- A state of a provider that was built: it was refreshed and its groups were operated on in any order,
with any replies of the cloud. -/
inductive Reachable (settings : Settings) (specs : List String) : Provider → Prop
  | built {p : Provider} {es : List Event}
      (run : (build settings specs).Run Cloud.any () es (.ok p) ()) : Reachable settings specs p
  | refreshed {p p' : Provider} {es : List Event} {result : Except Error Unit}
      (before : Reachable settings specs p)
      (run : p.refresh.Run Cloud.any () es (result, p') ()) : Reachable settings specs p'
  | operated {p : Provider} {es : List Event} {i : Nat} {g g' : NodeGroup} {op : Operation}
      (before : Reachable settings specs p) (group : p.groups[i]? = some g)
      (run : (op.on p.provisioner g).Run Cloud.any () es g' ()) :
      Reachable settings specs (p.setGroup i g')

/-- What holds of a provider all the time. -/
structure Sound (specs : List String) (p : Provider) : Prop where
  selectors : ∀ s ∈ p.selectors, ∃ spec ∈ specs, LabelSelector.parse spec = .ok s
  names : (p.groups.map NodeGroup.id).Nodup
  eligible : ∀ g ∈ p.groups, g.definition.Eligible specs

theorem Sound.refresh (h : Sound specs p) (run : p.refresh.Run Cloud.any () es (result, p') ()) :
    Sound specs p' := by
  obtain ⟨hselectors, ⟨-, hgroups⟩ | ⟨-, cache, cache', hfound⟩⟩ := refresh_run run
  · exact ⟨hselectors ▸ h.selectors, hgroups ▸ h.names, hgroups ▸ h.eligible⟩
  · obtain ⟨hnames, hselected⟩ := Discovery.discover_ok hfound
    refine ⟨hselectors ▸ h.selectors, hnames, fun g hg => ?_⟩
    obtain ⟨details, ⟨hkeys, s, hs, hpairs⟩, hmetadata⟩ := hselected g hg
    obtain ⟨spec, hspec, hparse⟩ := h.selectors s hs
    have hget (key : String) : g.definition.metadata.get? key = ResourceDetail.last? details key := by
      rw [hmetadata, ResourceDetail.get?_metadata]
    constructor
    · intro key hkey
      rw [hget]
      exact Option.isSome_iff_exists.mp (hkeys key hkey)
    · refine ⟨spec, hspec, s, hparse, fun pair hpair => ?_⟩
      rw [hget]
      exact hpairs pair hpair

theorem Sound.setGroup (h : Sound specs p) {i : Nat} {g g' : NodeGroup}
    (hg : p.groups[i]? = some g) (hsame : g.Same g') : Sound specs (p.setGroup i g') := by
  obtain ⟨hi, rfl⟩ := List.getElem?_eq_some_iff.mp hg
  have hids : (p.groups.set i g').map NodeGroup.id = p.groups.map NodeGroup.id := by
    rw [List.map_set, hsame.id_eq, ← List.getElem_map NodeGroup.id (h := by simpa using hi)]
    exact List.set_getElem_self _
  refine ⟨h.selectors, ?_, ?_⟩
  · change ((p.groups.set i g').map NodeGroup.id).Nodup
    rw [hids]
    exact h.names
  · intro other hother
    rcases List.mem_or_eq_of_mem_set hother with hmem | rfl
    · exact h.eligible other hmem
    · exact hsame.eligible (h.eligible _ (List.getElem_mem hi))

theorem prepare_eq_ok (h : prepare settings specs = .ok p) :
    specs.mapM LabelSelector.parse = .ok p.selectors ∧ p.groups = [] := by
  unfold prepare at h
  cases hvalid : settings.validate with
  | error e =>
    rw [hvalid] at h
    cases h
  | ok u =>
    rw [hvalid] at h
    by_cases hempty : specs.isEmpty = true
    · simp only [hempty, if_true] at h
      cases h
    · simp only [hempty] at h
      cases hparsed : specs.mapM LabelSelector.parse with
      | error e =>
        rw [hparsed] at h
        cases h
      | ok selectors =>
        rw [hparsed] at h
        cases hinterval : settings.refreshInterval with
        | error e =>
          rw [hinterval] at h
          cases h
        | ok interval =>
          rw [hinterval] at h
          cases h
          exact ⟨rfl, rfl⟩

theorem prepare_sound (h : prepare settings specs = .ok p) : Sound specs p := by
  obtain ⟨hparsed, hgroups⟩ := prepare_eq_ok h
  refine ⟨exists_of_mapM_ok hparsed, ?_, ?_⟩
  · rw [hgroups]
    exact .nil
  · rw [hgroups]
    exact List.forall_mem_nil _

theorem Reachable.sound (h : Reachable settings specs p) : Sound specs p := by
  induction h with
  | built run =>
    unfold build at run
    cases hprepared : prepare settings specs with
    | error e =>
      rw [hprepared] at run
      obtain ⟨-, hpair, -⟩ := Program.run_done_iff.mp run
      cases hpair
    | ok p₀ =>
      rw [hprepared] at run
      obtain ⟨first, ⟨ended, p₁⟩, _, rest, rfl, hrefresh, hdone⟩ := Program.run_bind_iff.mp run
      have hsound := (prepare_sound hprepared).refresh hrefresh
      cases ended with
      | error e =>
        obtain ⟨-, hpair, -⟩ := Program.run_done_iff.mp hdone
        cases hpair
      | ok u =>
        obtain ⟨-, hpair, -⟩ := Program.run_done_iff.mp hdone
        cases hpair
        exact hsound
  | refreshed before run ih => exact ih.refresh run
  | operated before group run ih => exact ih.setGroup group (Operation.on_same run)

/-- Whatever happens to a provider, its groups have different names and are eligible. A refresh that fails
leaves all of them as they are. -/
theorem reachable_groups (h : Reachable settings specs p) : (p.groups.map NodeGroup.id).Nodup ∧
    (∀ g ∈ p.groups, g.definition.Eligible specs) ∧
      ∀ es e p', p.refresh.Run Cloud.any () es (.error e, p') () → p'.groups = p.groups := by
  refine ⟨h.sound.names, h.sound.eligible, fun es e p' run => ?_⟩
  obtain ⟨-, ⟨-, hgroups⟩ | ⟨hok, -⟩⟩ := refresh_run run
  · exact hgroups
  · cases hok

def webSettings : Settings := { apiKey := "key", apiSecret := "secret", url := "http://cloud" }

/-- Everything about the one profile there is. -/
def webReads : ProfileReads :=
  ⟨{ (default : AutoscaleProfile) with id := "p1" },
    .ok [⟨"tier", "web"⟩, ⟨"nodeGroupName", "g1"⟩, ⟨"minNodes", "1"⟩, ⟨"maxNodes", "3"⟩],
    .ok [⟨"vm1", "", none, "Running", none, none, []⟩], .ok default, .ok default⟩

def webProvider : Provider :=
  ⟨⟨false⟩, [⟨.ofList [("tier", "web")]⟩], .ofInterval false .standard, [webReads.group]⟩

/-- A provider that found one group, and then failed to find it again. -/
theorem reachable_groups_after_lostProfiles :
    Reachable webSettings ["label:tier=web"] webProvider ∧
      (webProvider.groups.map NodeGroup.id).Nodup ∧
      (∀ g ∈ webProvider.groups, g.definition.Eligible ["label:tier=web"]) ∧
      ∀ es e p', webProvider.refresh.Run Cloud.any () es (.error e, p') () →
        p'.groups = webProvider.groups := by
  have hvalid : webSettings.validate = .ok () := by decide +kernel
  have hparsed : ["label:tier=web"].mapM LabelSelector.parse =
      .ok [⟨.ofList [("tier", "web")]⟩] := by decide +kernel
  have hprepared : prepare webSettings ["label:tier=web"] = .ok { webProvider with groups := [] } := by
    unfold prepare
    rw [hvalid, hparsed]
    rfl
  let survey : Survey := ⟨0, .ok [], [⟨"", .ok [webReads]⟩]⟩
  have hfound : survey.result webProvider.cache webProvider.selectors = .ok [webReads.group] := by
    decide
  have hdiscover : (Discovery.discover webProvider.cache webProvider.selectors).Run Cloud.any ()
      (survey.events webProvider.cache webProvider.selectors) (.ok [webReads.group], webProvider.cache)
      () :=
    Discovery.discover_run_iff.mpr ⟨survey, rfl, rfl, hfound.symm, rfl⟩
  have hrefreshed : ({ webProvider with groups := [] } : Provider).refresh.Run Cloud.any ()
      (survey.events webProvider.cache webProvider.selectors) (.ok (), webProvider) () :=
    Program.run_bind_iff.mpr ⟨_, _, (), [], (List.append_nil _).symm, hdiscover, .done⟩
  have hbuild : (build webSettings ["label:tier=web"]).Run Cloud.any ()
      (survey.events webProvider.cache webProvider.selectors) (.ok webProvider) () := by
    unfold build
    rw [hprepared]
    exact Program.run_bind_iff.mpr ⟨_, _, (), [], (List.append_nil _).symm, hrefreshed, .done⟩
  have hlost : webProvider.refresh.Run Cloud.any ()
      [.called (.listProfiles (.inProject "")) (.error default)] (.error default, webProvider) () :=
    .call rfl .done
  have hreachable := (Reachable.built hbuild).refreshed hlost
  exact ⟨hreachable, reachable_groups hreachable⟩

end Provider
end NodeGroups
