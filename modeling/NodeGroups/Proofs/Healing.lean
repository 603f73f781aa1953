import NodeGroups.Proofs.Growth
import NodeGroups.Proofs.Membership

namespace NodeGroups

theorem Batch.Run.mono {α World : Type} {cloud cloud' : Cloud World}
    (himp : ∀ c w reply w', cloud c w reply w' → cloud' c w reply w') {w w' : World}
    {stages stages' : List (Stage α)} {ms : List (Nat × Moment α)}
    (h : Batch.Run cloud w stages ms w' stages') : Batch.Run cloud' w stages ms w' stages' := by
  induction h with
  | nil => exact .nil
  | @cons w w₁ w₂ stages stages' i s s' m ms hi step change rest ih =>
    have hchange : m.Changes cloud' w w₁ := by
      cases m with
      | answered c reply => exact himp c w reply w₁ change
      | asked c | ended a => exact change
    exact .cons hi step hchange ih

/-- A cloud in which no read fails. -/
def Cloud.legible {World : Type} (cloud : Cloud World) : Cloud World := fun c w reply w' =>
  cloud c w reply w' ∧ (c.isRead = true → ∀ e, reply ≠ c.refuse e none)

/-- What the units of an event came to, in the order they ended. -/
def Event.outcomes : Event → List (Except Error String)
  | batch ms => (endings ms).map Prod.fst
  | called _ _ | clock _ | drew _ => []

/-- What all units came to that some events are about. -/
def outcomes (es : List Event) : List (Except Error String) := es.flatMap Event.outcomes

theorem outcomes_append (es es' : List Event) : outcomes (es ++ es') = outcomes es ++ outcomes es' := by
  simp [outcomes]

theorem outcomes_drew (values : List UInt64) : outcomes (values.map .drew) = [] := by
  simp [outcomes, Event.outcomes]

/-- The machines that units made. -/
def made (results : List (Except Error String)) : List String := results.filterMap Except.toOption

theorem made_length_le (results : List (Except Error String)) :
    (made results).length ≤ results.length :=
  List.length_filterMap_le _ _

theorem made_length_eq {results : List (Except Error String)}
    (h : ∀ r ∈ results, ∃ vmId, r = .ok vmId) : (made results).length = results.length := by
  induction results with
  | nil => rfl
  | cons r rs ih =>
    obtain ⟨⟨vmId, rfl⟩, hrest⟩ := List.forall_mem_cons.mp h
    have hlength := ih hrest
    simpa [made, Except.toOption] using hlength

namespace NodeGroup

/-- What a group is, and which size is told, after it was read: what was read in full, or else what it
was before. -/
inductive Found (g : NodeGroup) (reads : List Event) : Nat → NodeGroup → Prop
  | read {r : Reading} (h : lastReading? reads = some (r, [])) :
    Found g reads r.machines.length (g.bound r)
  | unread (h : lastReading? reads = none) : Found g reads g.size g

/-- How the size of a group is told. A group that is large enough is left alone, and any other one makes
one attempt to get to its minimum. -/
structure Tells {World : Type} (cloud : Cloud World) (p : Provisioner) (g : NodeGroup) (w : World)
    (es : List Event) (size : Nat) (g' : NodeGroup) (w' : World) : Prop where
  idle : g.minSize ≤ g.size → es = [] ∧ size = g.size ∧ g' = g ∧ w' = w
  attempts : g.size < g.minSize → ∃ a : Attempt, es = a.events ∧
    a.Made cloud p g (g.minSize - g.size) w g' w' ∧ g.Found a.reads size g'

section

variable {World : Type} {cloud : Cloud World} {w w' : World} {es : List Event} {p : Provisioner}
  {g g' : NodeGroup} {result : Except Error Unit}

theorem refresh_found (h : g.refresh.Run cloud w es (result, g') w') :
    g.Found es g'.size g' ∧ outcomes es = [] := by
  cases refreshes_of_run h with
  | unlisted change => exact ⟨.unread rfl, rfl⟩
  | unoffered listed change => exact ⟨.unread rfl, rfl⟩
  | unzoned listed offered change => exact ⟨.unread rfl, rfl⟩
  | @read _ _ _ machines offering zone listed offered zoned =>
    have hread : lastReading? [.called (.listMachines g.machinesRequest) (.ok machines),
        .called (.getOffering g.definition.profile.serviceOfferingId) (.ok offering),
        .called (.getZone g.definition.profile.zoneId) (.ok zone)] =
          some (⟨machines, offering, zone⟩, []) := rfl
    exact ⟨.read hread, rfl⟩

/-- To tell its size a group is healed, and what came of that is never an error. -/
theorem targetSize_run_iff {told : Except Error Nat} :
    (g.targetSize p).Run cloud w es (told, g') w' ↔
      told = .ok g'.size ∧ (g.heal p).Run cloud w es g' w' := by
  constructor
  · intro h
    obtain ⟨first, g₁, w₁, rest, rfl, hheal, hdone⟩ := Program.run_bind_iff.mp h
    obtain ⟨rfl, hpair, rfl⟩ := Program.run_done_iff.mp hdone
    cases hpair
    rw [List.append_nil]
    exact ⟨rfl, hheal⟩
  · intro h
    obtain ⟨rfl, hheal⟩ := h
    exact Program.run_bind_iff.mpr ⟨es, g', w', [], (List.append_nil es).symm, hheal, .done⟩

/-- A group is scaled up when machines were created and it was read. -/
theorem scaleUp_run_of_parts {count : Nat} {scaled refreshed : Except Error Unit} {middle : World}
    {first second : List Event} (hscaled : (p.scaleUp g.definition count).Run cloud w first scaled middle)
    (hrefresh : g.refresh.Run cloud middle second (refreshed, g') w') :
    (g.scaleUp p count).Run cloud w (first ++ second) (upshot scaled refreshed, g') w' := by
  refine Program.run_bind_iff.mpr ⟨first, scaled, middle, second, rfl, hscaled, ?_⟩
  refine Program.run_bind_iff.mpr ⟨second, (refreshed, g'), w', [], (List.append_nil _).symm, hrefresh, ?_⟩
  cases scaled with
  | error e => exact .done
  | ok u => exact .done

theorem Tells.of_heal (h : (g.heal p).Run cloud w es g' w') : g.Tells cloud p w es g'.size g' w' := by
  have hheals := Heals.of_run h
  constructor
  case idle =>
    intro hle
    obtain ⟨rfl, rfl, rfl⟩ := hheals.idle hle
    exact ⟨rfl, rfl, rfl, rfl⟩
  case attempts =>
    intro hsmall
    obtain ⟨a, hes, hmade⟩ := hheals.attempts hsmall
    obtain ⟨middle, hrefresh⟩ := hmade.read
    exact ⟨a, hes, hmade, (refresh_found hrefresh).1⟩

end

end NodeGroup

/-- A size that was told, and what was done for that. -/
structure Telling where
  events : List Event
  size : Nat

/-- A group that is asked for its size again and again. -/
inductive Tellings {World : Type} (cloud : Cloud World) (p : Provisioner) :
    NodeGroup → World → List Telling → NodeGroup → World → Prop
  | nil {g : NodeGroup} {w : World} : Tellings cloud p g w [] g w
  | cons {g g₁ g' : NodeGroup} {w w₁ w' : World} {es : List Event} {size : Nat}
      {tellings : List Telling} (run : (g.targetSize p).Run cloud w es (.ok size, g₁) w₁)
      (rest : Tellings cloud p g₁ w₁ tellings g' w') :
      Tellings cloud p g w (⟨es, size⟩ :: tellings) g' w'

/-- No unit of these failed. -/
def Telling.Flawless (t : Telling) : Prop := ∀ result ∈ outcomes t.events, ∃ vmId, result = .ok vmId

/-- Sizes told one after the other, the first of them when a group had `size` machines and should have
had `minSize`. -/
structure Approach (size minSize : Nat) (tellings : List Telling) : Prop where
  bounded : ∀ t ∈ tellings, t.size ≤ minSize
  rising : (size :: tellings.map Telling.size).Pairwise (· ≤ ·)
  /-- As soon as nothing fails the minimum is reached, and from then on there is nothing to do. -/
  settles : ∀ before t after, tellings = before ++ t :: after → t.Flawless →
    t.size = minSize ∧ ∀ later ∈ after, later.events = [] ∧ later.size = minSize

namespace Tellings

variable {World : Type} {cloud : Cloud World} {p : Provisioner} {g g' : NodeGroup} {w w' : World}
  {tellings : List Telling}

theorem exists_of_responds (h : cloud.Responds) (p : Provisioner) (g : NodeGroup) (w : World)
    (count : Nat) : ∃ tellings g' w', tellings.length = count ∧ Tellings cloud p g w tellings g' w' := by
  induction count generalizing g w with
  | zero => exact ⟨[], g, w, rfl, .nil⟩
  | succ count ih =>
    obtain ⟨es, ⟨told, g₁⟩, w₁, hrun⟩ := Program.exists_run h (g.targetSize p) w
    obtain ⟨rfl, -⟩ := NodeGroup.targetSize_run_iff.mp hrun
    obtain ⟨tellings, g', w', hlength, hrest⟩ := ih g₁ w₁
    refine ⟨_, g', w', ?_, .cons hrun hrest⟩
    rw [List.length_cons, hlength]

/-- A group that is large enough is only looked at. -/
theorem idle (h : Tellings cloud p g w tellings g' w') (hle : g.minSize ≤ g.size) :
    ∀ t ∈ tellings, t.events = [] ∧ t.size = g.size := by
  induction h with
  | nil => simp
  | @cons g g₁ g' w w₁ w' es size tellings run rest ih =>
    obtain ⟨htold, hheal⟩ := NodeGroup.targetSize_run_iff.mp run
    obtain ⟨rfl, -, rfl, -⟩ := (NodeGroup.Tells.of_heal hheal).idle hle
    have hsize : size = g₁.size := Except.ok.inj htold
    exact List.forall_mem_cons.mpr ⟨⟨rfl, hsize⟩, ih hle⟩

end Tellings

namespace Estate

/-- How a cloud with an estate answers that can always be read. -/
def Legible : Cloud Estate := Cloud.legible Answers

theorem legible_responds : Cloud.Responds Legible := by
  intro c s
  cases c with
  | listMachines r =>
    have hanswer : Answers (.listMachines r) s (.ok (s.select r)) s :=
      ⟨rfl, fun machines h => Except.ok.inj h ▸ .rfl⟩
    exact ⟨_, s, hanswer, fun _ e h => nomatch h⟩
  | listProjects => exact ⟨.ok [], s, rfl, fun _ e h => nomatch h⟩
  | listProfiles r => exact ⟨.ok [], s, rfl, fun _ e h => nomatch h⟩
  | listDetails r => exact ⟨.ok [], s, rfl, fun _ e h => nomatch h⟩
  | getOffering id => exact ⟨.ok default, s, rfl, fun _ e h => nomatch h⟩
  | getZone id => exact ⟨.ok default, s, rfl, fun _ e h => nomatch h⟩
  | deploy r => exact ⟨.error ⟨none, default⟩, s, .inl ⟨rfl, rfl⟩, fun h => nomatch h⟩
  | tag r => exact ⟨.error default, s, rfl, fun h => nomatch h⟩
  | destroy r => exact ⟨.error default, s, ⟨.inr rfl, rfl⟩, fun h => nomatch h⟩

variable {p : Provisioner} {g g' : NodeGroup} {s s' : Estate} {es : List Event}

/-- The members of a group after a scale-up: those there were, and one for each unit that succeeded. -/
theorem scaleUp_select_length {count : Nat} {scaled : Except Error Unit}
    (h : (p.scaleUp g.definition count).Run Legible s es scaled s') :
    (outcomes es).length = count ∧ (s'.select g.machinesRequest).length =
      (s.select g.machinesRequest).length + (made (outcomes es)).length := by
  obtain ⟨values, ms, results, hlength, rfl, hends, -⟩ := Provisioner.scaleUp_run_iff.mp h
  have hanswers : Batch.Ends Answers s ((values.map (randomName g.definition.name)).map
      (p.unit g.definition)) ms results s' := Batch.Run.mono (fun _ _ _ _ hanswer => hanswer.1) hends
  obtain ⟨new, hselect, hids, -⟩ := (tended_of_ends hanswers).select_perm
  have houtcomes : outcomes (values.map .drew ++ [.batch ms]) = (endings ms).map Prod.fst := by
    rw [outcomes_append, outcomes_drew]
    simp [outcomes, Event.outcomes]
  have hresults : ((endings ms).map Prod.fst).Perm results := by
    simpa using hends.endings_perm.map Prod.fst
  have hcount : results.length = count := by
    simpa [hlength] using hends.length_eq
  have hnew : new.length = (made ((endings ms).map Prod.fst)).length := by
    have hmade : (made ((endings ms).map Prod.fst)).Perm (made results) := hresults.filterMap _
    rw [hmade.length_eq, ← List.length_map VirtualMachine.id, hids.length_eq, made]
  rw [houtcomes]
  refine ⟨hresults.length_eq.trans hcount, ?_⟩
  rw [hselect.length_eq, List.length_append, hnew]

/-- A group that is read anew where reading never fails knows its machines. -/
theorem refresh_knows {result : Except Error Unit}
    (h : g.refresh.Run Legible s es (result, g') s') :
    s' = s ∧ g.Same g' ∧ g'.machines.Perm (s.select g.machinesRequest) := by
  have hread : ∀ {c : Call} {reply : c.Reply} {s s' : Estate}, c.isRead = true →
      Legible c s reply s' → s' = s := fun hc hanswer => answers_readsOnly _ _ _ _ hc hanswer.1
  cases NodeGroup.refreshes_of_run h with
  | unlisted change => exact absurd rfl (change.2 rfl _)
  | unoffered listed change => exact absurd rfl (change.2 rfl _)
  | unzoned listed offered change => exact absurd rfl (change.2 rfl _)
  | read listed offered zoned =>
    obtain rfl := hread rfl zoned
    obtain rfl := hread rfl offered
    obtain rfl := hread rfl listed
    exact ⟨rfl, ⟨rfl, rfl⟩, listed.1.2 _ rfl⟩

/-- A group in step with an estate stays so when it is healed, and it grows by the units that succeed,
which are no more than it lacks. -/
theorem heal_grows (h : (g.heal p).Run Legible s es g' s')
    (hknows : g.machines.Perm (s.select g.machinesRequest)) :
    g.Same g' ∧ g'.machines.Perm (s'.select g'.machinesRequest) ∧
      (outcomes es).length = g.minSize - g.size ∧ g'.size = g.size + (made (outcomes es)).length := by
  by_cases hsmall : g.size < g.minSize
  · rw [NodeGroup.heal, if_pos hsmall] at h
    obtain ⟨_, ⟨result, g₁⟩, s₁, _, rfl, hscale, hdone⟩ := Program.run_bind_iff.mp h
    obtain ⟨rfl, rfl, rfl⟩ := Program.run_done_iff.mp hdone
    obtain ⟨first, scaled, s₂, second, refreshed, rfl, hscaled, hrefresh⟩ :=
      NodeGroup.scaleUp_parts hscale
    obtain ⟨hcount, hlength⟩ := scaleUp_select_length hscaled
    obtain ⟨rfl, hsame, hlisted⟩ := refresh_knows hrefresh
    have houtcomes : outcomes (first ++ second ++ []) = outcomes first := by
      rw [List.append_nil, outcomes_append, (NodeGroup.refresh_found hrefresh).2, List.append_nil]
    rw [houtcomes, hsame.machinesRequest_eq]
    refine ⟨hsame, hlisted, hcount, ?_⟩
    have hbefore : g.size = (s.select g.machinesRequest).length := hknows.length_eq
    have hafter : g'.size = (s'.select g.machinesRequest).length := hlisted.length_eq
    omega
  · have hle := Nat.not_lt.mp hsmall
    rw [NodeGroup.heal_of_minSize_le hle] at h
    obtain ⟨rfl, rfl, rfl⟩ := Program.run_done_iff.mp h
    have hnothing : g'.minSize - g'.size = 0 := Nat.sub_eq_zero_of_le hle
    exact ⟨.rfl, hknows, hnothing.symm, rfl⟩

end Estate

/-- A group in step with an estate stays so when it is asked for its size, and it stays within its minimum. -/
theorem Tellings.inStep {p : Provisioner} {g g' : NodeGroup} {s s' : Estate} {tellings : List Telling}
    (h : Tellings Estate.Legible p g s tellings g' s')
    (hknows : g.machines.Perm (s.select g.machinesRequest)) (hle : g.size ≤ g.minSize) :
    g'.machines.Perm (s'.select g.machinesRequest) ∧ g'.size ≤ g.minSize := by
  induction h with
  | nil => exact ⟨hknows, hle⟩
  | @cons g g₁ g' s s₁ s' es size tellings run rest ih =>
    obtain ⟨-, hheal⟩ := NodeGroup.targetSize_run_iff.mp run
    obtain ⟨hsame, hlater, hcount, hgrown⟩ := Estate.heal_grows hheal hknows
    have hfew := made_length_le (outcomes es)
    have hlast := ih hlater (by rw [hsame.minSize_eq]; omega)
    rwa [hsame.machinesRequest_eq, hsame.minSize_eq] at hlast

/-- However its units fail, a group in step with an estate approaches its minimum when it is asked for its
size again and again. -/
theorem Tellings.approach {p : Provisioner} {g g' : NodeGroup} {s s' : Estate}
    {tellings : List Telling} (h : Tellings Estate.Legible p g s tellings g' s')
    (hknows : g.machines.Perm (s.select g.machinesRequest)) (hle : g.size ≤ g.minSize) :
    Approach g.size g.minSize tellings := by
  induction h with
  | nil =>
    constructor
    case bounded => simp
    case rising => simp
    case settles =>
      intro before t after hsplit
      simp at hsplit
  | @cons g g₁ g' s s₁ s' es size tellings run rest ih =>
    obtain ⟨htold, hheal⟩ := NodeGroup.targetSize_run_iff.mp run
    obtain rfl : size = g₁.size := Except.ok.inj htold
    obtain ⟨hsame, hlater, hcount, hgrown⟩ := Estate.heal_grows hheal hknows
    have hmin : g₁.minSize = g.minSize := hsame.minSize_eq
    have hfew := made_length_le (outcomes es)
    have hfirst : g₁.size ≤ g.minSize := by omega
    have happroach := ih hlater (hmin ▸ hfirst)
    rw [hmin] at happroach
    constructor
    case bounded => exact List.forall_mem_cons.mpr ⟨hfirst, happroach.bounded⟩
    case rising =>
      have hhead := (List.pairwise_cons.mp happroach.rising).1
      refine List.pairwise_cons.mpr ⟨?_, happroach.rising⟩
      intro n hn
      have hfrom : g₁.size ≤ n := by
        rcases List.mem_cons.mp hn with rfl | hn
        · exact Nat.le_refl _
        · exact hhead n hn
      omega
    case settles =>
      intro before t after hsplit hflawless
      cases before with
      | nil =>
        obtain ⟨rfl, rfl⟩ := List.cons.inj hsplit
        have hall := made_length_eq hflawless
        have hreached : g₁.size = g.minSize := by
          change (made (outcomes es)).length = (outcomes es).length at hall
          omega
        refine ⟨hreached, ?_⟩
        intro later hmem
        have hidle := rest.idle (by omega) later hmem
        exact ⟨hidle.1, hidle.2.trans hreached⟩
      | cons t' before =>
        obtain ⟨-, hrest⟩ := List.cons.inj hsplit
        exact happroach.settles before t after hrest hflawless

namespace NodeGroup

/-- The size of a group is always told, whatever the cloud replies. A group that is large enough is left
alone, and any other one asks once for all it lacks and is then read once. Where reading never fails, a
group in step with its cloud approaches its minimum and stays there. -/
theorem targetSize_approaches (p : Provisioner) (g : NodeGroup) :
    (∀ (World : Type) (cloud : Cloud World) (w : World),
      (cloud.Responds → ∃ es told g' w', (g.targetSize p).Run cloud w es (told, g') w') ∧
      ∀ es told g' w', (g.targetSize p).Run cloud w es (told, g') w' →
        ∃ size, told = .ok size ∧ g.Tells cloud p w es size g' w') ∧
    ∀ s : Estate, g.machines.Perm (s.select g.machinesRequest) → g.size < g.minSize →
      (∀ count, ∃ tellings g' s', tellings.length = count ∧
        Tellings Estate.Legible p g s tellings g' s') ∧
      ∀ tellings g' s', Tellings Estate.Legible p g s tellings g' s' →
        Approach g.size g.minSize tellings ∧
          g'.machines.Perm (s'.select g.machinesRequest) ∧ g'.size ≤ g.minSize := by
  constructor
  · intro World cloud w
    constructor
    · intro responds
      obtain ⟨es, ⟨told, g'⟩, w', hrun⟩ := Program.exists_run responds (g.targetSize p) w
      exact ⟨es, told, g', w', hrun⟩
    · intro es told g' w' hrun
      obtain ⟨htold, hheal⟩ := targetSize_run_iff.mp hrun
      exact ⟨g'.size, htold, .of_heal hheal⟩
  · intro s hknows hsmall
    refine ⟨Tellings.exists_of_responds Estate.legible_responds p g s, ?_⟩
    intro tellings g' s' htellings
    have hle := Nat.le_of_lt hsmall
    exact ⟨htellings.approach hknows hle, htellings.inStep hknows hle⟩

def lonelyMachine (vmId : String) (tags : List ResourceTag) : VirtualMachine :=
  ⟨vmId, "", none, "Starting", none, none, tags⟩

def unused : Estate := ⟨⟨[], .nil⟩, [], by decide⟩

def firstTried : Estate := ⟨⟨[lonelyMachine "vm1" []], by decide⟩, ["vm1"], by decide⟩

def firstLeft : Estate := ⟨firstTried.without "vm1", firstTried.handed, by decide⟩

def secondTried : Estate := ⟨⟨[lonelyMachine "vm2" []], by decide⟩, ["vm2", "vm1"], by decide⟩

def lonelyDeploy (value : UInt64) : DeployRequest :=
  (DeployRequest.ofDefinition (bounded "1" "3").definition).withName (randomName "g1" value)

def lonelyTags (vmId : String) : TagRequest :=
  (TagRequest.ofDefinition (bounded "1" "3").definition).forMachine vmId

def secondKept : Estate := ⟨secondTried.tagged (lonelyTags "vm2"), secondTried.handed, by decide⟩

/-- A unit that cannot tag its machine and destroys it. -/
def lostUnit : List (Nat × Moment (Except Error String)) :=
  [(0, .asked (.deploy (lonelyDeploy 0))),
    (0, .answered (.deploy (lonelyDeploy 0)) (.ok (lonelyMachine "vm1" []))),
    (0, .asked (.tag (lonelyTags "vm1"))), (0, .answered (.tag (lonelyTags "vm1")) (.error default)),
    (0, .asked (.destroy ⟨"vm1", false⟩)), (0, .answered (.destroy ⟨"vm1", false⟩) (.ok ())),
    (0, .ended (.error default))]

def keptUnit : List (Nat × Moment (Except Error String)) :=
  [(0, .asked (.deploy (lonelyDeploy 1))),
    (0, .answered (.deploy (lonelyDeploy 1)) (.ok (lonelyMachine "vm2" []))),
    (0, .asked (.tag (lonelyTags "vm2"))), (0, .answered (.tag (lonelyTags "vm2")) (.ok ())),
    (0, .ended (.ok "vm2"))]

/-- What a group is read to be when nothing is known of its offering and zone. -/
def plainReading (g : NodeGroup) (s : Estate) : Reading :=
  ⟨s.select g.machinesRequest, default, default⟩

theorem refresh_plain (g : NodeGroup) (s : Estate) :
    ∃ es, g.refresh.Run Estate.Legible s es (.ok (), g.bound (g.plainReading s)) s := by
  have hlisted : Estate.Legible (.listMachines g.machinesRequest) s (.ok (s.select g.machinesRequest)) s :=
    ⟨⟨rfl, fun machines h => Except.ok.inj h ▸ .rfl⟩, fun _ e h => nomatch h⟩
  have hoffered : Estate.Legible (.getOffering g.definition.profile.serviceOfferingId) s (.ok default) s :=
    ⟨rfl, fun _ e h => nomatch h⟩
  have hzoned : Estate.Legible (.getZone g.definition.profile.zoneId) s (.ok default) s :=
    ⟨rfl, fun _ e h => nomatch h⟩
  exact ⟨_, .call hlisted (.call hoffered (.call hzoned .done))⟩

/-- A group that lacks one machine tells its size when one unit came to its end. -/
theorem targetSize_of_unit {p : Provisioner} {g : NodeGroup} {s s' : Estate} {value : UInt64}
    {ms : List (Nat × Moment (Except Error String))} {result : Except Error String}
    (hlacks : g.minSize = g.size + 1)
    (hends : Batch.Ends Estate.Legible s [p.unit g.definition (randomName g.definition.name value)] ms
      [result] s') :
    ∃ es, (g.targetSize p).Run Estate.Legible s es
      (.ok (s'.select g.machinesRequest).length, g.bound (g.plainReading s')) s' := by
  have hsmall : g.size < g.minSize := by omega
  have hone : g.minSize - g.size = 1 := by omega
  have hscaled : (p.scaleUp g.definition 1).Run Estate.Legible s ([value].map .drew ++ [.batch ms])
      (Provisioner.verdict ((endings ms).map Prod.fst)) s' :=
    Provisioner.scaleUp_run_iff.mpr ⟨[value], ms, [result], rfl, rfl, hends, rfl⟩
  obtain ⟨reads, hrefresh⟩ := g.refresh_plain s'
  have hscale := scaleUp_run_of_parts hscaled hrefresh
  have hhealed : (g.heal p).Run Estate.Legible s ([value].map .drew ++ [.batch ms] ++ reads ++ [])
      (g.bound (g.plainReading s')) s' := by
    rw [heal, if_pos hsmall, hone]
    exact Program.run_bind_iff.mpr ⟨_, _, s', [], rfl, hscale, .done⟩
  exact ⟨_, targetSize_run_iff.mpr ⟨rfl, hhealed⟩⟩

/-- A group that lacks one machine does not get it at first, because it cannot be tagged. It gets it when it
is asked for its size again, and then it has all it needs. -/
theorem targetSize_approaches_after_lostTag :
    (bounded "1" "3").machines.Perm (unused.select (bounded "1" "3").machinesRequest) ∧
      (bounded "1" "3").size < (bounded "1" "3").minSize ∧ Estate.Legible.Responds ∧
      ∃ tellings g' s', Tellings Estate.Legible ⟨false⟩ (bounded "1" "3") unused tellings g' s' ∧
        tellings.map Telling.size = [0, 1, 1] ∧ Approach 0 1 tellings ∧ g'.size ≤ 1 ∧
        ∃ es s₁, (bounded "1" "3").Tells Estate.Legible ⟨false⟩ unused es 0 (bounded "1" "3") s₁ := by
  have hmin : (bounded "1" "3").minSize = 1 := by decide
  have hproject : (bounded "1" "3").definition.project? = none := by decide +kernel
  have hadds (value : UInt64) (vmId : String) (f f' : Fleet)
      (hmachines : f'.machines = f.machines ++ [lonelyMachine vmId []]) :
      Fleet.Adds (lonelyDeploy value) vmId f f' :=
    ⟨lonelyMachine vmId [], rfl, hproject.symm, rfl, hmachines⟩
  have hfirst : Estate.Answers (.deploy (lonelyDeploy 0)) unused (.ok (lonelyMachine "vm1" []))
      firstTried := ⟨by decide, rfl, hadds 0 "vm1" _ _ rfl⟩
  have hsecond : Estate.Answers (.deploy (lonelyDeploy 1)) firstLeft (.ok (lonelyMachine "vm2" []))
      secondTried := ⟨by decide, rfl, hadds 1 "vm2" _ _ rfl⟩
  have huntagged : Estate.Answers (.tag (lonelyTags "vm1")) firstTried (.error default) firstTried := rfl
  have hgone : Estate.Answers (.destroy ⟨"vm1", false⟩) firstTried (.ok ()) firstLeft := ⟨rfl, rfl⟩
  have htagged : Estate.Answers (.tag (lonelyTags "vm2")) secondTried (.ok ()) secondKept := ⟨rfl, rfl⟩
  have hwrite {c : Call} {reply : c.Reply} (h : c.isRead = false) :
      c.isRead = true → ∀ e, reply ≠ c.refuse e none := fun hread => by simp [h] at hread
  have hlost : Batch.Ends Estate.Legible unused [Provisioner.unit ⟨false⟩ (bounded "1" "3").definition
      (randomName "g1" 0)] lostUnit [.error default] firstLeft :=
    .cons rfl .ask rfl (.cons rfl .answer ⟨hfirst, hwrite rfl⟩ (.cons rfl .ask rfl
      (.cons rfl .answer ⟨huntagged, hwrite rfl⟩ (.cons rfl .ask rfl
      (.cons rfl .answer ⟨hgone, hwrite rfl⟩ (.cons rfl .finish rfl .nil))))))
  have hkept : Batch.Ends Estate.Legible firstLeft [Provisioner.unit ⟨false⟩ (bounded "1" "3").definition
      (randomName "g1" 1)] keptUnit [.ok "vm2"] secondKept :=
    .cons rfl .ask rfl (.cons rfl .answer ⟨hsecond, hwrite rfl⟩ (.cons rfl .ask rfl
      (.cons rfl .answer ⟨htagged, hwrite rfl⟩ (.cons rfl .finish rfl .nil))))
  have hnone : firstLeft.select (bounded "1" "3").machinesRequest = [] := by decide +kernel
  have hone : (secondKept.select (bounded "1" "3").machinesRequest).length = 1 := by decide +kernel
  obtain ⟨es₁, hrun₁⟩ := targetSize_of_unit (g := bounded "1" "3") (by rw [hmin]; rfl) hlost
  have hunchanged : (bounded "1" "3").bound ((bounded "1" "3").plainReading firstLeft) = bounded "1" "3" := by
    rw [plainReading, hnone]
    rfl
  rw [hnone, hunchanged] at hrun₁
  obtain ⟨es₂, hrun₂⟩ := targetSize_of_unit (g := bounded "1" "3") (by rw [hmin]; rfl) hkept
  let g' := (bounded "1" "3").bound ((bounded "1" "3").plainReading secondKept)
  have henough : g'.minSize ≤ g'.size := Nat.le_of_eq hone.symm
  have hrun₃ : (g'.targetSize ⟨false⟩).Run Estate.Legible secondKept [] (.ok g'.size, g') secondKept := by
    refine targetSize_run_iff.mpr ⟨rfl, ?_⟩
    rw [heal_of_minSize_le henough]
    exact .done
  have htellings := Tellings.cons hrun₁ (.cons hrun₂ (.cons hrun₃ .nil))
  have hknows : (bounded "1" "3").machines.Perm (unused.select (bounded "1" "3").machinesRequest) := .nil
  have hsmall : (bounded "1" "3").size < (bounded "1" "3").minSize := by
    rw [hmin]
    exact Nat.zero_lt_one
  obtain ⟨hclouds, hestates⟩ := targetSize_approaches ⟨false⟩ (bounded "1" "3")
  obtain ⟨_, hzero, htells⟩ := (hclouds Estate Estate.Legible unused).2 _ _ _ _ hrun₁
  obtain rfl := Except.ok.inj hzero
  obtain ⟨happroach, -, hwithin⟩ := (hestates unused hknows hsmall).2 _ _ _ htellings
  rw [hmin] at happroach hwithin
  refine ⟨hknows, hsmall, Estate.legible_responds, _, g', secondKept, htellings, ?_, happroach, hwithin, es₁,
    firstLeft, htells⟩
  have hsize : g'.size = 1 := hone
  simp [hone, hsize]

end NodeGroup
end NodeGroups
