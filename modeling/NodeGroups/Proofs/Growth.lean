import NodeGroups.Proofs.Capacity

namespace NodeGroups

def Call.deployment? : Call → Option DeployRequest
  | deploy r => some r
  | _ => none

def Call.listing? : Call → Option MachinesRequest
  | listMachines r => some r
  | _ => none

def Moment.asked? {α : Type} : Moment α → Option Call
  | asked c => some c
  | _ => none

/-- The calls of an event. Those of a batch come in the order they were asked. -/
def Event.calls : Event → List Call
  | called c _ => [c]
  | clock _ | drew _ => []
  | batch ms => ms.filterMap fun m => m.2.asked?

/-- What is picked from the calls of some events. -/
def asked {β : Type} (pick : Call → Option β) (es : List Event) : List β :=
  (es.flatMap Event.calls).filterMap pick

section

variable {β : Type} (pick : Call → Option β)

theorem asked_append (es es' : List Event) : asked pick (es ++ es') = asked pick es ++ asked pick es' := by
  simp [asked]

theorem asked_drew (values : List UInt64) : asked pick (values.map .drew) = [] := by
  simp [asked, Event.calls]

theorem asked_batch (ms : List (Nat × Moment (Except Error String))) :
    asked pick [.batch ms] = ms.filterMap fun m => m.2.asked?.bind pick := by
  simp [asked, Event.calls, List.filterMap_filterMap]

end

/-- A cloud that never lists more machines than a list in memory can hold. -/
def Cloud.ListsFit {World : Type} (cloud : Cloud World) : Prop :=
  ∀ r w machines w', cloud (.listMachines r) w (.ok machines) w' → machines.length < Fleet.listLimit

theorem Batch.mem_own {α : Type} {m : Nat × Moment α} {ms : List (Nat × Moment α)} (h : m ∈ ms) :
    m.2 ∈ own m.1 ms :=
  List.mem_filterMap.mpr ⟨m, h, if_pos rfl⟩

theorem Batch.map_fst_picked {α β : Type} (pick : Moment α → Option β) (ms : List (Nat × Moment α)) :
    (picked pick ms).map Prod.fst = ms.filterMap fun m => pick m.2 := by
  simp [picked, List.map_filterMap, Function.comp_def]

theorem Moment.deployment?_eq {α : Type} (m : Moment α) :
    m.asked?.bind Call.deployment? = m.deployment? := by
  cases m with
  | asked c => cases c <;> rfl
  | answered c reply | ended a => rfl

namespace Provisioner

variable {World : Type} {cloud : Cloud World} {w w' : World} {es : List Event} {p : Provisioner}

/-- No call of these moments is a listing. -/
def Unlisted (ms : List (Moment (Except Error String))) : Prop :=
  ∀ m ∈ ms, m.asked?.bind Call.listing? = none

theorem CleansUp.unlisted {vmId : String} {cause : Error} {wrap : Error → Error}
    {ms : List (Moment (Except Error String))} {result : Except Error String}
    (h : p.CleansUp vmId cause wrap ms result) : Unlisted ms := by
  obtain ⟨reply, rfl, -⟩ := h
  simp [Unlisted, Moment.asked?, Call.listing?]

theorem create_unlisted {deploy : DeployRequest} {tags : TagRequest}
    {ms : List (Moment (Except Error String))} {result : Except Error String}
    (h : (p.create deploy tags).Lives ms result) : Unlisted ms := by
  obtain ⟨reply, rest, rfl, hrest⟩ := create_lives h
  have hlater : Unlisted rest := by
    cases reply with
    | ok vm =>
      obtain ⟨tagged, after, rfl, hafter⟩ := hrest
      have hlast : Unlisted after := by
        cases tagged with
        | ok u => simp [Unlisted, hafter.1, Moment.asked?]
        | error cause => exact CleansUp.unlisted hafter
      simpa [Unlisted, Moment.asked?, Call.listing?] using hlast
    | error f =>
      unfold GoesOn at hrest
      simp only at hrest
      split at hrest
      · simp [Unlisted, hrest.1, Moment.asked?]
      · exact hrest.unlisted
  simpa [Unlisted, Moment.asked?, Call.listing?] using hlater

/-- A scale-up asks for as many machines as it is told to, and lists none. -/
theorem scaleUp_asks {d : GroupDefinition} {count : Nat} {scaled : Except Error Unit}
    (h : (p.scaleUp d count).Run cloud w es scaled w') :
    ∃ (values : List UInt64) (ms : List (Nat × Moment (Except Error String))),
      es = values.map .drew ++ [.batch ms] ∧ scaled = verdict ((endings ms).map Prod.fst) ∧
      (endings ms).length = count ∧ (asked Call.deployment? es).length = count ∧
      asked Call.listing? es = [] := by
  obtain ⟨values, ms, results, rfl, rfl, hends, rfl⟩ := scaleUp_run_iff.mp h
  have hunit (i : Nat) (hi : i < values.length) :
      ∃ ending, (p.unit d (randomName d.name values[i])).Lives (own i ms) ending := by
    have htask : ((values.map (randomName d.name)).map (p.unit d))[i]? =
        some (p.unit d (randomName d.name values[i])) := by simp [hi]
    obtain ⟨ending, -, hlives⟩ := hends.exists_lives htask
    exact ⟨ending, hlives⟩
  have hindex : ∀ m ∈ ms, m.1 < values.length := by simpa using hends.index_lt
  refine ⟨values, ms, rfl, rfl, ?_, ?_, ?_⟩
  · have hlength := hends.endings_perm.length_eq
    simpa [hends.length_eq] using hlength
  · rw [asked_append, asked_drew, asked_batch, List.nil_append]
    simp only [Moment.deployment?_eq]
    have hlength := (deployments_perm hends).length_eq
    rw [← List.length_map Prod.fst, Batch.map_fst_picked] at hlength
    simpa using hlength
  · rw [asked_append, asked_drew, asked_batch, List.nil_append, List.filterMap_eq_nil_iff]
    intro m hm
    obtain ⟨ending, hlives⟩ := hunit m.1 (hindex m hm)
    exact create_unlisted hlives m.2 (Batch.mem_own hm)

end Provisioner

/-- An attempt to create machines for a group: the numbers drawn for their names, the moments of the
units, and the events and the outcome of reading the group afterwards. -/
structure Attempt where
  values : List UInt64
  moments : List (Nat × Moment (Except Error String))
  reads : List Event
  reread : Except Error Unit

namespace Attempt

def events (a : Attempt) : List Event := a.values.map .drew ++ .batch a.moments :: a.reads

/-- What the units came to, in the order they ended. -/
def outcomes (a : Attempt) : List (Except Error String) := (endings a.moments).map Prod.fst

/-- An attempt comes to the failures of its units, if there are any, and else to what came of the
reading. -/
structure ComesTo (a : Attempt) (result : Except Error Unit) : Prop where
  failed : (∃ e, .error e ∈ a.outcomes) → result = .error (.scaleUp (Provisioner.failures a.outcomes))
  ok : (∀ r ∈ a.outcomes, ∃ vmId, r = .ok vmId) → result = a.reread

theorem comesTo_upshot (a : Attempt) :
    a.ComesTo (NodeGroup.upshot (Provisioner.verdict a.outcomes) a.reread) := by
  constructor
  case failed =>
    intro h
    obtain ⟨e, he⟩ := h
    have hfailed : Provisioner.verdict a.outcomes ≠ .ok () := by
      intro hverdict
      obtain ⟨vmId, hvm⟩ := Provisioner.verdict_eq_ok_iff.mp hverdict _ he
      cases hvm
    rw [Provisioner.verdict_eq_error hfailed, NodeGroup.upshot]
  case ok =>
    intro h
    rw [Provisioner.verdict_eq_ok_iff.mpr h, NodeGroup.upshot]

/-- The attempt is made for a group that has to get some more machines, and this is what the group and
the world are afterwards. -/
structure Made {World : Type} (cloud : Cloud World) (p : Provisioner) (g : NodeGroup) (count : Nat)
    (w : World) (a : Attempt) (g' : NodeGroup) (w' : World) : Prop where
  /-- It asks for that many machines. -/
  deploys : (asked Call.deployment? a.events).length = count
  /-- Each of them comes to something. -/
  outcomes : a.outcomes.length = count
  /-- The group is read once, after all units have ended. -/
  listings : asked Call.listing? a.events = [g.machinesRequest]
  read : ∃ middle, g.refresh.Run cloud middle a.reads (a.reread, g') w'

end Attempt

namespace NodeGroup

variable {World : Type} {cloud : Cloud World} {w w' : World} {es : List Event} {p : Provisioner}
  {g g' : NodeGroup} {result : Except Error Unit}

theorem refresh_asks (h : g.refresh.Run cloud w es (result, g') w') :
    asked Call.deployment? es = [] ∧ asked Call.listing? es = [g.machinesRequest] ∧ g.Same g' ∧
      (g' = g ∨ ∃ w₁, cloud (.listMachines g.machinesRequest) w (.ok g'.machines) w₁) := by
  cases refreshes_of_run h with
  | unlisted change => exact ⟨rfl, rfl, .rfl, .inl rfl⟩
  | unoffered listed change => exact ⟨rfl, rfl, .rfl, .inl rfl⟩
  | unzoned listed offered change => exact ⟨rfl, rfl, .rfl, .inl rfl⟩
  | read listed offered zoned => exact ⟨rfl, rfl, ⟨rfl, rfl⟩, .inr ⟨_, listed⟩⟩

theorem exists_attempt {count : Nat} (h : (g.scaleUp p count).Run cloud w es (result, g') w') :
    ∃ a : Attempt, es = a.events ∧ a.Made cloud p g count w g' w' ∧ a.ComesTo result := by
  obtain ⟨_, scaled, middle, reads, reread, rfl, hscaled, hrefresh, rfl⟩ := scaleUp_upshot h
  obtain ⟨values, ms, rfl, rfl, hlength, hdeploys, hunlisted⟩ := Provisioner.scaleUp_asks hscaled
  obtain ⟨hnone, hlisted, -, -⟩ := refresh_asks hrefresh
  let a : Attempt := ⟨values, ms, reads, reread⟩
  have hevents : a.events = values.map .drew ++ [.batch ms] ++ reads := by
    simp [a, Attempt.events]
  refine ⟨a, hevents.symm, ⟨?_, ?_, ?_, ⟨middle, hrefresh⟩⟩, ?_⟩
  · rw [hevents, asked_append, hnone, List.append_nil]
    exact hdeploys
  · simpa [a, Attempt.outcomes] using hlength
  · rw [hevents, asked_append, hunlisted, hlisted, List.nil_append]
  · exact a.comesTo_upshot

/-- A group is healed by one attempt to get it to its minimum. If nothing is missing, nothing is done. -/
structure Heals (cloud : Cloud World) (p : Provisioner) (g : NodeGroup) (w : World) (es : List Event)
    (g' : NodeGroup) (w' : World) : Prop where
  deploys : (asked Call.deployment? es).length = g.minSize - g.size
  idle : g.minSize ≤ g.size → es = [] ∧ g' = g ∧ w' = w
  attempts : g.size < g.minSize →
    ∃ a : Attempt, es = a.events ∧ a.Made cloud p g (g.minSize - g.size) w g' w'

theorem Heals.of_run (h : (g.heal p).Run cloud w es g' w') : g.Heals cloud p w es g' w' := by
  by_cases hsmall : g.size < g.minSize
  · rw [heal, if_pos hsmall] at h
    obtain ⟨_, ⟨result, g₁⟩, w₁, _, rfl, hscale, hdone⟩ := Program.run_bind_iff.mp h
    obtain ⟨rfl, rfl, rfl⟩ := Program.run_done_iff.mp hdone
    obtain ⟨a, rfl, hmade, -⟩ := exists_attempt hscale
    rw [List.append_nil]
    exact ⟨hmade.deploys, fun hle => absurd hsmall (Nat.not_lt.mpr hle), fun _ => ⟨a, rfl, hmade⟩⟩
  · have hle := Nat.not_lt.mp hsmall
    rw [heal_of_minSize_le hle] at h
    obtain ⟨rfl, rfl, rfl⟩ := Program.run_done_iff.mp h
    exact ⟨by rw [Nat.sub_eq_zero_of_le hle]; rfl, fun _ => ⟨rfl, rfl, rfl⟩, fun h => absurd h hsmall⟩

theorem Heals.same (h : g.Heals cloud p w es g' w') (hlists : cloud.ListsFit)
    (hsize : g.size < Fleet.listLimit) : g.Same g' ∧ g'.size < Fleet.listLimit := by
  by_cases hsmall : g.size < g.minSize
  · obtain ⟨a, -, hmade⟩ := h.attempts hsmall
    obtain ⟨middle, hrefresh⟩ := hmade.read
    obtain ⟨-, -, hsame, rfl | ⟨w₁, hlisted⟩⟩ := refresh_asks hrefresh
    · exact ⟨hsame, hsize⟩
    · exact ⟨hsame, hlists _ _ _ _ hlisted⟩
  · obtain ⟨-, rfl, -⟩ := h.idle (Nat.not_lt.mp hsmall)
    exact ⟨.rfl, hsize⟩

end NodeGroup

end NodeGroups
