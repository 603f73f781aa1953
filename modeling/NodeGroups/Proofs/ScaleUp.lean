import Mathlib.Data.List.Infix
import NodeGroups.Engine.Provisioner
import NodeGroups.Proofs.Maps
import NodeGroups.Proofs.Programs

namespace NodeGroups

theorem Text.occursIn_iff {part cs : List Char} : occursIn part cs = true ↔ part <:+: cs := by
  induction cs with
  | nil => cases part <;> simp [occursIn]
  | cons c cs ih =>
    rw [occursIn, Bool.or_eq_true, List.isPrefixOf_iff_prefix, ih, List.infix_cons_iff]

namespace Error

/-- An error that says, in the words of the API, that a machine does not exist. -/
def Denies (e : Error) (vmId : String) : Prop :=
  ("Invalid parameter id value=" ++ vmId ++
    " due to incorrect long value format, or entity does not exist").toList <:+: e.message.toList

theorem isNotFound_iff {e : Error} {vmId : String} : e.isNotFound vmId = true ↔ e.Denies vmId :=
  Text.occursIn_iff

/-- What the API replies about a machine that does not exist is understood. -/
theorem isNotFound_api (code : UInt16) (vmId : String) :
    (Error.api code (notFoundText vmId)).isNotFound vmId = true := by
  have hmessage : (Error.api code (notFoundText vmId)).message.toList =
      ("CloudStack API error " ++ toString code.toNat ++ ": ").toList ++ (notFoundText vmId).toList :=
    String.toList_append
  rw [isNotFound_iff, Denies, hmessage]
  exact (List.suffix_append _ _).isInfix

end Error

/-- A reply that leaves no machine behind: it was destroyed, or did not exist any more. -/
def Gone (vmId : String) (reply : Except Error Unit) : Prop :=
  ∀ e, reply = .error e → e.isNotFound vmId = true

/-- The tags of a new machine: the name of the group, and what the metadata marks as a tag. -/
theorem TagRequest.get?_tags_ofDefinition (d : GroupDefinition) (key : String) :
    (ofDefinition d).tags.get? key = if key = "nodeGroupName" then
        some ((d.metadata.get? "nodeGroupName").getD "") else d.metadata.get? ("tag-" ++ key) := by
  change (d.tags.insert GroupDefinition.nameKey d.name).get? key = _
  rw [TextMap.get?_insert, GroupDefinition.tags, GroupDefinition.get?_marked]
  rfl

namespace Provisioner

variable {p : Provisioner} {deploy : DeployRequest} {tags : TagRequest} {result : Except Error String}
  {ms : List (Moment (Except Error String))}

/-- The moments at the end of a failed unit: its machine is destroyed, and a failure to do so goes into
its error. -/
def CleansUp (p : Provisioner) (vmId : String) (cause : Error) (wrap : Error → Error)
    (ms : List (Moment (Except Error String))) (result : Except Error String) : Prop :=
  ∃ reply, ms = [.asked (.destroy ⟨vmId, p.expunge⟩), .answered (.destroy ⟨vmId, p.expunge⟩) reply,
      .ended result] ∧
    ((Gone vmId reply ∧ result = .error cause) ∨
      ∃ e, reply = .error e ∧ result = .error (wrap e))

theorem cleansUp_of_lives {vmId : String} {cause : Error} {wrap : Error → Error}
    {next : Except Error Unit → Task (Except Error String)} (hok : next (.ok ()) = .done (.error cause))
    (herror : ∀ e, next (.error e) = .done (.error (wrap e)))
    (h : (p.destroy vmId >>= next).Lives ms result) : p.CleansUp vmId cause wrap ms result := by
  obtain ⟨reply, rest, rfl, hrest⟩ := Task.Lives.call_iff.mp h
  cases reply with
  | ok u =>
    change (next (.ok ())).Lives rest result at hrest
    rw [hok] at hrest
    obtain ⟨rfl, rfl⟩ := Task.Lives.done_iff.mp hrest
    have gone : Gone vmId (.ok ()) := fun e he => by cases he
    exact ⟨_, rfl, .inl ⟨gone, rfl⟩⟩
  | error e =>
    change (next (if e.isNotFound vmId then .ok () else .error e)).Lives rest result at hrest
    by_cases gone : e.isNotFound vmId = true
    · rw [if_pos gone, hok] at hrest
      obtain ⟨rfl, rfl⟩ := Task.Lives.done_iff.mp hrest
      exact ⟨_, rfl, .inl ⟨fun e' he => by cases he; exact gone, rfl⟩⟩
    · rw [if_neg gone, herror] at hrest
      obtain ⟨rfl, rfl⟩ := Task.Lives.done_iff.mp hrest
      exact ⟨_, rfl, .inr ⟨e, rfl, rfl⟩⟩

/-- The moments after a machine was deployed: it is tagged, and if that fails it is destroyed. -/
def Tags (p : Provisioner) (tags : TagRequest) (vmId : String)
    (ms : List (Moment (Except Error String))) (result : Except Error String) : Prop :=
  ∃ reply rest, ms = .asked (.tag (tags.forMachine vmId)) ::
      .answered (.tag (tags.forMachine vmId)) reply :: rest ∧
    match reply with
    | .ok () => rest = [.ended result] ∧ result = .ok vmId
    | .error cause => p.CleansUp vmId cause (.tagCleanup · cause) rest result

/-- The moments after the reply to a deployment: a machine is tagged, and one that a failure names is
destroyed. -/
def GoesOn (p : Provisioner) (tags : TagRequest) (reply : Except DeployFailure VirtualMachine)
    (ms : List (Moment (Except Error String))) (result : Except Error String) : Prop :=
  match reply with
  | .ok vm => p.Tags tags vm.id ms result
  | .error ⟨vmId, cause⟩ =>
    match vmId.filter (· ≠ "") with
    | none => ms = [.ended result] ∧ result = .error cause
    | some vmId => p.CleansUp vmId cause (.createCleanup · cause) ms result

/-- The life of a unit: a deployment, and then what its reply asks for. -/
theorem create_lives (h : (p.create deploy tags).Lives ms result) :
    ∃ reply rest, ms = .asked (.deploy deploy) :: .answered (.deploy deploy) reply :: rest ∧
      p.GoesOn tags reply rest result := by
  unfold create at h
  obtain ⟨reply, rest, rfl, hrest⟩ := Task.Lives.ask_iff.mp h
  refine ⟨reply, rest, rfl, ?_⟩
  cases reply with
  | ok vm =>
    obtain ⟨tagged, after, rfl, hafter⟩ := Task.Lives.ask_iff.mp hrest
    refine ⟨tagged, after, rfl, ?_⟩
    cases tagged with
    | ok u =>
      obtain ⟨rfl, rfl⟩ := Task.Lives.done_iff.mp hafter
      exact ⟨rfl, rfl⟩
    | error cause => exact cleansUp_of_lives rfl (fun e => rfl) hafter
  | error f =>
    obtain ⟨vmId, cause⟩ := f
    unfold GoesOn
    cases hv : vmId.filter (· ≠ "") with
    | none =>
      simp only [hv] at hrest ⊢
      obtain ⟨rfl, rfl⟩ := Task.Lives.done_iff.mp hrest
      exact ⟨rfl, rfl⟩
    | some id =>
      simp only [hv] at hrest ⊢
      exact cleansUp_of_lives rfl (fun e => rfl) hrest

def unit (p : Provisioner) (d : GroupDefinition) (name : String) : Task (Except Error String) :=
  p.create ((DeployRequest.ofDefinition d).withName name) (TagRequest.ofDefinition d)

end Provisioner

namespace Moment

variable {α : Type}

def deployment? : Moment α → Option DeployRequest
  | asked (.deploy r) => some r
  | _ => none

/-- The machine that the reply to a deployment hands out: the one that was deployed, or the one that a
failure names. -/
def machine? : Moment α → Option String
  | answered (.deploy _) (.ok vm) => some vm.id
  | answered (.deploy _) (.error f) => f.vmId
  | _ => none

end Moment

/-- An error that says that a machine could not be destroyed. -/
inductive Error.IsCleanup : Error → Prop
  | create {destroy cause : Error} : IsCleanup (.createCleanup destroy cause)
  | tag {destroy cause : Error} : IsCleanup (.tagCleanup destroy cause)

namespace Provisioner

variable {p : Provisioner} {deploy : DeployRequest} {tags : TagRequest} {result : Except Error String}
  {ms : List (Moment (Except Error String))}

/-- What became of a machine in the life of a unit: it is the result and was tagged, it is gone, or the
unit's error says that it could not be destroyed. -/
inductive Settled (p : Provisioner) (tags : TextMap) (vmId : String)
    (ms : List (Moment (Except Error String))) (result : Except Error String) : Prop
  | member (ok : result = .ok vmId)
      (tagged : .answered (.tag ⟨[vmId], "UserVm", tags⟩) (.ok ()) ∈ ms)
  | gone {reply : Except Error Unit} (gone : ∀ e, reply = .error e → e.Denies vmId)
      (asked : .answered (.destroy ⟨vmId, p.expunge⟩) reply ∈ ms)
  | reported {e : Error} (error : result = .error e) (cleanup : e.IsCleanup)

theorem CleansUp.settled {tags : TextMap} {vmId : String} {cause : Error} {wrap : Error → Error}
    (hwrap : ∀ e, (wrap e).IsCleanup) (h : p.CleansUp vmId cause wrap ms result) :
    p.Settled tags vmId ms result := by
  obtain ⟨reply, rfl, ⟨gone, -⟩ | ⟨e, -, rfl⟩⟩ := h
  · exact .gone (fun e he => Error.isNotFound_iff.mp (gone e he)) (by simp)
  · exact .reported rfl (hwrap e)

theorem Settled.after {tags : TextMap} {vmId : String} (before : List (Moment (Except Error String)))
    (h : p.Settled tags vmId ms result) : p.Settled tags vmId (before ++ ms) result := by
  cases h with
  | member ok tagged => exact .member ok (List.mem_append_right _ tagged)
  | gone gone asked => exact .gone gone (List.mem_append_right _ asked)
  | reported error cleanup => exact .reported error cleanup

def NoDeployment (ms : List (Moment (Except Error String))) : Prop :=
  ∀ m ∈ ms, m.deployment? = none ∧ m.machine? = none

theorem CleansUp.noDeployment {vmId : String} {cause : Error} {wrap : Error → Error}
    (h : p.CleansUp vmId cause wrap ms result) : NoDeployment ms := by
  obtain ⟨reply, rfl, -⟩ := h
  simp [NoDeployment, Moment.deployment?, Moment.machine?]

theorem Tags.noDeployment {vmId : String} (h : p.Tags tags vmId ms result) : NoDeployment ms := by
  obtain ⟨reply, rest, rfl, hrest⟩ := h
  have hlater : NoDeployment rest := by
    cases reply with
    | ok u => simp [NoDeployment, hrest.1, Moment.deployment?, Moment.machine?]
    | error cause => exact CleansUp.noDeployment hrest
  simpa [NoDeployment, Moment.deployment?, Moment.machine?] using hlater

theorem GoesOn.noDeployment {reply : Except DeployFailure VirtualMachine}
    (h : p.GoesOn tags reply ms result) : NoDeployment ms := by
  unfold GoesOn at h
  split at h
  · exact Tags.noDeployment h
  · split at h
    · simp [NoDeployment, h.1, Moment.deployment?, Moment.machine?]
    · exact CleansUp.noDeployment h

theorem create_deployments (h : (p.create deploy tags).Lives ms result) :
    ms.filterMap Moment.deployment? = [deploy] := by
  obtain ⟨reply, rest, rfl, hrest⟩ := create_lives h
  have hnone : rest.filterMap Moment.deployment? = [] :=
    List.filterMap_eq_nil_iff.mpr fun m hm => (hrest.noDeployment m hm).1
  change deploy :: rest.filterMap Moment.deployment? = [deploy]
  rw [hnone]

/-- No machine that a unit was handed is left behind silently. -/
theorem create_settles (h : (p.create deploy tags).Lives ms result) {vmId : String}
    (hhanded : vmId ∈ ms.filterMap Moment.machine?) (hv : vmId ≠ "") :
    p.Settled tags.tags vmId ms result := by
  obtain ⟨reply, rest, rfl, hrest⟩ := create_lives h
  have hnone : rest.filterMap Moment.machine? = [] :=
    List.filterMap_eq_nil_iff.mpr fun m hm => (hrest.noDeployment m hm).2
  apply Settled.after [_, _]
  cases reply with
  | ok vm =>
    change vmId ∈ vm.id :: rest.filterMap Moment.machine? at hhanded
    rw [hnone] at hhanded
    obtain rfl := List.mem_singleton.mp hhanded
    obtain ⟨tagged, after, rfl, hafter⟩ := hrest
    cases tagged with
    | ok u => exact .member hafter.2 (List.mem_cons_of_mem _ List.mem_cons_self)
    | error cause => exact (CleansUp.settled (fun e => .tag) hafter).after [_, _]
  | error f =>
    obtain ⟨named, cause⟩ := f
    cases named with
    | none =>
      change vmId ∈ rest.filterMap Moment.machine? at hhanded
      rw [hnone] at hhanded
      cases hhanded
    | some id =>
      change vmId ∈ id :: rest.filterMap Moment.machine? at hhanded
      rw [hnone] at hhanded
      obtain rfl := List.mem_singleton.mp hhanded
      unfold GoesOn at hrest
      simp only [Option.filter_some, hv, ne_eq, not_false_eq_true, decide_true, if_true] at hrest
      exact CleansUp.settled (fun e => .create) hrest

section

variable {World : Type} {cloud : Cloud World} {w w' : World} {es : List Event}

theorem drawNames_run_iff {base : String} {count : Nat} {names : List String} :
    (drawNames base count).Run cloud w es names w' ↔ ∃ values : List UInt64, values.length = count ∧
      es = values.map .drew ∧ names = values.map (randomName base) ∧ w' = w := by
  induction count generalizing w w' es names with
  | zero =>
    constructor
    · intro h
      obtain ⟨rfl, rfl, rfl⟩ := Program.run_done_iff.mp h
      exact ⟨[], rfl, rfl, rfl, rfl⟩
    · intro h
      obtain ⟨values, hlength, rfl, rfl, rfl⟩ := h
      rw [List.length_eq_zero_iff.mp hlength]
      exact .done
  | succ n ih =>
    simp only [drawNames, Program.bind_eq, Program.run_bind_iff, Program.run_random_iff]
    constructor
    · intro h
      obtain ⟨first, value, middle, rest, rfl, ⟨rfl, rfl⟩, _, more, _, _, rfl, hmore, hdone⟩ := h
      obtain ⟨values, rfl, rfl, rfl, rfl⟩ := ih.mp hmore
      obtain ⟨rfl, rfl, rfl⟩ := Program.run_done_iff.mp hdone
      exact ⟨value :: values, rfl, by simp, rfl, rfl⟩
    · intro h
      obtain ⟨values, hlength, rfl, rfl, rfl⟩ := h
      cases values with
      | nil => cases hlength
      | cons value values =>
        refine ⟨[.drew value], value, _, values.map .drew, rfl, ⟨rfl, rfl⟩, values.map .drew,
          values.map (randomName base), _, [], by simp, ?_, .done⟩
        exact ih.mpr ⟨values, Nat.succ.inj hlength, rfl, rfl, rfl⟩

def verdict (results : List (Except Error String)) : Except Error Unit :=
  if (failures results).isEmpty then .ok () else .error (.scaleUp (failures results))

/-- Units at once, one for each name drawn. -/
theorem scaleUp_run_iff {d : GroupDefinition} {count : Nat} {result : Except Error Unit} :
    (p.scaleUp d count).Run cloud w es result w' ↔
      ∃ (values : List UInt64) (ms : List (Nat × Moment (Except Error String)))
        (results : List (Except Error String)), values.length = count ∧
      es = values.map .drew ++ [.batch ms] ∧
      Batch.Ends cloud w ((values.map (randomName d.name)).map (p.unit d)) ms results w' ∧
      result = verdict ((endings ms).map Prod.fst) := by
  simp only [scaleUp, Program.bind_eq, Program.run_bind_iff, drawNames_run_iff,
    Program.run_together_iff]
  constructor
  · intro h
    obtain ⟨_, _, _, _, rfl, ⟨values, hlength, rfl, rfl, rfl⟩, _, ordered, _, _, rfl,
      ⟨ms, results, rfl, hends, rfl⟩, hdone⟩ := h
    obtain ⟨rfl, rfl, rfl⟩ := Program.run_done_iff.mp hdone
    exact ⟨values, ms, results, hlength, by simp, hends, rfl⟩
  · intro h
    obtain ⟨values, ms, results, hlength, rfl, hends, rfl⟩ := h
    exact ⟨_, _, w, [.batch ms], rfl, ⟨values, hlength, rfl, rfl, rfl⟩, [.batch ms], _, w', [], rfl,
      ⟨ms, results, rfl, hends, rfl⟩, .done⟩

/-- However the units interleave, each of them asks for one machine, under its own name. -/
theorem deployments_perm {d : GroupDefinition} {names : List String}
    {ms : List (Nat × Moment (Except Error String))} {results : List (Except Error String)}
    (h : Batch.Ends cloud w (names.map (p.unit d)) ms results w') :
    (picked Moment.deployment? ms).Perm
      (names.map (DeployRequest.ofDefinition d).withName).zipIdx := by
  refine Batch.picked_perm (by simpa using h.index_lt) fun i deploy hi => ?_
  rw [List.getElem?_map] at hi
  obtain ⟨name, hname, rfl⟩ := Option.map_eq_some_iff.mp hi
  have htask : (names.map (p.unit d))[i]? = some (p.unit d name) := by
    rw [List.getElem?_map, hname, Option.map_some]
  obtain ⟨ending, -, hlives⟩ := h.exists_lives htask
  exact create_deployments hlives

/-- The errors of the units that failed, in the order of their results. -/
def errors (results : List (Except Error String)) : List Error :=
  results.filterMap fun
    | .ok _ => none
    | .error e => some e

theorem failures_eq (results : List (Except Error String)) :
    failures results = (errors results).map Error.message := by
  rw [failures, errors, List.map_filterMap]
  congr 1
  funext r
  cases r <;> rfl

/-- The account of a scale-up: the units with these names had these moments and came to these results,
and this is the result of the whole. -/
structure Accounts (p : Provisioner) (d : GroupDefinition) (names : List String)
    (ms : List (Nat × Moment (Except Error String))) (results : List (Except Error String))
    (result : Except Error Unit) : Prop where
  /-- Every unit taken alone lives the life of one creation. -/
  units : ∀ (i : Nat) (name : String) (ending : Except Error String), names[i]? = some name →
    results[i]? = some ending → (p.unit d name).Lives (own i ms) ending
  /-- One machine is asked for under each name. -/
  deployments : (picked Moment.deployment? ms).Perm
    (names.map (DeployRequest.ofDefinition d).withName).zipIdx
  endings : (endings ms).Perm results.zipIdx
  ok_iff : result = .ok () ↔ ∀ ending ∈ results, ∃ vmId, ending = .ok vmId
  /-- The failures are reported in the order the units ended. -/
  failed : result ≠ .ok () → result =
    .error (.scaleUp ((errors ((NodeGroups.endings ms).map Prod.fst)).map Error.message))
  /-- Whatever the order, they are those of the units. -/
  entries : (errors ((NodeGroups.endings ms).map Prod.fst)).Perm (errors results)
  /-- No machine is left behind silently. -/
  settled : ∀ (vmId : String) (i : Nat), (vmId, i) ∈ picked Moment.machine? ms → vmId ≠ "" →
    ∃ ending tags, results[i]? = some ending ∧
      (∀ key, tags.get? key = if key = "nodeGroupName" then
        some ((d.metadata.get? "nodeGroupName").getD "") else d.metadata.get? ("tag-" ++ key)) ∧
      p.Settled tags vmId (own i ms) ending
  reported : ∀ e, .error e ∈ results →
    ∃ messages, result = .error (.scaleUp messages) ∧ e.message ∈ messages

theorem mem_errors_iff {e : Error} {results : List (Except Error String)} :
    e ∈ errors results ↔ .error e ∈ results := by
  rw [errors, List.mem_filterMap]
  constructor
  · rintro ⟨r, hr, he⟩
    cases r with
    | ok vmId => cases he
    | error e' =>
      cases he
      exact hr
  · intro h
    exact ⟨_, h, rfl⟩

theorem failures_eq_nil_iff {results : List (Except Error String)} :
    failures results = [] ↔ ∀ r ∈ results, ∃ vmId, r = .ok vmId := by
  rw [failures, List.filterMap_eq_nil_iff]
  refine forall₂_congr fun r _ => ?_
  cases r <;> simp

theorem verdict_eq_ok_iff {results : List (Except Error String)} :
    verdict results = .ok () ↔ ∀ r ∈ results, ∃ vmId, r = .ok vmId := by
  rw [← failures_eq_nil_iff, ← List.isEmpty_iff]
  unfold verdict
  split <;> simp [*]

theorem verdict_eq_error {results : List (Except Error String)} (h : verdict results ≠ .ok ()) :
    verdict results = .error (.scaleUp (failures results)) := by
  unfold verdict at h ⊢
  split
  · next hempty => exact absurd (if_pos hempty) h
  · rfl

/-- A scale-up draws a name for each machine and runs one unit for each name, and its result accounts for
all of them. -/
theorem scaleUp_accounts {d : GroupDefinition} {count : Nat} {result : Except Error Unit}
    (h : (p.scaleUp d count).Run cloud w es result w') :
    ∃ (values : List UInt64) (ms : List (Nat × Moment (Except Error String)))
      (results : List (Except Error String)), values.length = count ∧
      es = values.map .drew ++ [.batch ms] ∧
      Accounts p d (values.map (randomName d.name)) ms results result := by
  obtain ⟨values, ms, results, hlength, rfl, hends, rfl⟩ := scaleUp_run_iff.mp h
  refine ⟨values, ms, results, hlength, rfl, ?_⟩
  have hfirst : ((endings ms).map Prod.fst).Perm results := by
    simpa using hends.endings_perm.map Prod.fst
  have hunit (i : Nat) (name : String) (ending : Except Error String)
      (hname : (values.map (randomName d.name))[i]? = some name) (hending : results[i]? = some ending) :
      (p.unit d name).Lives (own i ms) ending :=
    hends.lives (by rw [List.getElem?_map, hname, Option.map_some]) hending
  have hok : verdict ((endings ms).map Prod.fst) = .ok () ↔
      ∀ ending ∈ results, ∃ vmId, ending = .ok vmId := by
    rw [verdict_eq_ok_iff]
    exact forall_congr' fun ending => by rw [hfirst.mem_iff]
  -- Every moment belongs to a unit that has a name and a result.
  have hindex : ∀ m ∈ ms, m.1 < (values.map (randomName d.name)).length := by
    simpa using hends.index_lt
  have hresults : results.length = (values.map (randomName d.name)).length := by
    simpa using hends.length_eq
  constructor
  case units => exact hunit
  case deployments => exact deployments_perm hends
  case endings => exact hends.endings_perm
  case ok_iff => exact hok
  case failed =>
    intro hfailed
    rw [verdict_eq_error hfailed, failures_eq]
  case entries => exact hfirst.filterMap _
  case settled =>
    intro vmId i hmem hv
    have hlt : i < (values.map (randomName d.name)).length := by
      obtain ⟨m, hm, hpick⟩ := List.mem_filterMap.mp hmem
      obtain ⟨_, -, hpair⟩ := Option.map_eq_some_iff.mp hpick
      cases hpair
      exact hindex m hm
    have hlive := hunit i _ _ (List.getElem?_eq_getElem hlt)
      (List.getElem?_eq_getElem (hresults.symm ▸ hlt))
    exact ⟨_, _, List.getElem?_eq_getElem (hresults.symm ▸ hlt), TagRequest.get?_tags_ofDefinition d,
      create_settles hlive (Batch.mem_picked_iff.mp hmem) hv⟩
  case reported =>
    intro e he
    have hfailed : verdict ((endings ms).map Prod.fst) ≠ .ok () := by
      intro hverdict
      obtain ⟨vmId, hvm⟩ := hok.mp hverdict _ he
      cases hvm
    have hmem : e ∈ errors ((endings ms).map Prod.fst) := mem_errors_iff.mpr (hfirst.mem_iff.mpr he)
    rw [verdict_eq_error hfailed, failures_eq]
    exact ⟨_, rfl, List.mem_map_of_mem hmem⟩

/-- A group whose machines have a tag besides its name. -/
def poolGroup : GroupDefinition :=
  .new default (.ofList [("nodeGroupName", "pool"), ("tag-env", "prod")])

def poolDeploy (value : UInt64) : DeployRequest :=
  (DeployRequest.ofDefinition poolGroup).withName (randomName poolGroup.name value)

/-- Two units at once: the second deployment fails and is cleaned up while the first goes on. -/
def twoUnits (tag : TagRequest) : List (Nat × Moment (Except Error String)) :=
  [(0, .asked (.deploy (poolDeploy 0))), (1, .asked (.deploy (poolDeploy 1))),
    (1, .answered (.deploy (poolDeploy 1)) (.error ⟨some "vm2", .connection "reset"⟩)),
    (1, .asked (.destroy ⟨"vm2", false⟩)),
    (0, .answered (.deploy (poolDeploy 0)) (.ok ⟨"vm1", "", none, "", none, none, []⟩)),
    (0, .asked (.tag tag)), (1, .answered (.destroy ⟨"vm2", false⟩) (.ok ())),
    (1, .ended (.error (.connection "reset"))), (0, .answered (.tag tag) (.ok ())),
    (0, .ended (.ok "vm1"))]

theorem scaleUp_accounts_twoUnits :
    let tag : TagRequest := ⟨["vm1"], "UserVm", .ofList [("env", "prod"), ("nodeGroupName", "pool")]⟩
    (scaleUp ⟨false⟩ poolGroup 2).Run Cloud.any () [.drew 0, .drew 1, .batch (twoUnits tag)]
        (.error (.scaleUp [(Error.connection "reset").message])) () ∧
      ∃ (values : List UInt64) (ms : List (Nat × Moment (Except Error String)))
        (results : List (Except Error String)), values.length = 2 ∧
        [Event.drew 0, .drew 1, .batch (twoUnits tag)] = values.map .drew ++ [.batch ms] ∧
        Accounts ⟨false⟩ poolGroup (values.map (randomName poolGroup.name)) ms results
          (.error (.scaleUp [(Error.connection "reset").message])) := by
  intro tag
  have htag : (TagRequest.ofDefinition poolGroup).forMachine "vm1" = tag := by decide
  have hends : Batch.Ends Cloud.any ()
      (([0, 1].map (randomName poolGroup.name)).map (unit ⟨false⟩ poolGroup))
      (twoUnits tag) [.ok "vm1", .error (.connection "reset")] () := by
    rw [← htag]
    exact .cons rfl .ask rfl (.cons rfl .ask rfl (.cons rfl .answer rfl (.cons rfl .ask rfl
      (.cons rfl .answer rfl (.cons rfl .ask rfl (.cons rfl .answer rfl
      (.cons rfl .finish rfl (.cons rfl .answer rfl (.cons rfl .finish rfl .nil)))))))))
  have hrun : (scaleUp ⟨false⟩ poolGroup 2).Run Cloud.any ()
      [.drew 0, .drew 1, .batch (twoUnits tag)]
      (.error (.scaleUp [(Error.connection "reset").message])) () :=
    scaleUp_run_iff.mpr ⟨[0, 1], twoUnits tag, _, rfl, rfl, hends, rfl⟩
  exact ⟨hrun, scaleUp_accounts hrun⟩

end

end Provisioner
end NodeGroups
