import NodeGroups.Proofs.ScaleUp

namespace NodeGroups

/-- A way to reply to every call. -/
abbrev Replies := (c : Call) → c.Reply

/-- Moments in which every call is replied to in the given way. -/
def Replies.Given {α : Type} (answer : Replies) (ms : List (Moment α)) : Prop :=
  ∀ c reply, .answered c reply ∈ ms → reply = answer c

namespace Replies

variable {α : Type} {answer : Replies} {ms : List (Moment α)}

@[simp] theorem given_nil : answer.Given ([] : List (Moment α)) := by
  intro c reply h
  cases h

@[simp] theorem given_asked_cons {c : Call} : answer.Given (.asked c :: ms) ↔ answer.Given ms := by
  simp [Given]

@[simp] theorem given_ended_cons {a : α} : answer.Given (.ended a :: ms) ↔ answer.Given ms := by
  simp [Given]

@[simp] theorem given_answered_cons {c : Call} {reply : c.Reply} :
    answer.Given (.answered c reply :: ms) ↔ reply = answer c ∧ answer.Given ms := by
  constructor
  · intro h
    exact ⟨h c reply (by simp), fun c' reply' h' => h c' reply' (by simp [h'])⟩
  · rintro ⟨hreply, hms⟩ c' reply' h
    rcases List.mem_cons.mp h with h | h
    · cases h
      exact hreply
    · exact hms c' reply' h

end Replies

/-- The replies decide the whole life of a task. -/
theorem Task.Lives.unique {α : Type} {t : Task α} {answer : Replies} {ms ms' : List (Moment α)}
    {a a' : α} (h : t.Lives ms a) (h' : t.Lives ms' a') (hgiven : answer.Given ms)
    (hgiven' : answer.Given ms') : ms = ms' ∧ a = a' := by
  induction h generalizing ms' with
  | done =>
    obtain ⟨rfl, rfl⟩ := Lives.done_iff.mp h'
    exact ⟨rfl, rfl⟩
  | @call c next reply ms a rest ih =>
    obtain ⟨reply', later, rfl, hlater⟩ := Lives.call_iff.mp h'
    simp only [Replies.given_asked_cons, Replies.given_answered_cons] at hgiven hgiven'
    obtain ⟨rfl, hms⟩ := hgiven
    obtain ⟨rfl, hms'⟩ := hgiven'
    obtain ⟨rfl, rfl⟩ := ih hlater hms hms'
    exact ⟨rfl, rfl⟩

/-- What a creation may meet with: the replies to the deployment of a machine, to its tagging and to its
destruction. A reply that is never asked for may be any. -/
structure Outcomes where
  deployed : Except DeployFailure VirtualMachine
  tagged : Except Error Unit
  destroyed : Except Error Unit

namespace Outcomes

def reply (o : Outcomes) : Replies
  | .deploy _ => o.deployed
  | .tag _ => o.tagged
  | .destroy _ => o.destroyed
  | .listProjects => .error default
  | .listProfiles _ => .error default
  | .listDetails _ => .error default
  | .listMachines _ => .error default
  | .getOffering _ => .error default
  | .getZone _ => .error default

/-- A machine that must not stay: one that a failed deployment names, or one that cannot be tagged. -/
def Leaves (o : Outcomes) (vmId : String) : Prop :=
  match o.deployed, o.tagged with
  | .error f, _ => f.vmId = some vmId ∧ vmId ≠ ""
  | .ok vm, .error _ => vm.id = vmId
  | .ok _, .ok _ => False

/-- The error that ends a creation: that of the deployment, or that of the tagging. -/
def Triggers (o : Outcomes) (cause : Error) : Prop :=
  match o.deployed, o.tagged with
  | .error f, _ => f.error = cause
  | .ok _, .error e => e = cause
  | .ok _, .ok _ => False

end Outcomes

namespace Moment

variable {α : Type}

def tagAsked? : Moment α → Option TagRequest
  | asked (.tag r) => some r
  | _ => none

def destroyAsked? : Moment α → Option DestroyRequest
  | asked (.destroy r) => some r
  | _ => none

end Moment

namespace Provisioner

variable {p : Provisioner} {deploy : DeployRequest} {tags : TagRequest}

/-- What a creation does when it meets with these outcomes. -/
structure Conduct (p : Provisioner) (deploy : DeployRequest) (tags : TagRequest) (o : Outcomes)
    (ms : List (Moment (Except Error String))) (result : Except Error String) : Prop where
  /-- It asks once to deploy. -/
  deploys : ms.filterMap Moment.deployment? = [deploy]
  /-- It asks once to tag the machine, if there is one, and else not at all. -/
  tags : ms.filterMap Moment.tagAsked? =
    o.deployed.toOption.toList.map fun vm => ⟨[vm.id], "UserVm", tags.tags⟩
  /-- It asks once to destroy a machine that must not stay. -/
  destroys : ∀ vmId, o.Leaves vmId → ms.filterMap Moment.destroyAsked? = [⟨vmId, p.expunge⟩]
  /-- If there is none, nothing is destroyed. -/
  spares : (∀ vmId, ¬ o.Leaves vmId) → ms.filterMap Moment.destroyAsked? = []
  ok_iff : ∀ vmId, result = .ok vmId ↔ o.tagged = .ok () ∧ ∃ vm, o.deployed = .ok vm ∧ vm.id = vmId
  /-- When nothing is left behind, the error is the one that came first. -/
  cause : ∀ cause, o.Triggers cause → (∀ vmId, o.Leaves vmId → Gone vmId o.destroyed) →
    result = .error cause
  /-- When the machine of a failed deployment may have stayed, both errors are kept. -/
  createCleanup : ∀ f vmId e, o.deployed = .error f → o.Leaves vmId → o.destroyed = .error e →
    e.isNotFound vmId = false → result = .error (.createCleanup e f.error)
  /-- And so they are for a machine that could not be tagged. -/
  tagCleanup : ∀ vm cause e, o.deployed = .ok vm → o.tagged = .error cause → o.destroyed = .error e →
    e.isNotFound vm.id = false → result = .error (.tagCleanup e cause)

/-- The result of a clean-up. -/
def cleaned (vmId : String) (cause : Error) (wrap : Error → Error) :
    Except Error Unit → Except Error String
  | .ok () => .error cause
  | .error e => .error (if e.isNotFound vmId then cause else wrap e)

theorem cleaned_of_gone {vmId : String} {cause : Error} {wrap : Error → Error}
    {reply : Except Error Unit} (h : Gone vmId reply) : cleaned vmId cause wrap reply = .error cause := by
  cases reply with
  | ok u => rfl
  | error e => rw [cleaned, if_pos (h e rfl)]

theorem cleaned_of_error {vmId : String} {cause e : Error} {wrap : Error → Error}
    (h : e.isNotFound vmId = false) : cleaned vmId cause wrap (.error e) = .error (wrap e) := by
  rw [cleaned, h]
  rfl

theorem cleaned_ne_ok {vmId vmId' : String} {cause : Error} {wrap : Error → Error}
    {reply : Except Error Unit} : cleaned vmId cause wrap reply ≠ .ok vmId' := by
  cases reply <;> simp [cleaned]

/-- The moments of a clean-up, up to the end of the creation. -/
def cleanup (p : Provisioner) (vmId : String) (cause : Error) (wrap : Error → Error)
    (reply : Except Error Unit) : List (Moment (Except Error String)) :=
  [.asked (.destroy ⟨vmId, p.expunge⟩), .answered (.destroy ⟨vmId, p.expunge⟩) reply,
    .ended (cleaned vmId cause wrap reply)]

theorem cleanup_lives (p : Provisioner) (vmId : String) (cause : Error) (wrap : Error → Error)
    (reply : Except Error Unit) {next : Except Error Unit → Task (Except Error String)}
    (hok : next (.ok ()) = .done (.error cause))
    (herror : ∀ e, next (.error e) = .done (.error (wrap e))) :
    (p.destroy vmId >>= next).Lives (p.cleanup vmId cause wrap reply)
      (cleaned vmId cause wrap reply) := by
  refine Task.Lives.call_iff.mpr ⟨reply, _, rfl, ?_⟩
  cases reply with
  | ok u =>
    change (next (.ok ())).Lives _ _
    rw [hok]
    exact .done
  | error e =>
    change (next (if e.isNotFound vmId then .ok () else .error e)).Lives _ _
    by_cases gone : e.isNotFound vmId = true
    · rw [if_pos gone, hok, cleaned, if_pos gone]
      exact .done
    · rw [if_neg gone, herror, cleaned, if_neg gone]
      exact .done

/-- A creation that ends with a clean-up. What it is for decides which machine is destroyed, and how both
errors are kept. -/
theorem Conduct.of_cleanup {o : Outcomes} {vmId : String} {cause : Error} {wrap : Error → Error}
    {before : List (Moment (Except Error String))} (hleaves : ∀ v, o.Leaves v ↔ v = vmId)
    (htriggers : ∀ e, o.Triggers e ↔ e = cause) (hfailed : ∀ vm, o.deployed = .ok vm → o.tagged ≠ .ok ())
    (hdeploys : before.filterMap Moment.deployment? = [deploy])
    (htags : before.filterMap Moment.tagAsked? =
      o.deployed.toOption.toList.map fun vm => ⟨[vm.id], "UserVm", tags.tags⟩)
    (hdestroys : before.filterMap Moment.destroyAsked? = [])
    (hcreate : ∀ f, o.deployed = .error f → wrap = (.createCleanup · f.error))
    (htag : ∀ vm e, o.deployed = .ok vm → o.tagged = .error e → wrap = (.tagCleanup · e)) :
    Conduct p deploy tags o (before ++ p.cleanup vmId cause wrap o.destroyed)
      (cleaned vmId cause wrap o.destroyed) := by
  constructor
  case deploys => simp [hdeploys, cleanup, Moment.deployment?]
  case tags => simp [htags, cleanup, Moment.tagAsked?]
  case destroys =>
    intro v hv
    obtain rfl := (hleaves v).mp hv
    simp [hdestroys, cleanup, Moment.destroyAsked?]
  case spares =>
    intro hnone
    exact absurd ((hleaves vmId).mpr rfl) (hnone vmId)
  case ok_iff =>
    intro v
    refine ⟨fun hok => absurd hok cleaned_ne_ok, ?_⟩
    rintro ⟨htagged, vm, hvm, -⟩
    exact absurd htagged (hfailed vm hvm)
  case cause =>
    intro e he hgone
    obtain rfl := (htriggers e).mp he
    exact cleaned_of_gone (hgone vmId ((hleaves vmId).mpr rfl))
  case createCleanup =>
    intro f v e hf hv hdestroyed hstays
    obtain rfl := (hleaves v).mp hv
    rw [hdestroyed, cleaned_of_error hstays, hcreate f hf]
  case tagCleanup =>
    intro vm e e' hvm htagged hdestroyed hstays
    have hleft : o.Leaves vm.id := by simp [Outcomes.Leaves, hvm, htagged]
    rw [(hleaves vm.id).mp hleft] at hstays
    rw [hdestroyed, cleaned_of_error hstays, htag vm e hvm htagged]

section

variable (p : Provisioner) (deploy : DeployRequest) (tags : TagRequest)

/-- A creation that meets with these outcomes comes to an end, and this is how. -/
def Ends (o : Outcomes) : Prop :=
  ∃ ms result, (p.create deploy tags).Lives ms result ∧ o.reply.Given ms ∧
    Conduct p deploy tags o ms result

theorem ends_of_tagged (vm : VirtualMachine) (destroyed : Except Error Unit) :
    p.Ends deploy tags ⟨.ok vm, .ok (), destroyed⟩ := by
  refine ⟨_, .ok vm.id, Task.Lives.ask_iff.mpr ⟨.ok vm, _, rfl,
    Task.Lives.ask_iff.mpr ⟨.ok (), _, rfl, .done⟩⟩, by simp [Outcomes.reply], ?_⟩
  constructor
  case deploys => rfl
  case tags => rfl
  case destroys => exact fun v hv => hv.elim
  case spares => exact fun _ => rfl
  case ok_iff => simp
  case cause => exact fun cause hcause => hcause.elim
  case createCleanup => exact fun f v e hf => by cases hf
  case tagCleanup => exact fun vm cause e _ htagged => by cases htagged

theorem ends_of_untagged (vm : VirtualMachine) (cause : Error) (destroyed : Except Error Unit) :
    p.Ends deploy tags ⟨.ok vm, .error cause, destroyed⟩ := by
  let tag := tags.forMachine vm.id
  let before : List (Moment (Except Error String)) :=
    [.asked (.deploy deploy), .answered (.deploy deploy) (.ok vm), .asked (.tag tag),
      .answered (.tag tag) (.error cause)]
  have hlives : (p.create deploy tags).Lives
      (before ++ p.cleanup vm.id cause (.tagCleanup · cause) destroyed)
      (cleaned vm.id cause (.tagCleanup · cause) destroyed) := by
    refine Task.Lives.ask_iff.mpr ⟨.ok vm, _, rfl, Task.Lives.ask_iff.mpr ⟨.error cause, _, rfl, ?_⟩⟩
    exact cleanup_lives p vm.id cause (.tagCleanup · cause) destroyed rfl fun e => rfl
  refine ⟨_, _, hlives, by simp [before, cleanup, Outcomes.reply], ?_⟩
  refine Conduct.of_cleanup ?_ ?_ ?_ rfl rfl rfl ?_ ?_
  · simp [Outcomes.Leaves, eq_comm]
  · simp [Outcomes.Triggers, eq_comm]
  · simp
  · simp
  · simp

theorem ends_of_named (f : DeployFailure) (tagged destroyed : Except Error Unit) {vmId : String}
    (h : f.vmId.filter (· ≠ "") = some vmId) : p.Ends deploy tags ⟨.error f, tagged, destroyed⟩ := by
  obtain ⟨named, cause⟩ := f
  let before : List (Moment (Except Error String)) :=
    [.asked (.deploy deploy), .answered (.deploy deploy) (.error ⟨named, cause⟩)]
  have hlives : (p.create deploy tags).Lives
      (before ++ p.cleanup vmId cause (.createCleanup · cause) destroyed)
      (cleaned vmId cause (.createCleanup · cause) destroyed) := by
    refine Task.Lives.ask_iff.mpr ⟨.error ⟨named, cause⟩, _, rfl, ?_⟩
    simp only [h]
    exact cleanup_lives p vmId cause (.createCleanup · cause) destroyed rfl fun e => rfl
  obtain ⟨hnamed, hne⟩ := Option.filter_eq_some_iff.mp h
  have hne : vmId ≠ "" := of_decide_eq_true hne
  refine ⟨_, _, hlives, by simp [before, cleanup, Outcomes.reply], ?_⟩
  refine Conduct.of_cleanup ?_ ?_ ?_ rfl rfl rfl ?_ ?_
  · intro v
    simp only [Outcomes.Leaves] at hnamed ⊢
    subst hnamed
    constructor
    · intro hv
      exact (Option.some.inj hv.1).symm
    · rintro rfl
      exact ⟨rfl, hne⟩
  · simp [Outcomes.Triggers, eq_comm]
  · simp
  · simp
  · simp

theorem ends_of_unnamed (f : DeployFailure) (tagged destroyed : Except Error Unit)
    (h : f.vmId.filter (· ≠ "") = none) : p.Ends deploy tags ⟨.error f, tagged, destroyed⟩ := by
  obtain ⟨named, cause⟩ := f
  have hlives : (p.create deploy tags).Lives
      [.asked (.deploy deploy), .answered (.deploy deploy) (.error ⟨named, cause⟩),
        .ended (.error cause)] (.error cause) := by
    refine Task.Lives.ask_iff.mpr ⟨.error ⟨named, cause⟩, _, rfl, ?_⟩
    simp only [h]
    exact .done
  have hspared (v : String) : ¬ Outcomes.Leaves ⟨.error ⟨named, cause⟩, tagged, destroyed⟩ v := by
    rintro ⟨rfl, hne⟩
    simp [hne] at h
  refine ⟨_, _, hlives, by simp [Outcomes.reply], ?_⟩
  constructor
  case deploys => rfl
  case tags => rfl
  case destroys => exact fun v hv => absurd hv (hspared v)
  case spares => exact fun _ => rfl
  case ok_iff => simp
  case cause =>
    intro e he _
    exact congrArg Except.error he
  case createCleanup => exact fun _ v _ _ hv => absurd hv (hspared v)
  case tagCleanup => exact fun vm _ _ hvm => by cases hvm

theorem ends (o : Outcomes) : p.Ends deploy tags o := by
  obtain ⟨deployed, tagged, destroyed⟩ := o
  cases deployed with
  | ok vm =>
    cases tagged with
    | ok u => exact p.ends_of_tagged deploy tags vm destroyed
    | error cause => exact p.ends_of_untagged deploy tags vm cause destroyed
  | error f =>
    cases h : f.vmId.filter (· ≠ "") with
    | none => exact p.ends_of_unnamed deploy tags f tagged destroyed h
    | some vmId => exact p.ends_of_named deploy tags f tagged destroyed h

end

/-- No creation asks for a thing twice, so what it is replied are the outcomes it meets with. -/
theorem exists_given {ms : List (Moment (Except Error String))} {result : Except Error String}
    (h : (p.create deploy tags).Lives ms result) : ∃ o : Outcomes, o.reply.Given ms := by
  obtain ⟨deployed, rest, rfl, hrest⟩ := create_lives h
  cases deployed with
  | ok vm =>
    obtain ⟨tagged, after, rfl, hafter⟩ := hrest
    cases tagged with
    | ok u =>
      obtain ⟨rfl, -⟩ := hafter
      exact ⟨⟨.ok vm, .ok u, .ok ()⟩, by simp [Outcomes.reply]⟩
    | error cause =>
      obtain ⟨destroyed, rfl, -⟩ := hafter
      exact ⟨⟨.ok vm, .error cause, destroyed⟩, by simp [Outcomes.reply]⟩
  | error f =>
    unfold GoesOn at hrest
    dsimp only at hrest
    split at hrest
    · obtain ⟨rfl, -⟩ := hrest
      exact ⟨⟨.error f, .ok (), .ok ()⟩, by simp [Outcomes.reply]⟩
    · obtain ⟨destroyed, rfl, -⟩ := hrest
      exact ⟨⟨.error f, .ok (), destroyed⟩, by simp [Outcomes.reply]⟩

/-- Every creation meets with some outcomes, and whatever they are there is exactly one way for it to go:
it deploys once, tags once what was deployed, destroys once what must not stay, and gives the machine, or
the error that came first, or that one and the error of the destruction. -/
theorem create_conducts (p : Provisioner) (deploy : DeployRequest) (tags : TagRequest) :
    (∀ ms result, (p.create deploy tags).Lives ms result → ∃ o : Outcomes, o.reply.Given ms) ∧
    ∀ o : Outcomes, ∃ ms result, Conduct p deploy tags o ms result ∧
      ∀ ms' result', (p.create deploy tags).Lives ms' result' ∧ o.reply.Given ms' ↔
        ms' = ms ∧ result' = result := by
  refine ⟨fun ms result h => exists_given h, fun o => ?_⟩
  obtain ⟨ms, result, hlives, hgiven, hconduct⟩ := p.ends deploy tags o
  refine ⟨ms, result, hconduct, fun ms' result' => ⟨?_, ?_⟩⟩
  · rintro ⟨hlives', hgiven'⟩
    exact hlives'.unique hlives hgiven' hgiven
  · rintro ⟨rfl, rfl⟩
    exact ⟨hlives, hgiven⟩

/-- A machine cannot be tagged, and is not there any more when it is to be destroyed. -/
def vanished : Outcomes :=
  ⟨.ok ⟨"vm1", "", none, "Running", none, none, []⟩, .error (.connection "reset"),
    .error (.api 431 (Error.notFoundText "vm1"))⟩

theorem create_conducts_of_vanished :
    ∃ ms, (create ⟨true⟩ (DeployRequest.ofDefinition default) (TagRequest.ofDefinition default)).Lives ms
        (.error (.connection "reset")) ∧
      ms.filterMap Moment.destroyAsked? = [⟨"vm1", true⟩] := by
  obtain ⟨-, hall⟩ := create_conducts ⟨true⟩ (DeployRequest.ofDefinition default)
    (TagRequest.ofDefinition default)
  obtain ⟨ms, result, hconduct, hiff⟩ := hall vanished
  obtain ⟨hlives, -⟩ := (hiff ms result).mpr ⟨rfl, rfl⟩
  have hgone (vmId : String) (hleft : vanished.Leaves vmId) : Gone vmId vanished.destroyed := by
    obtain rfl : "vm1" = vmId := hleft
    intro e he
    rw [← Except.error.inj he]
    exact Error.isNotFound_api 431 "vm1"
  have hresult : result = .error (.connection "reset") := hconduct.cause _ rfl hgone
  rw [hresult] at hlives
  exact ⟨ms, hlives, hconduct.destroys "vm1" rfl⟩

end Provisioner
end NodeGroups
