import NodeGroups.Proofs.Json.Records
import NodeGroups.Proofs.Turns

namespace NodeGroups

/-- A member that is a text other than the empty one. -/
def Json.textAt? (key : String) (j : Json) : Option String :=
  ((j.get? key).bind Json.string?).filter (· ≠ "")

/-- The machine in the content of a response to a deployment. -/
def Response.entityId? (r : Response) : Option String :=
  r.content.toOption.bind (Json.textAt? "id")

/-- The machine in the result of a job that a response says to have succeeded. -/
def Response.machineId? (r : Response) : Option String :=
  (JobWait.success? r).bind fun result => (result.get? "virtualmachine").bind (Json.textAt? "id")

/-- The machine that responses hand out: the one in the response to the deployment, or else the one in
the result of its job. -/
def handedOut? (turns : List Turn) : Option String :=
  ((turns.filter (·.request.command = DeployRequest.command)).findSome? (·.response.entityId?)).or
    ((turns.filter (·.request.command = JobWait.command)).findSome? (·.response.machineId?))

/-- A response to a deployment whose content names the machine `v` along with its job. -/
def Turn.Names (v : String) (t : Turn) : Prop :=
  t.request.command = DeployRequest.command ∧
    ∃ content, t.response.content = .ok content ∧ JobHandle.Names v content

/-- A response is read as a handle with a machine when its content names the machine. -/
theorem Response.decode_names_iff {r : Response} {v : String} :
    (r.decode DeployRequest.command JobHandle.decode).toOption.bind JobHandle.entityId = some v ↔
      ∃ content, r.content = .ok content ∧ JobHandle.Names v content := by
  unfold decode
  cases hc : r.content with
  | error e => simp [Except.toOption]
  | ok content =>
    have hnames := JobHandle.decode_names_iff (content_ordered hc) (v := v)
    constructor
    · intro h
      refine ⟨content, rfl, hnames.mp ?_⟩
      cases hd : JobHandle.decode content with
      | error e =>
        simp only [hd] at h
        cases h
      | ok handle =>
        obtain ⟨entityId, jobId⟩ := handle
        simp only [hd] at h
        cases h
        exact ⟨jobId, rfl⟩
    · intro h
      obtain ⟨content', hcontent, hn⟩ := h
      cases hcontent
      obtain ⟨jobId, hd⟩ := hnames.mpr hn
      simp only [hd]
      rfl

def Response.withoutJob : Response :=
  .received 200 "\x7b\"deployvirtualmachineresponse\":\x7b\"id\":\"vm1\"\x7d\x7d"

theorem Response.withoutJob_content : withoutJob.content = .ok (.obj [("id", .str "vm1")]) := by
  with_unfolding_all rfl

namespace Client

variable {c : Client} {now last : Nat} {turns : List Turn} {r : DeployRequest} {f : DeployFailure}

/-- A failed deployment names a machine exactly when the response to its request did so along with a
job. -/
theorem vmId_eq_some_iff (h : (c.deploy r).Run now turns (.error f) last) {v : String} :
    f.vmId = some v ↔ ∃ t ∈ turns, t.Names v := by
  obtain ⟨start, looks, rfl, hrequest, hwatch, -, hid⟩ := deploy_run h
  rw [hid f rfl, Response.decode_names_iff]
  constructor
  · intro hnamed
    obtain ⟨content, hcontent, hn⟩ := hnamed
    exact ⟨start, List.mem_cons_self, by rw [hrequest]; rfl, content, hcontent, hn⟩
  · intro hnamed
    obtain ⟨t, ht, hcommand, content, hcontent, hn⟩ := hnamed
    rcases List.mem_cons.mp ht with rfl | ht
    · exact ⟨content, hcontent, hn⟩
    · have hlook := hwatch.onlyLooks t ht
      rw [hcommand] at hlook
      exact absurd hlook (by decide)

/-- A deployment that fails after responses handed out its machine names that machine exactly when the
response to its request named it along with a job. A response that names a machine and no job is not
enough, and neither is a job whose result names the machine first. -/
theorem handedOut_kept_iff (h : (c.deploy r).Run now turns (.error f) last) :
    (∀ v, handedOut? turns = some v → f.vmId = some v) ↔
      ∀ v, handedOut? turns = some v → ∃ t ∈ turns, t.Names v := by
  constructor
  · intro hkept v hv
    exact (vmId_eq_some_iff h).mp (hkept v hv)
  · intro hnamed v hv
    exact (vmId_eq_some_iff h).mpr (hnamed v hv)

/-- Here the response names its job: the connection breaks off during the wait, and the failure still
names the machine. -/
theorem handedOut_kept_with_job :
    (nearby.deploy .bare).Run 0 [bareTurn .withJob, lostLook]
        (.error ⟨some "vm1", .connection "HTTP request failed: connection reset"⟩) 0 ∧
      ((∀ v, handedOut? [bareTurn .withJob, lostLook] = some v → some "vm1" = some v) ↔
        ∀ v, handedOut? [bareTurn .withJob, lostLook] = some v →
          ∃ t ∈ [bareTurn .withJob, lostLook], t.Names v) ∧
      handedOut? [bareTurn .withJob, lostLook] = some "vm1" := by
  have hid : Response.withJob.entityId? = some "vm1" := by with_unfolding_all rfl
  exact ⟨deploy_run_lostLook, handedOut_kept_iff deploy_run_lostLook,
    by simp [handedOut?, bareTurn, request, hid]⟩

def missingJob : Error :=
  .connection ("Failed to parse " ++ DeployRequest.command ++ " response: " ++
    (DecodeError.missingField "jobid").message)

/-- Here the response names the machine alone, and the failure names none. -/
theorem handedOut_dropped_without_job :
    (nearby.deploy .bare).Run 0 [bareTurn .withoutJob] (.error ⟨none, missingJob⟩) 0 ∧
      handedOut? [bareTurn .withoutJob] = some "vm1" := by
  have hhandle : Response.withoutJob.decode DeployRequest.command JobHandle.decode =
      .error missingJob := by
    rw [Response.decode, Response.withoutJob_content]
    rfl
  have hid : Response.withoutJob.entityId? = some "vm1" := by
    rw [Response.entityId?, Response.withoutJob_content]
    rfl
  refine ⟨?_, by simp [handedOut?, bareTurn, request, hid]⟩
  refine Conversation.run_bind_iff.mpr
    ⟨_, _, _, _, rfl, get_run_iff.mpr ⟨0, .withoutJob, rfl, rfl, rfl⟩, ?_⟩
  rw [hhandle]
  exact .done

end Client
end NodeGroups
