import NodeGroups.Engine.Provisioner
import NodeGroups.Proofs.MapParameters
import NodeGroups.Proofs.Turns

namespace NodeGroups

/-- The looks at the job that a command started: what follows its request, as long as it is looks. -/
def jobLooks (command : String) (turns : List Turn) : List Turn :=
  ((turns.dropWhile (·.request.command ≠ command)).drop 1).takeWhile
    (·.request.command = "queryAsyncJobResult")

/-- The job that a command started was seen to succeed: the response to the command gave the id of the
job, every look was at that job, and the last one told of the success and the result. -/
def JobDone (command : String) (turns : List Turn) (value : Json) : Prop :=
  ∃ start entityId jobId last result, turns.find? (·.request.command = command) = some start ∧
    start.response.Starts entityId jobId ∧ (∀ t ∈ jobLooks command turns, t.LooksAt jobId) ∧
    (jobLooks command turns).getLast? = some last ∧ last.response.Tells 1 result ∧
    value = result.getD .null

/-- The deployment succeeded, and the machine in its result has this id. -/
def Delivered (vmId : String) (turns : List Turn) : Prop :=
  ∃ value j vm, JobDone "deployVirtualMachine" turns value ∧ value.get? "virtualmachine" = some j ∧
    VirtualMachine.Describes j vm ∧ vm.id = vmId

theorem jobLooks_eq {command : String} {before looks after : List Turn} {start : Turn}
    (hbefore : ∀ t ∈ before, t.request.command ≠ command) (hstart : start.request.command = command)
    (hlooks : Client.OnlyLooks looks)
    (hafter : ∀ t ∈ after.head?, t.request.command ≠ "queryAsyncJobResult") :
    jobLooks command (before ++ start :: (looks ++ after)) = looks := by
  have hrest : after.takeWhile (·.request.command = "queryAsyncJobResult") = [] := by
    cases after with
    | nil => rfl
    | cons t ts => simp [hafter t rfl]
  have hdrop : (before ++ start :: (looks ++ after)).dropWhile (·.request.command ≠ command) =
      start :: (looks ++ after) := by
    rw [List.dropWhile_append_of_pos (by simpa using hbefore)]
    simp [hstart]
  rw [jobLooks, hdrop, List.drop_one, List.tail_cons,
    List.takeWhile_append_of_pos (by simpa using fun t ht => hlooks t ht), hrest, List.append_nil]

theorem outcome?_eq_some_iff {looks : List Turn} {value : Json} :
    JobWait.outcome? looks = some value ↔ ∃ last result, looks.getLast? = some last ∧
      last.response.Tells 1 result ∧ value = result.getD .null := by
  simp only [JobWait.outcome?, Option.bind_eq_some_iff, JobWait.success?_eq_some_iff, exists_and_left]

/-- Whether a job is done is told by the looks that follow its command. -/
theorem jobDone_iff {command : String} {before looks after : List Turn} {start : Turn}
    (hbefore : ∀ t ∈ before, t.request.command ≠ command) (hstart : start.request.command = command)
    (hwatch : Client.Watch start looks)
    (hafter : ∀ t ∈ after.head?, t.request.command ≠ "queryAsyncJobResult") {value : Json} :
    JobDone command (before ++ start :: (looks ++ after)) value ↔
      JobWait.outcome? looks = some value := by
  have hfind : (before ++ start :: (looks ++ after)).find? (·.request.command = command) =
      some start := by
    rw [List.find?_append, List.find?_eq_none.mpr (by simpa using hbefore), Option.none_or,
      List.find?_cons_of_pos (by simpa using hstart)]
  rw [JobDone, jobLooks_eq hbefore hstart hwatch.onlyLooks hafter, hfind, outcome?_eq_some_iff]
  constructor
  · rintro ⟨_, _, _, last, result, -, -, -, hlast, htells, hvalue⟩
    exact ⟨last, result, hlast, htells, hvalue⟩
  · rintro ⟨last, result, hlast, htells, hvalue⟩
    obtain ⟨entityId, jobId, hstarts, -⟩ := hwatch last (List.mem_of_getLast? hlast)
    refine ⟨start, entityId, jobId, last, result, rfl, hstarts, fun t ht => ?_, hlast, htells, hvalue⟩
    obtain ⟨_, jobId', hstarts', hlooks⟩ := hwatch t ht
    rwa [(hstarts.unique hstarts').2] at hlooks

theorem outcome?_ordered {looks : List Turn} {value : Json}
    (h : JobWait.outcome? looks = some value) : value.Ordered := by
  obtain ⟨last, result, -, htells, rfl⟩ := outcome?_eq_some_iff.mp h
  cases result with
  | none => exact .null
  | some v => exact htells.ordered

theorem Client.deployed_eq_some_iff {value : Json} (h : value.Ordered) {vm : VirtualMachine} :
    (deployed value).toOption = some vm ↔
      ∃ j, value.get? "virtualmachine" = some j ∧ VirtualMachine.Describes j vm := by
  unfold deployed
  cases hget : value.get? "virtualmachine" with
  | none => simp [Except.toOption]
  | some j =>
    simp only [Option.some.injEq, exists_eq_left', ← VirtualMachine.decode_eq_ok_iff (h.get? hget)]
    cases VirtualMachine.decode j <;> simp [Except.toOption]

/-- The machine of a deployment stands in the last look at its job. -/
theorem delivered_iff {start : Turn} {looks after : List Turn}
    (hstart : start.request.command = "deployVirtualMachine") (hwatch : Client.Watch start looks)
    (hafter : ∀ t ∈ after.head?, t.request.command ≠ "queryAsyncJobResult") {vmId : String} :
    Delivered vmId (start :: (looks ++ after)) ↔ ∃ vm, ((JobWait.outcome? looks).bind fun value =>
      (Client.deployed value).toOption) = some vm ∧ vm.id = vmId := by
  have hdone {value : Json} : JobDone "deployVirtualMachine" (start :: (looks ++ after)) value ↔
      JobWait.outcome? looks = some value :=
    jobDone_iff (List.forall_mem_nil _) hstart hwatch hafter
  simp only [Delivered, hdone, Option.bind_eq_some_iff]
  constructor
  · rintro ⟨value, j, vm, hvalue, hget, hvm, hid⟩
    exact ⟨vm, ⟨value, hvalue, (Client.deployed_eq_some_iff (outcome?_ordered hvalue)).mpr
      ⟨j, hget, hvm⟩⟩, hid⟩
  · rintro ⟨vm, ⟨value, hvalue, hdeployed⟩, hid⟩
    obtain ⟨j, hget, hvm⟩ := (Client.deployed_eq_some_iff (outcome?_ordered hvalue)).mp hdeployed
    exact ⟨value, j, vm, hvalue, hget, hvm, hid⟩

namespace Client

variable {α β : Type}

/-- What the client does for a task: one call after the other. -/
def carry (c : Client) : Task α → Conversation α
  | .done a => .done a
  | .call call next => (c.perform call).bind fun reply => c.carry (next reply)

theorem carry_bind (c : Client) (t : Task α) (f : α → Task β) :
    c.carry (t >>= f) = (c.carry t).bind fun a => c.carry (f a) := by
  change c.carry (t.bind f) = _
  induction t with
  | done a => rfl
  | call call next ih => simp only [Task.call_bind, carry, Conversation.bind_assoc, ih]

theorem carry_ask (c : Client) (call : Call) : c.carry (Task.ask call) = c.perform call :=
  Conversation.bind_done _

/-- Whatever a task asks for, the client sends its requests to signed addresses. -/
theorem carry_signs (c : Client) (t : Task α) : (c.carry t).Sends c.Signs := by
  induction t with
  | done a => trivial
  | call call next ih => exact (c.perform_signs call).bind ih

end Client

/-- A turn that asks for a machine to be destroyed. -/
def Turn.Destroys (vmId : String) (expunge : Bool) (t : Turn) : Prop :=
  t.request.command = "destroyVirtualMachine" ∧ ∀ key, t.request.query.get? key =
    if key = "id" then some vmId
    else if key = "expunge" then some (if expunge then "true" else "false") else none

theorem DestroyRequest.get?_query (vmId : String) (expunge : Bool) (key : String) :
    (query ⟨vmId, expunge⟩).get? key = if key = "id" then some vmId
      else if key = "expunge" then some (if expunge then "true" else "false") else none := by
  change ((TextMap.empty.insert "id" vmId).insert "expunge" _).get? key = _
  rw [TextMap.get?_insert, TextMap.get?_insert, TextMap.get?_empty]
  by_cases hid : key = "id"
  · subst hid
    simp
  · simp [hid]

/-- A turn that asks for a machine to be tagged. -/
def Turn.Tags (vmId : String) (t : Turn) : Prop :=
  t.request.command = "createTags" ∧ t.request.query.get? "resourceids" = some vmId ∧
    t.request.query.get? "resourcetype" = some "UserVm"

theorem Turn.tags_of_request {c : Client} {tags : TagRequest} {vmId : String} {t : Turn}
    (h : t.request = c.request TagRequest.command (tags.forMachine vmId).query) : t.Tags vmId := by
  have hcarries := Query.carries_tagRequest (tags.forMachine vmId)
  rw [Turn.Tags, h]
  exact ⟨rfl, hcarries.others "resourceids" (by decide), hcarries.others "resourcetype" (by decide)⟩

namespace Client

variable {c : Client} {p : Provisioner} {now last : Nat} {turns : List Turn}

/-- Turns that destroy a machine: one request, and looks at its job. -/
def Destroys (p : Provisioner) (vmId : String) (turns : List Turn) : Prop :=
  ∃ start looks, turns = start :: looks ∧ start.Destroys vmId p.expunge ∧ OnlyLooks looks

theorem destroy_run {vmId : String} {result : Except Error Unit}
    (h : (c.carry (p.destroy vmId)).Run now turns result last) : Destroys p vmId turns := by
  rw [Provisioner.destroy, carry_bind, carry_ask] at h
  obtain ⟨first, reply, middle, rest, rfl, hperform, hrest⟩ := Conversation.run_bind_iff.mp h
  obtain ⟨start, looks, rfl, hrequest, hwatch, -⟩ := carryOut_run hperform
  have hdone : rest = [] := by
    cases reply with
    | error e => exact (Conversation.run_done_iff.mp hrest).1
    | ok u => exact (Conversation.run_done_iff.mp hrest).1
  refine ⟨start, looks, by rw [hdone, List.append_nil], ?_, hwatch.onlyLooks⟩
  rw [Turn.Destroys, hrequest]
  exact ⟨rfl, DestroyRequest.get?_query vmId p.expunge⟩

/-- After a failure the machine is destroyed, and whatever comes of that, the failure stays. -/
theorem cleanup_run {vmId : String} {next : Except Error Unit → Task (Except Error String)}
    (hnext : ∀ reply, ∃ e, next reply = .done (.error e)) {result : Except Error String}
    (h : (c.carry (p.destroy vmId >>= next)).Run now turns result last) :
    Destroys p vmId turns ∧ ∃ e, result = .error e := by
  rw [carry_bind] at h
  obtain ⟨first, reply, middle, rest, rfl, hdestroy, hrest⟩ := Conversation.run_bind_iff.mp h
  obtain ⟨e, he⟩ := hnext reply
  rw [he] at hrest
  obtain ⟨rfl, rfl, -⟩ := Conversation.run_done_iff.mp hrest
  rw [List.append_nil]
  exact ⟨destroy_run hdestroy, e, rfl⟩

/-- What follows the deployment of a machine: it is tagged, and if that fails it is destroyed. -/
theorem tagging_run {tags : TagRequest} {vm : VirtualMachine} {result : Except Error String}
    (h : (c.carry (do
      match ← Task.ask (.tag (tags.forMachine vm.id)) with
      | .ok () => return .ok vm.id
      | .error cause =>
        match ← p.destroy vm.id with
        | .ok () => return .error cause
        | .error destroy => return .error (.tagCleanup destroy cause))).Run now turns result last) :
    ∃ start looks rest, turns = start :: (looks ++ rest) ∧ start.Tags vm.id ∧ Watch start looks ∧
      (((JobWait.outcome? looks).isSome ∧ rest = [] ∧ result = .ok vm.id) ∨
        (JobWait.outcome? looks = none ∧ Destroys p vm.id rest ∧ ∃ e, result = .error e)) := by
  rw [carry_bind, carry_ask] at h
  obtain ⟨first, reply, middle, rest, rfl, htag, hrest⟩ := Conversation.run_bind_iff.mp h
  obtain ⟨start, looks, rfl, hrequest, hwatch, hreply⟩ := carryOut_run htag
  refine ⟨start, looks, rest, rfl, Turn.tags_of_request hrequest, hwatch, ?_⟩
  cases reply with
  | ok u =>
    obtain ⟨rfl, rfl, -⟩ := Conversation.run_done_iff.mp hrest
    exact .inl ⟨hreply.mp rfl, rfl, rfl⟩
  | error cause =>
    have hnone : JobWait.outcome? looks = none := by
      cases ho : JobWait.outcome? looks with
      | none => rfl
      | some v => cases hreply.mpr (by rw [ho]; rfl)
    refine .inr ⟨hnone, cleanup_run ?_ hrest⟩
    intro reply
    cases reply <;> exact ⟨_, rfl⟩

/-- The turns of a creation: the deployment comes first; a machine it gives is tagged, and a machine it
leaves behind, or that cannot be tagged, is destroyed. -/
theorem create_run {deploy : DeployRequest} {tags : TagRequest} {result : Except Error String}
    (h : (c.carry (p.create deploy tags)).Run now turns result last) :
    ∃ start looks rest, turns = start :: (looks ++ rest) ∧
      start.request.command = "deployVirtualMachine" ∧ Watch start looks ∧
      match (JobWait.outcome? looks).bind fun value => (deployed value).toOption with
      | none =>
        (∃ e, result = .error e) ∧
          match ((start.response.decode DeployRequest.command JobHandle.decode).toOption.bind
            JobHandle.entityId).filter (· ≠ "") with
          | none => rest = []
          | some vmId => Destroys p vmId rest
      | some vm =>
        ∃ tagStart tagLooks rest', rest = tagStart :: (tagLooks ++ rest') ∧
          tagStart.Tags vm.id ∧ Watch tagStart tagLooks ∧
          (((JobWait.outcome? tagLooks).isSome ∧ rest' = [] ∧ result = .ok vm.id) ∨
            (JobWait.outcome? tagLooks = none ∧ Destroys p vm.id rest' ∧
              ∃ e, result = .error e)) := by
  rw [Provisioner.create, carry_bind, carry_ask] at h
  obtain ⟨first, reply, middle, rest, rfl, hdeploy, hrest⟩ := Conversation.run_bind_iff.mp h
  obtain ⟨start, looks, rfl, hrequest, hwatch, hreply, hid⟩ := deploy_run hdeploy
  refine ⟨start, looks, rest, rfl, by rw [hrequest]; rfl, hwatch, ?_⟩
  rw [← hreply]
  cases reply with
  | ok vm => exact tagging_run hrest
  | error f =>
    obtain ⟨vmId, cause⟩ := f
    rw [← hid _ rfl]
    change (∃ e, result = .error e) ∧ _
    cases hv : vmId.filter (· ≠ "") with
    | none =>
      simp only [hv] at hrest ⊢
      obtain ⟨rfl, rfl, -⟩ := Conversation.run_done_iff.mp hrest
      exact ⟨⟨cause, rfl⟩, rfl⟩
    | some id =>
      simp only [hv] at hrest ⊢
      exact (cleanup_run (fun reply => by cases reply <;> exact ⟨_, rfl⟩) hrest).symm

/-- A creation that came to a machine: it is the one of the deployment, it was tagged, and none was
destroyed. -/
structure Kept (vmId : String) (turns : List Turn) (result : Except Error String) : Prop where
  ok : result = .ok vmId
  delivered : Delivered vmId turns
  tagged : ∃ value, JobDone "createTags" turns value
  named : ∀ t ∈ turns, t.request.command = "createTags" → t.Tags vmId
  spared : ∀ t ∈ turns, t.request.command ≠ "destroyVirtualMachine"

/-- A creation that failed and destroyed a machine, by one request after all the others but looks. -/
structure Discarded (p : Provisioner) (vmId : String) (turns : List Turn)
    (result : Except Error String) : Prop where
  failed : ∃ e, result = .error e
  untagged : ∀ w, Delivered w turns → ∀ value, ¬ JobDone "createTags" turns value
  destroyed : ∃ before destroy after, turns = before ++ destroy :: after ∧
    destroy.Destroys vmId p.expunge ∧
    (∀ t ∈ before, t.request.command ≠ "destroyVirtualMachine") ∧
    ∀ t ∈ after, t.request.command = "queryAsyncJobResult"

/-- The machine that has to go when a creation fails: that of the deployment if it came to one, else the
one that the response to it named. -/
def Left (named vmId : String) (turns : List Turn) : Prop :=
  Delivered vmId turns ∨ (∀ w, ¬ Delivered w turns) ∧ vmId = named

theorem Kept.not_discarded {vmId vmId' : String} {result : Except Error String}
    (h : Kept vmId turns result) : ¬ Discarded p vmId' turns result := by
  intro hdiscarded
  obtain ⟨e, he⟩ := hdiscarded.failed
  cases h.ok.symm.trans he

/-- A job that another command started, and the looks at it, are no turns of a command. -/
theorem command_ne {command : String} (hcommand : command ≠ "queryAsyncJobResult") {start : Turn}
    {looks : List Turn} (hstart : start.request.command ≠ command) (hlooks : OnlyLooks looks) :
    ∀ t ∈ start :: looks, t.request.command ≠ command := by
  intro t ht
  rcases List.mem_cons.mp ht with rfl | ht
  · exact hstart
  · rw [hlooks t ht]
    exact hcommand.symm

theorem Destroys.discarded {vmId : String} {before rest : List Turn} {result : Except Error String}
    (hbefore : ∀ t ∈ before, t.request.command ≠ "destroyVirtualMachine")
    (hrest : Destroys p vmId rest) (hresult : ∃ e, result = .error e)
    (huntagged : ∀ w, Delivered w (before ++ rest) → ∀ value,
      ¬ JobDone "createTags" (before ++ rest) value) : Discarded p vmId (before ++ rest) result := by
  obtain ⟨start, looks, rfl, hdestroys, honly⟩ := hrest
  exact ⟨hresult, huntagged, before, start, looks, rfl, hdestroys, hbefore, honly⟩

theorem Destroys.head {vmId : String} {rest : List Turn} (h : Destroys p vmId rest) :
    ∀ t ∈ rest.head?, t.request.command ≠ "queryAsyncJobResult" := by
  obtain ⟨start, looks, rfl, ⟨hcommand, -⟩, -⟩ := h
  intro t ht
  cases ht
  rw [hcommand]
  decide

/-- A machine that was deployed is kept if it could be tagged, and else destroyed. -/
theorem kept_or_discarded {vmId : String} {before : List Turn} {start : Turn} {looks rest : List Turn}
    {result : Except Error String}
    (hdelivered : Delivered vmId (before ++ start :: (looks ++ rest)))
    (hbefore : ∀ t ∈ before, t.request.command ≠ "destroyVirtualMachine")
    (hnoTag : ∀ t ∈ before, t.request.command ≠ "createTags")
    (hstart : start.Tags vmId) (hwatch : Watch start looks)
    (hend : ((JobWait.outcome? looks).isSome ∧ rest = [] ∧ result = .ok vmId) ∨
      (JobWait.outcome? looks = none ∧ Destroys p vmId rest ∧ ∃ e, result = .error e)) :
    Kept vmId (before ++ start :: (looks ++ rest)) result ∨
      Discarded p vmId (before ++ start :: (looks ++ rest)) result := by
  have htagging : ∀ t ∈ before ++ start :: looks, t.request.command ≠ "destroyVirtualMachine" := by
    intro t ht
    rcases List.mem_append.mp ht with ht | ht
    · exact hbefore t ht
    · exact command_ne (by decide) (by rw [hstart.1]; decide) hwatch.onlyLooks t ht
  rcases hend with ⟨htagged, rfl, rfl⟩ | ⟨huntagged, hdestroy, hresult⟩
  · obtain ⟨value, hvalue⟩ := Option.isSome_iff_exists.mp htagged
    have hdone : JobDone "createTags" (before ++ start :: (looks ++ [])) value :=
      (jobDone_iff hnoTag hstart.1 hwatch (by simp)).mpr hvalue
    have hnamed : ∀ t ∈ before ++ start :: looks, t.request.command = "createTags" → t.Tags vmId := by
      intro t ht hcommand
      rcases List.mem_append.mp ht with ht | ht
      · exact absurd hcommand (hnoTag t ht)
      · rcases List.mem_cons.mp ht with rfl | ht
        · exact hstart
        · rw [hwatch.onlyLooks t ht] at hcommand
          exact absurd hcommand (by decide)
    rw [List.append_nil] at hdelivered hdone ⊢
    exact .inl ⟨rfl, hdelivered, ⟨value, hdone⟩, hnamed, htagging⟩
  · have hall : Discarded p vmId ((before ++ start :: looks) ++ rest) result := by
      refine hdestroy.discarded htagging hresult fun w _ value hdone => ?_
      rw [List.append_assoc, List.cons_append, jobDone_iff hnoTag hstart.1 hwatch hdestroy.head,
        huntagged] at hdone
      cases hdone
    rw [List.append_assoc, List.cons_append] at hall
    exact .inr hall

/-- Where the deployment came to no machine, the one that was named is left behind and destroyed. -/
theorem discarded_of_undelivered {vmId : String} {start : Turn} {looks rest : List Turn}
    {result : Except Error String} (hstart : start.request.command = "deployVirtualMachine")
    (hwatch : Watch start looks)
    (hnone : ((JobWait.outcome? looks).bind fun value => (deployed value).toOption) = none)
    (hresult : ∃ e, result = .error e) (hrest : Destroys p vmId rest) :
    Left vmId vmId (start :: (looks ++ rest)) ∧
      Discarded p vmId (start :: (looks ++ rest)) result := by
  have hundelivered (w : String) : ¬ Delivered w (start :: (looks ++ rest)) := by
    rw [delivered_iff hstart hwatch hrest.head, hnone]
    simp
  have hbefore : ∀ t ∈ start :: looks, t.request.command ≠ "destroyVirtualMachine" :=
    command_ne (by decide) (by rw [hstart]; decide) hwatch.onlyLooks
  exact ⟨.inr ⟨hundelivered, rfl⟩,
    hrest.discarded hbefore hresult fun w hw => absurd hw (hundelivered w)⟩

/-- If nothing after the looks asks for a machine, the turn that does is the first. -/
theorem eq_start {t start : Turn} {looks rest : List Turn} (ht : t ∈ start :: (looks ++ rest))
    (hcommand : t.request.command = "deployVirtualMachine") (hlooks : OnlyLooks looks)
    (hrest : ∀ t ∈ rest, t.request.command ≠ "deployVirtualMachine") : t = start := by
  rcases List.mem_cons.mp ht with rfl | ht
  · rfl
  · rcases List.mem_append.mp ht with ht | ht
    · rw [hlooks t ht] at hcommand
      exact absurd hcommand (by decide)
    · exact absurd hcommand (hrest t ht)

/-- A creation whose deployment named a machine keeps the machine of the deployment, or destroys it, or
destroys the named one if the deployment came to none. -/
theorem create_kept_or_discarded {deploy : DeployRequest} {tags : TagRequest}
    {result : Except Error String}
    (h : (c.carry (p.create deploy tags)).Run now turns result last) {t : Turn} (ht : t ∈ turns)
    (hcommand : t.request.command = "deployVirtualMachine") {vmId jobId : String}
    (hhandle : t.response.Starts (some vmId) jobId) (hvm : vmId ≠ "") :
    (∃ w, Kept w turns result) ∨ ∃ v, Left vmId v turns ∧ Discarded p v turns result := by
  obtain ⟨start, looks, rest, rfl, hstart, hwatch, hrest⟩ := create_run h
  cases hm : (JobWait.outcome? looks).bind fun value => (deployed value).toOption with
  | none =>
    simp only [hm] at hrest
    obtain ⟨hresult, hrest⟩ := hrest
    have hnoDeploy : ∀ t ∈ rest, t.request.command ≠ "deployVirtualMachine" := by
      split at hrest
      · simp [hrest]
      · obtain ⟨destroy, after, rfl, ⟨hdestroy, -⟩, hafter⟩ := hrest
        exact command_ne (by decide) (by rw [hdestroy]; decide) hafter
    obtain rfl := eq_start ht hcommand hwatch.onlyLooks hnoDeploy
    have hdecode : t.response.decode DeployRequest.command JobHandle.decode = _ :=
      Response.decode_handle_iff.mpr hhandle
    simp only [hdecode, Except.toOption, Option.bind_some, Option.filter_some, hvm, ne_eq,
      not_false_eq_true, decide_true, if_true] at hrest
    exact .inr ⟨vmId, discarded_of_undelivered hstart hwatch hm hresult hrest⟩
  | some vm =>
    simp only [hm] at hrest
    obtain ⟨tagStart, tagLooks, rest', rfl, htag, htagWatch, hend⟩ := hrest
    have hdelivered : Delivered vm.id (start :: (looks ++ tagStart :: (tagLooks ++ rest'))) := by
      rw [delivered_iff hstart hwatch (by simp [htag.1])]
      exact ⟨vm, hm, rfl⟩
    rcases kept_or_discarded hdelivered
      (command_ne (by decide) (by rw [hstart]; decide) hwatch.onlyLooks)
      (command_ne (by decide) (by rw [hstart]; decide) hwatch.onlyLooks) htag htagWatch hend
      with hkept | hdiscarded
    · exact .inl ⟨vm.id, hkept⟩
    · exact .inr ⟨vm.id, .inl hdelivered, hdiscarded⟩

/-- Once a response named the machine of a deployment, a creation ends in exactly one of two ways.
Either both jobs succeeded, the result is the machine of the deployment, and nothing was destroyed; or
it failed, and one request, after all the others, destroyed a machine: the one of the deployment if that
succeeded, else the one the response named. -/
theorem create_keeps_or_discards {deploy : DeployRequest} {tags : TagRequest}
    {result : Except Error String}
    (h : (c.carry (p.create deploy tags)).Run now turns result last) {t : Turn} (ht : t ∈ turns)
    (hcommand : t.request.command = "deployVirtualMachine") {vmId jobId : String}
    (hhandle : t.response.Starts (some vmId) jobId) (hvm : vmId ≠ "") :
    (∀ turn ∈ turns, turn.request.url = c.signedUrl turn.request.command turn.request.query) ∧
    ((∃ w, Kept w turns result) ∧ (∀ v, ¬ Discarded p v turns result) ∨
      (∃ v, Left vmId v turns ∧ Discarded p v turns result) ∧ ∀ w, ¬ Kept w turns result) := by
  refine ⟨(c.carry_signs _).of_run h, ?_⟩
  rcases create_kept_or_discarded h ht hcommand hhandle hvm with ⟨w, hkept⟩ | ⟨v, hleft, hdiscarded⟩
  · exact .inl ⟨⟨w, hkept⟩, fun v => hkept.not_discarded⟩
  · exact .inr ⟨⟨v, hleft, hdiscarded⟩, fun w hkept => hkept.not_discarded hdiscarded⟩

end Client

/-- The answer that a deployment succeeded, with its machine. -/
def Response.withMachine : Response :=
  .received 200 ("\x7b\"queryasyncjobresultresponse\":\x7b\"jobstatus\":1,\"jobresult\":" ++
    "\x7b\"virtualmachine\":\x7b\"id\":\"vm1\"\x7d\x7d\x7d\x7d")

def Response.tagging : Response :=
  .received 200 "\x7b\"createtagsresponse\":\x7b\"jobid\":\"j2\"\x7d\x7d"

def Response.tagged : Response :=
  .received 200 "\x7b\"queryasyncjobresultresponse\":\x7b\"jobstatus\":1\x7d\x7d"

namespace Client

def lostDestroy : Turn :=
  let query := (TextMap.empty.insert "id" "vm1").insert "expunge" "false"
  ⟨nearby.request "destroyVirtualMachine" query, 0, .lost "connection reset"⟩

def lookTurn (jobId : String) (r : Response) : Turn := ⟨(nearby.jobWait jobId).request, 0, r⟩

def taggingTurn : Turn :=
  ⟨nearby.request "createTags" (TagRequest.query ⟨["vm1"], "UserVm", .empty⟩), 0, .tagging⟩

theorem deploy_run_withMachine :
    (nearby.deploy .bare).Run 0 [bareTurn .withJob, lookTurn "j1" .withMachine]
      (.ok ⟨"vm1", "", none, "", none, none, []⟩) 0 := by
  refine Conversation.run_bind_iff.mpr
    ⟨_, _, _, _, rfl, get_run_iff.mpr ⟨0, .withJob, rfl, rfl, rfl⟩, ?_⟩
  rw [Response.withJob_decode]
  have hjudge : (nearby.jobWait "j1").judge 0 .withMachine =
      some (.ok (.obj [("virtualmachine", .obj [("id", .str "vm1")])])) := by
    with_unfolding_all rfl
  exact Conversation.run_bind_iff.mpr
    ⟨[lookTurn "j1" .withMachine], _, _, [], rfl, waitForJob_run_iff.mpr (.decided hjudge), .done⟩

theorem tag_run_tagged : (nearby.perform (.tag ⟨["vm1"], "UserVm", .empty⟩)).Run 0
    [taggingTurn, lookTurn "j2" .tagged] (.ok ()) 0 := by
  have hdecode : Response.tagging.decode TagRequest.command JobHandle.decode = .ok ⟨none, "j2"⟩ := by
    with_unfolding_all rfl
  refine Conversation.run_bind_iff.mpr
    ⟨_, _, _, _, rfl, get_run_iff.mpr ⟨0, .tagging, rfl, rfl, rfl⟩, ?_⟩
  rw [hdecode]
  have hjudge : (nearby.jobWait "j2").judge 0 .tagged = some (.ok .null) := by
    with_unfolding_all rfl
  exact Conversation.run_bind_iff.mpr
    ⟨[lookTurn "j2" .tagged], _, _, [], rfl, waitForJob_run_iff.mpr (.decided hjudge), .done⟩

/-- The wait for one deployment breaks off, and so does the destruction, which has been asked for all the
same. Another one succeeds, and its machine is tagged. -/
theorem create_keeps_or_discards_of_both :
    (∃ e, (nearby.carry (Provisioner.create ⟨false⟩ .bare ⟨[], "", .empty⟩)).Run 0
        [bareTurn .withJob, lostLook, lostDestroy] (.error e) 0 ∧
      ∃ v, Left "vm1" v [bareTurn .withJob, lostLook, lostDestroy] ∧
        Discarded ⟨false⟩ v [bareTurn .withJob, lostLook, lostDestroy] (.error e)) ∧
    (nearby.carry (Provisioner.create ⟨false⟩ .bare ⟨[], "", .empty⟩)).Run 0
        [bareTurn .withJob, lookTurn "j1" .withMachine, taggingTurn, lookTurn "j2" .tagged]
        (.ok "vm1") 0 ∧
      Kept "vm1" [bareTurn .withJob, lookTurn "j1" .withMachine, taggingTurn, lookTurn "j2" .tagged]
        (.ok "vm1") := by
  have hstarts : Response.withJob.Starts (some "vm1") "j1" :=
    Response.decode_handle_iff.mp Response.withJob_decode
  have hlost : (nearby.carry (Provisioner.create ⟨false⟩ .bare ⟨[], "", .empty⟩)).Run 0
      [bareTurn .withJob, lostLook, lostDestroy]
      (.error (.createCleanup (.connection "HTTP request failed: connection reset")
        (.connection "HTTP request failed: connection reset"))) 0 := by
    refine Conversation.run_bind_iff.mpr ⟨_, _, _, [lostDestroy], rfl, deploy_run_lostLook, ?_⟩
    exact .request .done
  have hkept : (nearby.carry (Provisioner.create ⟨false⟩ .bare ⟨[], "", .empty⟩)).Run 0
      [bareTurn .withJob, lookTurn "j1" .withMachine, taggingTurn, lookTurn "j2" .tagged]
      (.ok "vm1") 0 := by
    refine Conversation.run_bind_iff.mpr ⟨_, _, _, [taggingTurn, lookTurn "j2" .tagged], rfl,
      deploy_run_withMachine, ?_⟩
    exact Conversation.run_bind_iff.mpr ⟨_, _, _, [], rfl, tag_run_tagged, .done⟩
  refine ⟨⟨_, hlost, ?_⟩, hkept, ?_⟩
  · obtain ⟨-, ⟨⟨w, hw⟩, -⟩ | ⟨hdiscarded, -⟩⟩ :=
      create_keeps_or_discards hlost List.mem_cons_self rfl hstarts (by decide)
    · cases hw.ok
    · exact hdiscarded
  · obtain ⟨-, ⟨⟨w, hw⟩, -⟩ | ⟨⟨v, -, hdiscarded⟩, -⟩⟩ :=
      create_keeps_or_discards hkept List.mem_cons_self rfl hstarts (by decide)
    · cases hw.ok
      exact hw
    · obtain ⟨e, he⟩ := hdiscarded.failed
      cases he

end Client
end NodeGroups
