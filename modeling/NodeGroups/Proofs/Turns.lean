import NodeGroups.Proofs.Responses
import NodeGroups.Remote.Client

namespace NodeGroups

/-- A request, and the response that was there `delay` nanoseconds later. -/
structure Turn where
  request : Request
  delay : Nat
  response : Response

/-- A wait for a job that began at `started` and looks from `now` on: the looks, what the wait comes
to, and when. -/
inductive JobWait.Run (w : JobWait) (started : Nat) :
    Nat → List Turn → Except Error Json → Nat → Prop
  | decided {now delay : Nat} {response : Response} {result : Except Error Json}
      (h : w.judge (now + delay - started) response = some result) :
      Run w started now [⟨w.request, delay, response⟩] result (now + delay)
  | pending {now delay last : Nat} {response : Response} {looks : List Turn}
      {result : Except Error Json} (h : w.judge (now + delay - started) response = none)
      (rest : Run w started (now + delay + w.interval) looks result last) :
      Run w started now (⟨w.request, delay, response⟩ :: looks) result last

/-- A conversation held from `now` on, with any responses after any delays: its turns, its result,
and when it is there. -/
inductive Conversation.Run {α : Type} : Conversation α → Nat → List Turn → α → Nat → Prop
  | done {a : α} {now : Nat} : Run (.done a) now [] a now
  | request {r : Request} {next : Response → Conversation α} {now delay last : Nat}
      {response : Response} {turns : List Turn} {a : α}
      (rest : Run (next response) (now + delay) turns a last) :
      Run (.request r next) now (⟨r, delay, response⟩ :: turns) a last
  | await {w : JobWait} {next : Except Error Json → Conversation α} {now middle last : Nat}
      {looks turns : List Turn} {result : Except Error Json} {a : α}
      (wait : w.Run now now looks result middle) (rest : Run (next result) middle turns a last) :
      Run (.await w next) now (looks ++ turns) a last

namespace JobWait

/-- The result of a job that a response says to have succeeded. -/
def success? (r : Response) : Option Json :=
  match r.decode command JobState.decode with
  | .error _ => none
  | .ok ⟨status, result⟩ => if status = 1 then some (result.getD .null) else none

theorem success?_eq_some_iff {r : Response} {v : Json} :
    success? r = some v ↔ ∃ result, r.Tells 1 result ∧ v = result.getD .null := by
  have hdecode {result : Option Json} :
      r.Tells 1 result ↔ r.decode command JobState.decode = .ok ⟨1, result⟩ :=
    Response.decode_state_iff.symm
  simp only [hdecode]
  unfold success?
  cases r.decode command JobState.decode with
  | error e => simp
  | ok state =>
    obtain ⟨status, result⟩ := state
    by_cases succeeded : status = 1
    · simp [succeeded, eq_comm]
    · simp [succeeded]

/-- The result of a job whose last look said that it succeeded. -/
def outcome? (looks : List Turn) : Option Json := looks.getLast?.bind fun t => success? t.response

/-- A wait comes to a value on a response that says the job succeeded, and on no other, whatever the
time is. -/
theorem judge_toOption (w : JobWait) (elapsed : Nat) (r : Response) (result : Except Error Json)
    (h : w.judge elapsed r = some result) : result.toOption = success? r := by
  unfold judge at h
  unfold success?
  cases hd : r.decode command JobState.decode with
  | error e =>
    rw [hd] at h
    cases h
    rfl
  | ok state =>
    obtain ⟨status, value⟩ := state
    rw [hd] at h
    by_cases pending : status = 0
    · subst pending
      simp only [if_true] at h
      split at h
      · cases h
        rfl
      · cases h
    · simp only [pending, if_false] at h
      by_cases succeeded : status = 1
      · simp only [succeeded, if_true, Option.some.injEq] at h ⊢
        subst h
        rfl
      · simp only [succeeded, if_false, Option.some.injEq] at h ⊢
        subst h
        rfl

namespace Run

variable {w : JobWait} {started now last : Nat} {looks : List Turn} {result : Except Error Json}

theorem requests (h : w.Run started now looks result last) : ∀ t ∈ looks, t.request = w.request := by
  induction h with
  | decided h =>
    intro t ht
    rw [List.mem_singleton.mp ht]
  | pending h rest ih =>
    intro t ht
    rcases List.mem_cons.mp ht with rfl | ht
    · rfl
    · exact ih t ht

theorem looks_ne_nil (h : w.Run started now looks result last) : looks ≠ [] := by
  cases h <;> simp

/-- The last look alone decides what the wait comes to. -/
theorem outcome?_eq (h : w.Run started now looks result last) : outcome? looks = result.toOption := by
  induction h with
  | decided h => exact (judge_toOption w _ _ _ h).symm
  | pending h rest ih =>
    rw [← ih]
    unfold outcome?
    rw [List.getLast?_cons_of_ne_nil rest.looks_ne_nil]

end Run
end JobWait

namespace Conversation

variable {α β : Type}

@[simp] theorem pure_eq (a : α) : (pure a : Conversation α) = done a := rfl

@[simp] theorem bind_eq (c : Conversation α) (f : α → Conversation β) : c >>= f = c.bind f := rfl

theorem bind_done (c : Conversation α) : c.bind done = c := by
  induction c with
  | done a => rfl
  | request r next ih => simp only [bind, ih]
  | await w next ih => simp only [bind, ih]

theorem bind_assoc {γ : Type} (c : Conversation α) (f : α → Conversation β)
    (g : β → Conversation γ) : (c.bind f).bind g = c.bind fun a => (f a).bind g := by
  induction c with
  | done a => rfl
  | request r next ih => simp only [bind, ih]
  | await w next ih => simp only [bind, ih]

theorem run_done_iff {a b : α} {now last : Nat} {turns : List Turn} :
    (done a).Run now turns b last ↔ turns = [] ∧ b = a ∧ last = now := by
  constructor
  · intro h
    cases h
    exact ⟨rfl, rfl, rfl⟩
  · intro h
    obtain ⟨rfl, rfl, rfl⟩ := h
    exact .done

/-- Two conversations after each other: the turns of the second follow those of the first. -/
theorem run_bind_iff {c : Conversation α} {f : α → Conversation β} {now last : Nat}
    {turns : List Turn} {b : β} :
    (c.bind f).Run now turns b last ↔ ∃ first a middle rest,
      turns = first ++ rest ∧ c.Run now first a middle ∧ (f a).Run middle rest b last := by
  induction c generalizing now turns with
  | done a =>
    constructor
    · intro h
      exact ⟨[], a, now, turns, rfl, .done, h⟩
    · intro h
      obtain ⟨first, a', middle, rest, rfl, h, hf⟩ := h
      obtain ⟨rfl, rfl, rfl⟩ := run_done_iff.mp h
      exact hf
  | request r next ih =>
    constructor
    · intro h
      cases h with
      | request rest =>
        obtain ⟨first, a, middle, rest', rfl, h, hf⟩ := (ih _).mp rest
        exact ⟨_ :: first, a, middle, rest', rfl, .request h, hf⟩
    · intro h
      obtain ⟨first, a, middle, rest, rfl, h, hf⟩ := h
      cases h with
      | request h => exact .request ((ih _).mpr ⟨_, a, middle, rest, rfl, h, hf⟩)
  | await w next ih =>
    constructor
    · intro h
      cases h with
      | await wait rest =>
        obtain ⟨first, a, middle, rest', rfl, h, hf⟩ := (ih _).mp rest
        exact ⟨_ ++ first, a, middle, rest', by rw [List.append_assoc], .await wait h, hf⟩
    · intro h
      obtain ⟨first, a, middle, rest, rfl, h, hf⟩ := h
      cases h with
      | await wait h =>
        rw [List.append_assoc]
        exact .await wait ((ih _).mpr ⟨_, a, middle, rest, rfl, h, hf⟩)

/-- Every request of a conversation is of this kind, whatever is answered. -/
def Sends (P : Request → Prop) : Conversation α → Prop
  | done _ => True
  | request r next => P r ∧ ∀ response, Sends P (next response)
  | await w next => P w.request ∧ ∀ result, Sends P (next result)

theorem Sends.bind {P : Request → Prop} {c : Conversation α} {f : α → Conversation β}
    (h : c.Sends P) (hf : ∀ a, (f a).Sends P) : (c.bind f).Sends P := by
  induction c with
  | done a => exact hf a
  | request r next ih => exact ⟨h.1, fun response => ih response (h.2 response)⟩
  | await w next ih => exact ⟨h.1, fun result => ih result (h.2 result)⟩

theorem Sends.of_run {P : Request → Prop} {c : Conversation α} {now last : Nat} {turns : List Turn}
    {a : α} (h : c.Sends P) (run : c.Run now turns a last) : ∀ t ∈ turns, P t.request := by
  induction run with
  | done => exact List.forall_mem_nil _
  | request rest ih => exact List.forall_mem_cons.mpr ⟨h.1, ih (h.2 _)⟩
  | await wait rest ih =>
    refine List.forall_mem_append.mpr ⟨fun t ht => ?_, ih (h.2 _)⟩
    rw [wait.requests t ht]
    exact h.1

end Conversation

/-- A turn that asks how the job `jobId` stands. -/
def Turn.LooksAt (jobId : String) (t : Turn) : Prop :=
  t.request.command = "queryAsyncJobResult" ∧
    ∀ key, t.request.query.get? key = if key = "jobid" then some jobId else none

namespace Client

variable {α : Type} {c : Client} {now last : Nat} {turns : List Turn}

/-- A request to the signed address of its command and its query. -/
def Signs (c : Client) (r : Request) : Prop := r.url = c.signedUrl r.command r.query

theorem get_signs (c : Client) (command : String) (q : Query) (item : Json → Decode.Result α) :
    (c.get command q item).Sends c.Signs :=
  ⟨rfl, fun _ => trivial⟩

theorem waitForJob_signs (c : Client) (jobId : String) : (c.waitForJob jobId).Sends c.Signs :=
  ⟨rfl, fun _ => trivial⟩

theorem carryOut_signs (c : Client) (command : String) (q : Query) :
    (c.carryOut command q).Sends c.Signs := by
  refine (c.get_signs command q _).bind fun handle => ?_
  cases handle with
  | error e => trivial
  | ok job => exact (c.waitForJob_signs job.jobId).bind fun _ => trivial

theorem deploy_signs (c : Client) (r : DeployRequest) : (c.deploy r).Sends c.Signs := by
  refine (c.get_signs _ _ _).bind fun handle => ?_
  cases handle with
  | error e => trivial
  | ok job =>
    refine (c.waitForJob_signs job.jobId).bind fun result => ?_
    cases result with
    | error e => trivial
    | ok value =>
      simp only
      cases deployed value <;> trivial

/-- Whatever a client is called for, it sends its requests to the signed addresses of their commands and
queries. -/
theorem perform_signs (c : Client) (call : Call) : (c.perform call).Sends c.Signs := by
  cases call with
  | listProjects => exact c.get_signs _ _ _
  | listProfiles r => exact c.get_signs _ _ _
  | listDetails r => exact c.get_signs _ _ _
  | listMachines r => exact c.get_signs _ _ _
  | getOffering id => exact (c.get_signs _ _ _).bind fun _ => trivial
  | getZone id => exact (c.get_signs _ _ _).bind fun _ => trivial
  | deploy r => exact c.deploy_signs r
  | tag r => exact c.carryOut_signs _ _
  | destroy r => exact c.carryOut_signs _ _

theorem get_run_iff {command : String} {q : Query} {item : Json → Decode.Result α}
    {a : Except Error α} :
    (c.get command q item).Run now turns a last ↔ ∃ delay response,
      turns = [⟨c.request command q, delay, response⟩] ∧ a = response.decode command item ∧
        last = now + delay := by
  constructor
  · intro h
    cases h with
    | @request _ _ _ delay _ response _ _ rest =>
      obtain ⟨rfl, ha, hl⟩ := Conversation.run_done_iff.mp rest
      exact ⟨delay, response, rfl, ha, hl⟩
  · intro h
    obtain ⟨delay, response, rfl, rfl, rfl⟩ := h
    exact .request .done

theorem waitForJob_run_iff {jobId : String} {result : Except Error Json} :
    (c.waitForJob jobId).Run now turns result last ↔
      (c.jobWait jobId).Run now now turns result last := by
  constructor
  · intro h
    cases h with
    | await wait rest =>
      obtain ⟨rfl, rfl, rfl⟩ := Conversation.run_done_iff.mp rest
      rwa [List.append_nil]
  · intro h
    have hrun := Conversation.Run.await h (.done (a := result))
    rwa [List.append_nil] at hrun

def OnlyLooks (looks : List Turn) : Prop :=
  ∀ t ∈ looks, t.request.command = "queryAsyncJobResult"

/-- Looks at the job that the response to a request started. -/
def Watch (start : Turn) (looks : List Turn) : Prop :=
  ∀ t ∈ looks, ∃ entityId jobId, start.response.Starts entityId jobId ∧ t.LooksAt jobId

theorem Watch.onlyLooks {start : Turn} {looks : List Turn} (h : Watch start looks) :
    OnlyLooks looks := by
  intro t ht
  obtain ⟨_, _, _, hlooks⟩ := h t ht
  exact hlooks.1

/-- A wait looks at its job and at nothing else. -/
theorem looksAt_of_run {jobId : String} {started : Nat} {result : Except Error Json}
    (h : (c.jobWait jobId).Run started now turns result last) : ∀ t ∈ turns, t.LooksAt jobId := by
  intro t ht
  rw [Turn.LooksAt, h.requests t ht]
  refine ⟨rfl, fun key => ?_⟩
  change (TextMap.empty.insert "jobid" jobId).get? key = _
  rw [TextMap.get?_insert, TextMap.get?_empty]

theorem watch_of_run {command : String} {start : Turn} {job : JobHandle} {started : Nat}
    {result : Except Error Json}
    (hstart : start.response.decode command JobHandle.decode = .ok job)
    (h : (c.jobWait job.jobId).Run started now turns result last) : Watch start turns := by
  intro t ht
  exact ⟨job.entityId, job.jobId, Response.decode_handle_iff.mp hstart, looksAt_of_run h t ht⟩

/-- A job is started by one request and then looked at; it has been carried out when the last look
says so. -/
theorem carryOut_run {command : String} {q : Query} {result : Except Error Unit}
    (h : (c.carryOut command q).Run now turns result last) :
    ∃ start looks, turns = start :: looks ∧ start.request = c.request command q ∧
      Watch start looks ∧ (result = .ok () ↔ (JobWait.outcome? looks).isSome) := by
  simp only [carryOut, startAsync, Conversation.bind_eq, Conversation.pure_eq] at h
  obtain ⟨first, handle, middle, rest, rfl, hget, hrest⟩ := Conversation.run_bind_iff.mp h
  obtain ⟨delay, response, rfl, hhandle, rfl⟩ := get_run_iff.mp hget
  cases handle with
  | error e =>
    obtain ⟨rfl, rfl, rfl⟩ := Conversation.run_done_iff.mp hrest
    exact ⟨_, [], rfl, rfl, List.forall_mem_nil _, by simp [JobWait.outcome?]⟩
  | ok job =>
    obtain ⟨looks, value, moment, nothing, rfl, hwait, hend⟩ := Conversation.run_bind_iff.mp hrest
    obtain ⟨rfl, rfl, rfl⟩ := Conversation.run_done_iff.mp hend
    rw [waitForJob_run_iff] at hwait
    refine ⟨⟨c.request command q, delay, response⟩, looks, by simp, rfl,
      watch_of_run hhandle.symm hwait, ?_⟩
    rw [hwait.outcome?_eq]
    cases value <;> simp [Except.map, Except.toOption]

/-- A deployment is started by one request, and then its job is looked at. It gives a machine exactly
when the last look says that the job succeeded and its result holds one. A failure names the machine
that the handle of the job named, if a handle came back. -/
theorem deploy_run {r : DeployRequest} {result : Except DeployFailure VirtualMachine}
    (h : (c.deploy r).Run now turns result last) :
    ∃ start looks, turns = start :: looks ∧
      start.request = c.request DeployRequest.command r.query ∧ Watch start looks ∧
      result.toOption = (JobWait.outcome? looks).bind (fun value => (deployed value).toOption) ∧
      ∀ f, result = .error f → f.vmId =
        (start.response.decode DeployRequest.command JobHandle.decode).toOption.bind
          JobHandle.entityId := by
  simp only [deploy, startAsync, Conversation.bind_eq, Conversation.pure_eq] at h
  obtain ⟨first, handle, middle, rest, rfl, hget, hrest⟩ := Conversation.run_bind_iff.mp h
  obtain ⟨delay, response, rfl, hhandle, rfl⟩ := get_run_iff.mp hget
  cases handle with
  | error e =>
    obtain ⟨rfl, rfl, rfl⟩ := Conversation.run_done_iff.mp hrest
    refine ⟨_, [], rfl, rfl, List.forall_mem_nil _, by simp [JobWait.outcome?, Except.toOption], ?_⟩
    intro f hf
    cases hf
    rw [← hhandle]
    rfl
  | ok job =>
    obtain ⟨looks, value, moment, nothing, rfl, hwait, hend⟩ := Conversation.run_bind_iff.mp hrest
    rw [waitForJob_run_iff] at hwait
    have hvalue := hwait.outcome?_eq
    -- Whatever the wait comes to, one step without turns is left.
    have hdone : nothing = [] ∧
        result.toOption = value.toOption.bind (fun v => (deployed v).toOption) ∧
        ∀ f, result = .error f → f.vmId = job.entityId := by
      cases value with
      | error e =>
        obtain ⟨rfl, rfl, -⟩ := Conversation.run_done_iff.mp hend
        exact ⟨rfl, rfl, fun f hf => by cases hf; rfl⟩
      | ok v =>
        cases hv : deployed v with
        | error e =>
          simp only [hv] at hend
          obtain ⟨rfl, rfl, -⟩ := Conversation.run_done_iff.mp hend
          exact ⟨rfl, by simp [Except.toOption, hv], fun f hf => by cases hf; rfl⟩
        | ok vm =>
          simp only [hv] at hend
          obtain ⟨rfl, rfl, -⟩ := Conversation.run_done_iff.mp hend
          exact ⟨rfl, by simp [Except.toOption, hv], fun f hf => by cases hf⟩
    obtain ⟨rfl, hresult, hid⟩ := hdone
    refine ⟨⟨c.request DeployRequest.command r.query, delay, response⟩, looks, by simp, rfl,
      watch_of_run hhandle.symm hwait, by rw [hvalue, hresult], ?_⟩
    intro f hf
    rw [← hhandle, hid f hf]
    rfl

/-- A client of a cloud nearby that waits a second for jobs. -/
def nearby : Client :=
  ⟨⟨⟨false, [], [], .domain "cs.local".toList, none, ["client".toList, "api".toList], none, none⟩⟩,
    "testkey", "testsecret", 1000000000, 300000000, none⟩

end Client

/-- A deployment with nothing but what is required. -/
def DeployRequest.bare : DeployRequest where
  serviceOfferingId := "small"
  zoneId := "z1"
  templateId := "t1"

/-- A response that names a machine along with its job. -/
def Response.withJob : Response :=
  .received 200 "\x7b\"deployvirtualmachineresponse\":\x7b\"id\":\"vm1\",\"jobid\":\"j1\"\x7d\x7d"

theorem Response.withJob_decode :
    withJob.decode DeployRequest.command JobHandle.decode = .ok ⟨some "vm1", "j1"⟩ := by
  with_unfolding_all rfl

namespace Client

def bareTurn (r : Response) : Turn :=
  ⟨nearby.request DeployRequest.command DeployRequest.bare.query, 0, r⟩

def lostLook : Turn := ⟨(nearby.jobWait "j1").request, 0, .lost "connection reset"⟩

/-- The deployment hands out a machine, and the look at its job is lost. -/
theorem deploy_run_lostLook :
    (nearby.deploy .bare).Run 0 [bareTurn .withJob, lostLook]
      (.error ⟨some "vm1", .connection "HTTP request failed: connection reset"⟩) 0 := by
  refine Conversation.run_bind_iff.mpr
    ⟨_, _, _, _, rfl, get_run_iff.mpr ⟨0, .withJob, rfl, rfl, rfl⟩, ?_⟩
  rw [Response.withJob_decode]
  exact Conversation.run_bind_iff.mpr
    ⟨[lostLook], _, _, [], rfl, waitForJob_run_iff.mpr (.decided rfl), .done⟩

end Client
end NodeGroups
