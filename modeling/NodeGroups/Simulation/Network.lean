import NodeGroups.Remote.Client
import NodeGroups.Simulation.Device

namespace NodeGroups

inductive ScriptedReply
  /-- It closes the connection without an answer. -/
  | drop
  | answer (status : UInt16) (body : String)
  /-- It announces more than it sends. -/
  | cut (status : UInt16)
  deriving DecidableEq

/-- A network with one server, whose replies are fixed beforehand. -/
structure Network where
  /-- Whether there is a way to the server at all. -/
  reachable : Bool
  /-- The replies, each with the nanoseconds it takes. -/
  script : List (Nat × ScriptedReply)
  /-- The requests the server got, last first. -/
  log : List String

/-- What becomes of a request: the response, the nanoseconds until it is there, and the network. -/
structure Exchange where
  response : Response
  delay : Nat
  network : Network

namespace Network

/-- What the server says once its script has ended. -/
def exhausted : Response := .received 599 "script exhausted"

/-- The address as it appears in failures. -/
def sentUrl (url : String) : String :=
  match Address.parse url with
  | .ok (.web u) => u.anonymous.text
  | _ => url

/-- The address as the server gets it. -/
def requestedUrl (url : String) : String :=
  match Address.parse url with
  | .ok (.web u) => u.requested.text
  | _ => url

/-- The longest address a request can be sent to. -/
def maxUrlLength : Nat := 65534

/-- Whether a request line can hold the address. Of the characters a host may be written with, it
takes neither quotes nor braces. -/
def isSendable (url : String) : Bool :=
  match Address.parse url with
  | .ok (.web u) =>
    u.anonymous.chars.length ≤ maxUrlLength &&
      u.host.text.all fun c => c ≠ '"' && c ≠ '\x60' && c ≠ '\x7b' && c ≠ '\x7d'
  | _ => false

/-- Why a request was not even begun. -/
def unsendableReason (url : String) : String := "builder error for url (" ++ sentUrl url ++ ")"

/-- Why no answer came. -/
def lostReason (url : String) : String := "error sending request for url (" ++ sentUrl url ++ ")"

/-- Why an answer cannot be read. -/
def brokenReason (url : String) : String :=
  "error decoding response body for url (" ++ sentUrl url ++ ")"

/-- The response to a reply of the server. -/
def responseTo (url : String) : ScriptedReply → Response
  | .drop => .lost (lostReason url)
  | .answer status body => .received status body
  | .cut _ => .broken (brokenReason url)

def respond (n : Network) (url : String) : Exchange :=
  if !isSendable url then ⟨.lost (unsendableReason url), 0, n⟩
  else if n.reachable then
    let log := ("GET " ++ requestedUrl url) :: n.log
    match n.script with
    | [] => ⟨exhausted, 0, { n with log }⟩
    | (delay, reply) :: script => ⟨responseTo url reply, delay, { n with log, script }⟩
  else ⟨.lost (lostReason url), 0, n⟩

theorem respond_length (n : Network) (url : String) :
    (n.respond url).network.script.length + min 1 (n.respond url).delay ≤ n.script.length := by
  unfold respond
  split
  · exact Nat.le_refl _
  · split
    · split
      · next hs => simp only [hs]; exact Nat.le_refl _
      · next hs =>
        simp only [hs, List.length_cons]
        omega
    · exact Nat.le_refl _

theorem parse_exhausted : Json.parse? "script exhausted" = none := by cbv

/-- What comes after the script is an error to every command. -/
theorem exhausted_decode {α : Type} (command : String) (item : Json → Decode.Result α) :
    exhausted.decode command item = .error (.api 599 "script exhausted") := by
  have hs : Response.isSuccess 599 = false := by decide
  have hc : exhausted.content = .error (.api 599 "script exhausted") := by
    simp only [exhausted, Response.content, parse_exhausted, hs, Bool.false_eq_true, if_false]
  unfold Response.decode
  rw [hc]

/-- A request without an answer ends the wait. -/
theorem judge_lost (wait : JobWait) (elapsed : Nat) (reason : String) :
    wait.judge elapsed (.lost reason) =
      some (.error (.connection ("HTTP request failed: " ++ reason))) := rfl

theorem judge_exhausted (wait : JobWait) (elapsed : Nat) :
    wait.judge elapsed exhausted = some (.error (.api 599 "script exhausted")) := by
  unfold JobWait.judge
  rw [exhausted_decode]

/-- A job can only be pending when the server said so. -/
theorem respond_length_lt {n : Network} {url : String} {wait : JobWait} {elapsed : Nat}
    (h : wait.judge elapsed (n.respond url).response = none) :
    (n.respond url).network.script.length < n.script.length := by
  unfold respond at h ⊢
  split at h
  · rw [judge_lost] at h; cases h
  · next hu =>
    rw [if_neg hu]
    split at h
    · next hr =>
      rw [if_pos hr]
      split at h
      · rw [judge_exhausted] at h; cases h
      · next hs => simp only [hs, List.length_cons]; omega
    · rw [judge_lost] at h; cases h

inductive Waiting (α : Type)
  /-- It takes in a response that was on its way. -/
  | receive (rest : Conversation α)
  /-- It looks at a job again. -/
  | look (wait : JobWait) (started : Nat) (next : Except Error Json → Conversation α)

/-- How far a conversation has come: it has its result, or it pauses until some moment. -/
inductive Stand (α : Type)
  | finished (result : α)
  | paused (wake : Nat) (waiting : Waiting α)

/-- Zero for a conversation that has its result, one for one that pauses. -/
def Stand.pauses {α : Type} : Stand α → Nat
  | finished _ => 0
  | paused _ _ => 1

/-- Looks at a job whose wait began at `started`; `goOn` takes the result of the wait at once. -/
def look {α : Type} (wait : JobWait) (started now : Nat) (next : Except Error Json → Conversation α)
    (goOn : Except Error Json → Network → Stand α × Network) (n : Network) : Stand α × Network :=
  match wait.judge (now + (n.respond wait.url).delay - started) (n.respond wait.url).response with
  | none =>
    (.paused (now + (n.respond wait.url).delay + wait.interval) (.look wait started next),
      (n.respond wait.url).network)
  | some result =>
    if (n.respond wait.url).delay = 0 then goOn result (n.respond wait.url).network
    else (.paused (now + (n.respond wait.url).delay) (.receive (next result)),
      (n.respond wait.url).network)

/-- Goes on with a conversation until it ends or pauses. -/
def converse {α : Type} (now : Nat) (n : Network) : Conversation α → Stand α × Network
  | .done a => (.finished a, n)
  | .request r next =>
    if (n.respond r.url).delay = 0 then
      converse now (n.respond r.url).network (next (n.respond r.url).response)
    else
      (.paused (now + (n.respond r.url).delay) (.receive (next (n.respond r.url).response)),
        (n.respond r.url).network)
  | .await wait next => look wait now now next (fun result n => converse now n (next result)) n

def wake {α : Type} (now : Nat) (n : Network) : Waiting α → Stand α × Network
  | .receive rest => converse now n rest
  | .look wait started next =>
    look wait started now next (fun result n => converse now n (next result)) n

theorem look_length {α : Type} {wait : JobWait} {started now : Nat}
    {next : Except Error Json → Conversation α}
    {goOn : Except Error Json → Network → Stand α × Network}
    (h : ∀ r n, (goOn r n).2.script.length + (goOn r n).1.pauses ≤ n.script.length) (n : Network) :
    (look wait started now next goOn n).2.script.length +
      (look wait started now next goOn n).1.pauses ≤ n.script.length := by
  have hn := respond_length n wait.url
  unfold look
  split
  · next hj => exact respond_length_lt hj
  · split
    · exact Nat.le_trans (h _ _) (Nat.le_trans (Nat.le_add_right _ _) hn)
    · simp only [Stand.pauses]; omega

theorem converse_length {α : Type} (now : Nat) (n : Network) (c : Conversation α) :
    (converse now n c).2.script.length + (converse now n c).1.pauses ≤ n.script.length := by
  induction c generalizing n with
  | done a => exact Nat.le_refl _
  | request r next ih =>
    have hn := respond_length n r.url
    unfold converse
    split
    · exact Nat.le_trans (ih _ _) (Nat.le_trans (Nat.le_add_right _ _) hn)
    · simp only [Stand.pauses]; omega
  | await wait next ih => exact look_length (fun r n => ih r n) n

theorem wake_length {α : Type} (now : Nat) (n : Network) (w : Waiting α) :
    (wake now n w).2.script.length + (wake now n w).1.pauses ≤ n.script.length := by
  cases w with
  | receive rest => exact converse_length now n rest
  | look wait started next => exact look_length (fun r n => converse_length now n (next r)) n

/-- A conversation as the progress of a call. -/
def progress {c : Call} : Stand c.Reply → Progress (fun c => Waiting c.Reply) c
  | .finished reply => .finished reply
  | .paused moment waiting => .asleep moment waiting

theorem progress_sleeps {c : Call} (s : Stand c.Reply) : (progress s).sleeps = s.pauses := by
  cases s <;> rfl

/-- The network as a device: a client carries out the calls. -/
def device (client : Client) : Device Network where
  Thread c := Waiting c.Reply
  start c now n :=
    (progress (converse now n (client.perform c)).1, (converse now n (client.perform c)).2)
  resume _ w now n := (progress (wake now n w).1, (wake now n w).2)
  patience n := n.script.length
  start_patience c now n := by
    rw [progress_sleeps]; exact converse_length now n _
  resume_patience c w now n := by
    rw [progress_sleeps]; exact wake_length now n w

/-- Goes on with a conversation, pause after pause, to its end. Gives its result, the time and the
network. -/
def holdOn {α : Type} (now : Nat) (w : Waiting α) (n : Network) : α × Nat × Network :=
  match _h : wake now n w with
  | (.finished a, n') => (a, now, n')
  | (.paused moment again, n') => holdOn moment again n'
termination_by n.script.length
decreasing_by
  have := wake_length now n w
  rw [_h] at this
  simp only [Stand.pauses] at this
  omega

def hold {α : Type} (c : Conversation α) (now : Nat) (n : Network) : α × Nat × Network :=
  holdOn now (.receive c) n

end Network
end NodeGroups
