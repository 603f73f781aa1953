import NodeGroups.Remote.Response
import NodeGroups.Request.Query

namespace NodeGroups

/-- A request as it is sent: a command with its parameters, and the signed address they make. -/
structure Request where
  command : String
  query : Query
  url : String
  deriving DecidableEq

/-- An asynchronous job that is being waited for. -/
structure JobWait where
  jobId : String
  request : Request
  /-- How long it may stay pending, in nanoseconds. -/
  timeout : Nat
  /-- The pause between two looks, in nanoseconds. -/
  interval : Nat
  deriving DecidableEq

namespace JobWait

def command : String := "queryAsyncJobResult"

/-- Where the state of the job is asked for. -/
def url (w : JobWait) : String := w.request.url

/-- The code of a failed job that gives none. -/
def defaultCode : UInt16 := 530

def failure (jobId : String) : Option Json → Error
  | some result =>
    .api (((Response.errorCode? result).bind Response.narrow?).getD defaultCode)
      (Response.errorText result)
  | none => .asyncJob ("async job " ++ jobId ++ " failed")

/-- What a look at the job says, `elapsed` after the wait began: nothing while the job is pending and
there is time left. -/
def judge (w : JobWait) (elapsed : Nat) (r : Response) : Option (Except Error Json) :=
  match r.decode command JobState.decode with
  | .error e => some (.error e)
  | .ok ⟨status, result⟩ =>
    if status = 0 then
      if w.timeout ≤ elapsed then
        some (.error (.asyncJob ("timeout while waiting for async job " ++ w.jobId ++ " to finish")))
      else none
    else if status = 1 then some (.ok (result.getD .null))
    else some (.error (failure w.jobId result))

end JobWait

/-- What a client does for one call: requests, each chosen by the responses to those before, and waits
for jobs. -/
inductive Conversation (α : Type)
  | done (result : α)
  | request (r : Request) (next : Response → Conversation α)
  | await (wait : JobWait) (next : Except Error Json → Conversation α)

namespace Conversation

def bind {α β : Type} : Conversation α → (α → Conversation β) → Conversation β
  | done a, f => f a
  | request r next, f => request r fun response => (next response).bind f
  | await wait next, f => await wait fun r => (next r).bind f

instance : Monad Conversation where
  pure := done
  bind := bind

end Conversation
end NodeGroups
