import NodeGroups.Remote.Call
import NodeGroups.Remote.Conversation
import NodeGroups.Settings.Basic
import NodeGroups.Signing.Signature

namespace NodeGroups

structure Quota where
  perSecond : UInt32
  burst : UInt32
  perSecond_ne_zero : perSecond ≠ 0
  burst_ne_zero : burst ≠ 0

/-- Speaks to the cloud over its web interface. -/
structure Client where
  endpoint : Endpoint
  apiKey : String
  apiSecret : String
  /-- How long a job may stay pending, in nanoseconds. -/
  asyncTimeout : Nat
  /-- The pause between two looks at a job, in nanoseconds. -/
  pollInterval : Nat
  quota : Option Quota

/-- The quota of a limit whose values are not zero. -/
def RateLimit.quota (l : RateLimit) : Except ValidationError Quota :=
  if hs : l.requestsPerSecond = 0 then
    .error (.field "requests_per_second" "must be greater than zero")
  else if hb : l.burstSize = 0 then .error (.field "burst_size" "must be greater than zero")
  else .ok ⟨l.requestsPerSecond, l.burstSize, hs, hb⟩

namespace Client

/-- A client of valid settings. -/
def ofSettings (s : Settings) : Except ValidationError Client := do
  s.validate
  let quota ← match s.rateLimit with
    | none => pure none
    | some limit => limit.quota.map some
  let endpoint ← s.endpoint
  pure ⟨endpoint, s.apiKey, s.apiSecret, s.asyncTimeout, s.pollInterval, quota⟩

/-- The parameters of a command with those that every request has. -/
def fullQuery (c : Client) (command : String) (q : Query) : Query :=
  ((q.insert "command" command).insert "response" "json").insert "apikey" c.apiKey

/-- A text without the question marks at its end. -/
def trimQuestionMarks (cs : List Char) : List Char :=
  (cs.reverse.dropWhile (· = '?')).reverse

/-- The query of a command, and its signature as the last parameter. -/
def signedQuery (c : Client) (command : String) (q : Query) : List Char :=
  let query := Form.encodeMap (c.fullQuery command q)
  query.toList ++ "&signature=".toList ++
    Form.encodeComponent (Signature.sign query c.apiSecret).toList

def signedUrl (c : Client) (command : String) (q : Query) : String :=
  String.ofList (trimQuestionMarks c.endpoint.url.chars ++ '?' :: c.signedQuery command q)

def request (c : Client) (command : String) (q : Query) : Request :=
  ⟨command, q, c.signedUrl command q⟩

def get {α : Type} (c : Client) (command : String) (q : Query) (item : Json → Decode.Result α) :
    Conversation (Except Error α) :=
  .request (c.request command q) fun r => .done (r.decode command item)

/-- Sends a command that is carried out as a job. -/
def startAsync (c : Client) (command : String) (q : Query) :
    Conversation (Except Error JobHandle) :=
  c.get command q JobHandle.decode

def jobWait (c : Client) (jobId : String) : JobWait :=
  ⟨jobId, c.request JobWait.command (Query.ofParams [("jobid", some jobId)]), c.asyncTimeout,
    c.pollInterval⟩

/-- Waits until a job has ended, and gives its result. -/
def waitForJob (c : Client) (jobId : String) : Conversation (Except Error Json) :=
  .await (c.jobWait jobId) .done

/-- Starts a job and waits until it has ended; its result does not matter. -/
def carryOut (c : Client) (command : String) (q : Query) : Conversation (Except Error Unit) := do
  match ← c.startAsync command q with
  | .error e => return .error e
  | .ok job => return (← c.waitForJob job.jobId).map fun _ => ()

/-- The first of the entities found for an id. -/
def firstMatch {α : Type} (what : Lookup) (id : String) : List α → Except Error α
  | [] => .error (.noMatch what id)
  | a :: _ => .ok a

/-- The machine in the result of a deployment. -/
def deployed (result : Json) : Except Error VirtualMachine :=
  match result.get? "virtualmachine" with
  | none => .error (.asyncJob "deploy job result has no virtualmachine")
  | some vm =>
    match VirtualMachine.decode vm with
    | .error e => .error (.connection ("Failed to parse deployed VM: " ++ e.message))
    | .ok vm => .ok vm

/-- Deploys a machine. Once its id is known, a failure carries it. -/
def deploy (c : Client) (r : DeployRequest) :
    Conversation (Except DeployFailure VirtualMachine) := do
  match ← c.startAsync DeployRequest.command r.query with
  | .error e => return .error ⟨none, e⟩
  | .ok job =>
    match ← c.waitForJob job.jobId with
    | .error e => return .error ⟨job.entityId, e⟩
    | .ok result =>
      match deployed result with
      | .error e => return .error ⟨job.entityId, e⟩
      | .ok vm => return .ok vm

def perform (c : Client) : (call : Call) → Conversation call.Reply
  | .listProjects => c.get projectsCommand TextMap.empty Project.decodeAll
  | .listProfiles r => c.get ProfilesRequest.command r.query AutoscaleProfile.decodeAll
  | .listDetails r => c.get DetailsRequest.command r.query ResourceDetail.decodeAll
  | .listMachines r => c.get MachinesRequest.command r.query VirtualMachine.decodeAll
  | .getOffering id => do
    return (← c.get offeringsCommand (idQuery id) ServiceOffering.decodeAll).bind
      (firstMatch .serviceOffering id)
  | .getZone id => do
    return (← c.get zonesCommand (idQuery id) Zone.decodeAll).bind (firstMatch .zone id)
  | .deploy r => c.deploy r
  | .tag r => c.carryOut TagRequest.command r.query
  | .destroy r => c.carryOut DestroyRequest.command r.query

end Client
end NodeGroups
