import NodeGroups.Json.Stream
import NodeGroups.Settings.Duration
import NodeGroups.Url.Endpoint

namespace NodeGroups

open Decode

structure RateLimit where
  requestsPerSecond : UInt32
  burstSize : UInt32
  deriving DecidableEq, Inhabited

/-- How to reach the cloud, and how to behave there. -/
structure Settings where
  apiKey : String := ""
  apiSecret : String := ""
  insecure : Bool := false
  /-- Whether groups are looked for in projects too. -/
  useProjects : Bool := false
  /-- How long a project list stays fresh, as text; empty for the standard. -/
  projectRefreshInterval : String := ""
  expungeVms : Bool := false
  url : String := ""
  asyncTimeoutSecs : UInt64 := 300
  pollIntervalMs : UInt64 := 1000
  rateLimit : Option RateLimit := none
  deriving DecidableEq, Inhabited

namespace RateLimit

def name : String := "RateLimitConfig"

def fields : List (String × Check) :=
  [("requests_per_second", check word32), ("burst_size", check word32)]

def schema : Schema := ⟨name, fields⟩

def decode : Json → Result RateLimit := schema.decode fun f => do
  let requestsPerSecond ← f.required "requests_per_second" word32
  let burstSize ← f.required "burst_size" word32
  pure ⟨requestsPerSecond, burstSize⟩

/-- Reads the limit in the order of a text. -/
def reader : Json.Reader :=
  .record ⟨name, fields.map fun f => (f.1, .scalar f.2), check decode⟩

end RateLimit

namespace Settings

def name : String := "CloudstackConfig"

/-- The fields that hold no record. -/
def plainFields : List (String × Check) :=
  [("api_key", check text), ("api_secret", check text), ("insecure", check flag),
    ("use_projects", check flag), ("project_refresh_interval", check text),
    ("expunge_vms", check flag), ("url", check text), ("async_timeout_secs", check word64),
    ("poll_interval_ms", check word64)]

def schema : Schema :=
  ⟨name, plainFields ++ [("rate_limit", check (optional RateLimit.decode))]⟩

/-- Every field may be left out. -/
def decode : Json → Result Settings := schema.decode fun f => do
  let apiKey ← f.orElse "api_key" text ""
  let apiSecret ← f.orElse "api_secret" text ""
  let insecure ← f.orElse "insecure" flag false
  let useProjects ← f.orElse "use_projects" flag false
  let projectRefreshInterval ← f.orElse "project_refresh_interval" text ""
  let expungeVms ← f.orElse "expunge_vms" flag false
  let url ← f.orElse "url" text ""
  let asyncTimeoutSecs ← f.orElse "async_timeout_secs" word64 300
  let pollIntervalMs ← f.orElse "poll_interval_ms" word64 1000
  let rateLimit ← f.orElse "rate_limit" (optional RateLimit.decode) none
  pure
    { apiKey, apiSecret, insecure, useProjects, projectRefreshInterval, expungeVms, url,
      asyncTimeoutSecs, pollIntervalMs, rateLimit }

/-- Reads settings in the order of a text. -/
def reader : Json.Reader :=
  .record
    ⟨name, (plainFields.map fun f => (f.1, .scalar f.2)) ++
      [("rate_limit", .optional RateLimit.reader)], check decode⟩

def parse (document : String) : Except ValidationError Settings :=
  let unexpected (e : Json.TextError) : ValidationError :=
    .format ("unexpected configuration format: " ++ e.message)
  match Json.Reader.readText reader document with
  | .error e => .error (unexpected e)
  | .ok value =>
    match decode value with
    | .error e => .error (unexpected (.unfit e))
    | .ok settings => .ok settings

def parseBytes (document : List UInt8) : Except ValidationError Settings :=
  match Utf8.decode? document with
  | none => .error (.format "unable to read configuration: stream did not contain valid UTF-8")
  | some cs => parse (String.ofList cs)

/-- Settings with what the environment says in their place. A flag is set by `true` alone. -/
def override (s : Settings) (environment : String → Option String) : Settings :=
  let text (key old : String) : String := (environment key).getD old
  let flag (key : String) (old : Bool) : Bool := ((environment key).map (· == "true")).getD old
  { s with
    apiKey := text "CLOUDSTACK_API_KEY" s.apiKey
    apiSecret := text "CLOUDSTACK_API_SECRET" s.apiSecret
    insecure := flag "CLOUDSTACK_INSECURE" s.insecure
    useProjects := flag "CLOUDSTACK_USE_PROJECTS" s.useProjects
    projectRefreshInterval :=
      text "CLOUDSTACK_PROJECT_REFRESH_INTERVAL" s.projectRefreshInterval
    expungeVms := flag "CLOUDSTACK_EXPUNGE_VMS" s.expungeVms
    url := text "CLOUDSTACK_URL" s.url }

def endpoint (s : Settings) : Except ValidationError Endpoint := Endpoint.parse s.url

/-- How long a project list stays fresh. -/
def refreshInterval (s : Settings) : Except ValidationError RefreshInterval :=
  if s.projectRefreshInterval.isEmpty then .ok .standard
  else RefreshInterval.parse s.projectRefreshInterval

/-- How long an asynchronous job is waited for, in nanoseconds. -/
def asyncTimeout (s : Settings) : Nat := s.asyncTimeoutSecs.toNat * 1000000000

/-- The pause between two looks at a job, in nanoseconds. -/
def pollInterval (s : Settings) : Nat := s.pollIntervalMs.toNat * 1000000

/-- The first setting that is missing or wrong. -/
def validate (s : Settings) : Except ValidationError Unit := do
  if s.apiKey.isEmpty then .error (.field "api_key" "api key is required")
  if s.apiSecret.isEmpty then .error (.field "api_secret" "api secret is required")
  if s.url.isEmpty then .error (.field "url" "URL is required")
  let _ ← s.endpoint
  let _ ← s.refreshInterval
  match s.rateLimit with
  | none => pure ()
  | some limit =>
    if limit.requestsPerSecond = 0 || limit.burstSize = 0 then
      .error (.constraint "rate limit values must be greater than zero")

end Settings
end NodeGroups
