import NodeGroups.Cloud.Catalog
import NodeGroups.Cloud.Machine
import NodeGroups.Cloud.Profile
import NodeGroups.Error
import NodeGroups.Json.Parser

namespace NodeGroups

open Decode

inductive Response
  /-- The request found no server, or no answer came. -/
  | lost (reason : String)
  | broken (reason : String)
  | received (status : UInt16) (body : String)
  deriving DecidableEq

namespace Response

def isSuccess (status : UInt16) : Bool := 200 ≤ status && status < 300

/-- The text of an error body. -/
def errorText (body : Json) : String := ((body.get? "errortext").bind Json.string?).getD "unknown"

/-- The error code in a body; only a natural number of 64 bits is one. -/
def errorCode? (body : Json) : Option Nat := (body.get? "errorcode").bind Json.word?

/-- A code of 16 bits. -/
def narrow? (code : Nat) : Option UInt16 := if code < UInt16.size then some (UInt16.ofNat code) else none

/-- The content of an envelope, an object with one member. An error code in it counts whatever the
status says, and then the status does. -/
def openEnvelope (status : UInt16) : Json → Except Error Json
  | .obj [(_, inner)] =>
    match errorCode? inner with
    | some code => .error (.api ((narrow? code).getD status) (errorText inner))
    | none => if isSuccess status then .ok inner else .error (.api status inner.render)
  | _ => .error (.connection "Unexpected response format")

def content : Response → Except Error Json
  | lost reason => .error (.connection ("HTTP request failed: " ++ reason))
  | broken reason => .error (.connection ("Failed to read response: " ++ reason))
  | received status body =>
    match Json.parse? body with
    | some value => openEnvelope status value
    | none =>
      if isSuccess status then .error (.connection "Failed to parse response: <json syntax>")
      else .error (.api status body)

/-- The content of a response to a command, decoded. -/
def decode {α : Type} (command : String) (item : Json → Result α) (r : Response) :
    Except Error α :=
  match r.content with
  | .error e => .error e
  | .ok value =>
    match item value with
    | .error e => .error (.connection ("Failed to parse " ++ command ++ " response: " ++ e.message))
    | .ok a => .ok a

end Response

/-- A record with a single list, which is left out when it is empty. -/
def Decode.listing {α : Type} (name key : String) (item : Json → Result α) : Json → Result (List α) :=
  Schema.decode ⟨name, [(key, check (list item))]⟩ fun f => f.orElse key (list item) []

/-- Listings of the cloud. -/
def Project.decodeAll : Json → Result (List Project) :=
  listing "ListProjectsResponse" "project" Project.decode

def AutoscaleProfile.decodeAll : Json → Result (List AutoscaleProfile) :=
  listing "ListAutoScaleVmProfilesResponse" "autoscalevmprofile" AutoscaleProfile.decode

def ResourceDetail.decodeAll : Json → Result (List ResourceDetail) :=
  listing "ListResourceDetailsResponse" "resourcedetail" ResourceDetail.decode

def VirtualMachine.decodeAll : Json → Result (List VirtualMachine) :=
  listing "ListVirtualMachinesResponse" "virtualmachine" VirtualMachine.decode

def ServiceOffering.decodeAll : Json → Result (List ServiceOffering) :=
  listing "ListServiceOfferingsResponse" "serviceoffering" ServiceOffering.decode

def Zone.decodeAll : Json → Result (List Zone) := listing "ListZonesResponse" "zone" Zone.decode

structure JobHandle where
  /-- The entity the job works on, if it is known yet. -/
  entityId : Option String
  jobId : String
  deriving DecidableEq

structure JobState where
  status : UInt8
  result : Option Json

namespace JobHandle

def schema : Schema :=
  ⟨"AsyncJobResponse", [("id", check (optional text)), ("jobid", check text)]⟩

def decode : Json → Result JobHandle := schema.decode fun f => do
  let entityId ← f.orElse "id" (optional text) none
  let jobId ← f.required "jobid" text
  pure ⟨entityId, jobId⟩

end JobHandle

namespace JobState

def schema : Schema :=
  ⟨"QueryAsyncJobResultResponse", [("jobstatus", check word8),
    ("jobresult", check (optional anything))]⟩

def decode : Json → Result JobState := schema.decode fun f => do
  let status ← f.required "jobstatus" word8
  let result ← f.orElse "jobresult" (optional anything) none
  pure ⟨status, result⟩

end JobState
end NodeGroups
