import NodeGroups.Text.Quoted
import NodeGroups.Text.Split

namespace NodeGroups

/-- Why a setting or a text of the user is refused. -/
inductive ValidationError
  | field (name message : String)
  | format (message : String)
  | constraint (message : String)
  deriving DecidableEq

def ValidationError.message : ValidationError → String
  | field name message => "Field '" ++ name ++ "' validation failed: " ++ message
  | format message => "Format error: " ++ message
  | constraint message => "Domain constraint violation: " ++ message

/-- What a look-up by id may fail to find. -/
inductive Lookup
  | serviceOffering
  | zone
  deriving DecidableEq

def Lookup.text : Lookup → String
  | serviceOffering => "service offering"
  | zone => "zone"

/-- Everything that can go wrong in the engine. A failed cleanup keeps both its own error and the
error that made it necessary. -/
inductive Error
  | connection (message : String)
  | api (code : UInt16) (message : String)
  | asyncJob (message : String)
  | noMatch (what : Lookup) (id : String)
  | validation (error : ValidationError)
  | createCleanup (destroy cause : Error)
  | tagCleanup (destroy cause : Error)
  /-- The messages of the units that failed, in the order they ended. -/
  | scaleUp (messages : List String)
  | duplicateNodeGroup (name id existingId : String)
  | nodeNotFound (node providerId group : String)
  | invalidDelta (delta : Int64)
  | sizeIncreaseTooLarge (current desired max : Nat)
  | notImplemented
  deriving DecidableEq, Inhabited

namespace Error

def message : Error → String
  | connection m => "Connection error: " ++ m
  | api code m => "CloudStack API error " ++ toString code.toNat ++ ": " ++ m
  | asyncJob m => "Async job error: " ++ m
  | noMatch what id => "No match found for " ++ what.text ++ ": " ++ id
  | validation e => "Validation error: " ++ e.message
  | createCleanup destroy cause =>
    "unable to destroy cloudstack VM after error creating: " ++ destroy.message ++
      " - original error: " ++ cause.message
  | tagCleanup destroy cause =>
    "unable to destroy cloudstack VM after tagging error: " ++ destroy.message ++
      " - original error: " ++ cause.message
  | scaleUp messages => "error creating VMs: " ++ String.intercalate " - " messages
  | duplicateNodeGroup name id existingId =>
    "more than one AutoScaleVMProfile with the nodeGroupName " ++ Text.quoted name ++ ", ids: " ++
      id ++ " and " ++ existingId
  | nodeNotFound node providerId group =>
    "node (" ++ node ++ ", " ++ providerId ++ ") not found in nodeGroup " ++ group
  | invalidDelta delta => "delta must be positive, have: " ++ toString delta.toInt
  | sizeIncreaseTooLarge current desired max =>
    "size increase is too large. current: " ++ toString current ++ " desired: " ++
      toString desired ++ " max: " ++ toString max
  | notImplemented => "Not implemented"

/-- What the API writes in front of the id of an entity that does not exist. -/
def notFoundStart : String := "Invalid parameter id value="

/-- What it writes behind the id. -/
def notFoundEnd : String := " due to incorrect long value format, or entity does not exist"

/-- How the API words that entity `id` does not exist; it has no error code of its own for that. -/
def notFoundText (id : String) : String := notFoundStart ++ id ++ notFoundEnd

/-- Whether the error says that entity `id` does not exist. -/
def isNotFound (e : Error) (id : String) : Bool :=
  Text.occursIn (notFoundText id).toList e.message.toList

end Error

/-- A failed deployment, with the id of the machine it may have left behind. -/
structure DeployFailure where
  vmId : Option String
  error : Error
  deriving DecidableEq

def DeployFailure.message (f : DeployFailure) : String := f.error.message

end NodeGroups
