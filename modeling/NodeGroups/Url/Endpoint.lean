import NodeGroups.Error
import NodeGroups.Url.Address

namespace NodeGroups

structure Endpoint where
  url : Url
  deriving DecidableEq

namespace Endpoint

/-- The longest endpoint, in bytes of UTF-8. -/
def maxLength : Nat := 2083

/-- Reads an endpoint: a web address of limited length. -/
def parse (raw : String) : Except ValidationError Endpoint :=
  if raw.isEmpty then .error (.field "url" "URL is required")
  else if maxLength < Utf8.size raw then
    .error (.format ("URL exceeds maximum length of " ++ toString maxLength ++ " characters"))
  else match Address.parse raw with
    | .error e => .error (.format ("Invalid URL format: " ++ e.message))
    | .ok (.other scheme) =>
      .error (.constraint ("Invalid scheme " ++ scheme ++ ". Must be one of: http, https"))
    | .ok (.web url) => .ok ⟨url⟩

def text (e : Endpoint) : String := e.url.text

end Endpoint
end NodeGroups
