import NodeGroups.Signing.Base64
import NodeGroups.Signing.Sha1
import NodeGroups.Text.Lowercase
import NodeGroups.Text.Utf8

namespace NodeGroups.Signature

/-- A key of the block size: a longer one is hashed first. -/
def blockKey (key : List UInt8) : List UInt8 :=
  let short := if 64 < key.length then Sha1.digest key else key
  short ++ List.replicate (64 - short.length) 0

def hmac (key message : List UInt8) : List UInt8 :=
  let k := blockKey key
  Sha1.digest (k.map (· ^^^ 0x5C) ++ Sha1.digest (k.map (· ^^^ 0x36) ++ message))

/-- The signature of an encoded query: of its lower case, since servers lower it too. -/
def sign (query secret : String) : String :=
  String.ofList (Base64.encode (hmac (Utf8.bytes secret) (Utf8.bytes (Text.lowercase query))))

end NodeGroups.Signature
