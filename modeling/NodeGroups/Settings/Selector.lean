import NodeGroups.Error
import NodeGroups.Text.Map

namespace NodeGroups

/-- The metadata a group has to carry to be taken on: every pair. -/
structure LabelSelector where
  wanted : TextMap
  deriving DecidableEq

namespace LabelSelector

/-- Whether the metadata has every wanted pair; of a pair without a value only the key counts. -/
def accepts (s : LabelSelector) (metadata : TextMap) : Bool :=
  s.wanted.toList.all fun p =>
    match metadata.get? p.1 with
    | none => false
    | some v => p.2.isEmpty || v = p.2

/-- Whether at least one selector accepts the metadata. -/
def anyAccepts (selectors : List LabelSelector) (metadata : TextMap) : Bool :=
  selectors.any fun s => s.accepts metadata

/-- Checks one `key=value`. -/
def checkItem (item : String) : Except ValidationError Unit :=
  match Text.pieces '=' item with
  | [k, v] =>
    if k.isEmpty || v.isEmpty then
      .error (.format "empty value not allowed in key=value tag pairs")
    else .ok ()
  | _ => .error (.format ("invalid key=value pair " ++ item))

/-- Checks that a spec is `label:` and then `key=value` items between commas. -/
def validate (spec : String) : Except ValidationError Unit :=
  match Text.pieces ':' spec with
  | [discoverer, body] =>
    if discoverer = "label" then (Text.pieces ',' body).forM checkItem
    else .error (.constraint ("unsupported discoverer specified: " ++ discoverer))
  | _ => .error (.format ("spec \"" ++ spec ++ "\" should be discoverer:key=value,key=value"))

/-- The pairs found in a spec, whether it is valid or not. An item without `=` is passed over. -/
def pairs (spec : String) : List (String × String) :=
  let body := ((Text.splitOnce? ':' spec).getD ("", "")).2
  (Text.pieces ',' body).filterMap (Text.splitOnce? '=')

/-- Reads a spec. Of a key written twice the last value counts. -/
def parse (spec : String) : Except ValidationError LabelSelector := do
  validate spec
  return ⟨.ofList (pairs spec)⟩

end LabelSelector
end NodeGroups
