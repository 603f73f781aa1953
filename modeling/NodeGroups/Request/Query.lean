import NodeGroups.Text.Map

namespace NodeGroups

abbrev Query := TextMap

namespace Query

/-- Sets a parameter that may be missing. -/
def setOptional (q : Query) (key : String) : Option String → Query
  | none => q
  | some v => q.insert key v

/-- The query of parameters that may each be missing. -/
def ofParams (params : List (String × Option String)) : Query :=
  params.foldl (fun q p => q.setOptional p.1 p.2) TextMap.empty

/-- A list as one value, joined by commas; an empty list is none. -/
def joined? (values : List String) : Option String :=
  if values.isEmpty then none else some (String.intercalate "," values)

/-- The name of one half of an entry in a map parameter. -/
def entryKey (name : String) (index : Nat) (half : String) : String :=
  name ++ "[" ++ toString index ++ "]." ++ half

/-- Sets the entries of a map parameter, numbered from `index` on. -/
def setEntries (q : Query) (name : String) (index : Nat) : List (String × String) → Query
  | [] => q
  | (k, v) :: rest =>
    setEntries ((q.insert (entryKey name index "key") k).insert (entryKey name index "value") v)
      name (index + 1) rest

/-- Sets a map parameter: its entries in key order, each as a numbered key and value. -/
def setMap (q : Query) (name : String) (m : TextMap) : Query := q.setEntries name 0 m.toList

end Query
end NodeGroups
