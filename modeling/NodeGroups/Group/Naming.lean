namespace NodeGroups

def maxNameLength : Nat := 63

/-- A name made of a base and a random number, cut to `maxNameLength` characters. -/
def randomName (base : String) (value : UInt64) : String :=
  String.ofList ((base ++ "-" ++ toString value.toNat).toList.take maxNameLength)

end NodeGroups
