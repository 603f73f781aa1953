import NodeGroups.Json.Decode

namespace NodeGroups

open Decode

structure Project where
  id : String
  name : String
  deriving DecidableEq, Inhabited

/-- A size in which machines are offered. -/
structure ServiceOffering where
  id : String
  name : String
  /-- Virtual processors. -/
  cpuNumber : UInt32
  /-- Megahertz. -/
  cpuSpeed : Option UInt32
  /-- Megabytes. -/
  memory : UInt64
  deriving DecidableEq, Inhabited

structure Zone where
  id : String
  name : String
  deriving DecidableEq, Inhabited

namespace Project

def schema : Schema := ⟨"Project", [("id", check text), ("name", check text)]⟩

def decode : Json → Result Project := schema.decode fun f => do
  let id ← f.required "id" text
  let name ← f.orElse "name" text ""
  pure ⟨id, name⟩

def encode (p : Project) : Json := .object [("id", .str p.id), ("name", .str p.name)]

end Project

namespace ServiceOffering

def schema : Schema :=
  ⟨"ServiceOffering", [("id", check text), ("name", check text), ("cpunumber", check word32),
    ("cpuspeed", check (optional word32)), ("memory", check word64)]⟩

def decode : Json → Result ServiceOffering := schema.decode fun f => do
  let id ← f.required "id" text
  let name ← f.orElse "name" text ""
  let cpuNumber ← f.orElse "cpunumber" word32 0
  let cpuSpeed ← f.orElse "cpuspeed" (optional word32) none
  let memory ← f.orElse "memory" word64 0
  pure ⟨id, name, cpuNumber, cpuSpeed, memory⟩

/-- An unknown speed is left out. -/
def encode (o : ServiceOffering) : Json :=
  .object <| [("id", .str o.id), ("name", .str o.name), ("cpunumber", .nat o.cpuNumber.toNat)] ++
    (o.cpuSpeed.map fun s => ("cpuspeed", Json.nat s.toNat)).toList ++
    [("memory", .nat o.memory.toNat)]

end ServiceOffering

namespace Zone

def schema : Schema := ⟨"Zone", [("id", check text), ("name", check text)]⟩

def decode : Json → Result Zone := schema.decode fun f => do
  let id ← f.required "id" text
  let name ← f.orElse "name" text ""
  pure ⟨id, name⟩

def encode (z : Zone) : Json := .object [("id", .str z.id), ("name", .str z.name)]

end Zone
end NodeGroups
