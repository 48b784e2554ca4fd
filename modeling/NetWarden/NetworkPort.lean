import NetWarden.Source

/-!
# Network ports

A network port connects a device to the network and is bound to security groups, whose rules it then
obeys. It has nothing to do with the port numbers that a rule opens.
-/

namespace NetWarden

/-- A network port. -/
structure NetworkPort where
  /-- The port's id. -/
  id : String
  /-- The port's name. -/
  name : Option String := none
  /-- The kind of device that the port belongs to. -/
  deviceOwner : Option String := none
  /-- The ids of the groups that the port is bound to. -/
  groupIds : List String := []
deriving DecidableEq, Repr, Inhabited

namespace NetworkPort

/-- The fields of a port's record. -/
def fieldNames : List String := ["id", "name", "device_owner", "security_groups"]

/-- The record of a port. -/
def toJson (p : NetworkPort) : Json :=
  .record [("id", Json.text p.id), ("name", Json.optionalText p.name),
    ("device_owner", Json.optionalText p.deviceOwner),
    ("security_groups", some (.arr (p.groupIds.map .str)))]

/-- The port of a record. -/
def read? {σ : Type} [Source σ] (s : σ) : Option NetworkPort := do
  let f ← Source.fields? fieldNames s
  return {
    id := ← f.required "id"
    name := ← f.optional "name"
    deviceOwner := ← f.optional "device_owner"
    groupIds := ← f.defaulted "security_groups" [] }

instance : Readable NetworkPort := ⟨read?⟩

end NetworkPort

end NetWarden
