import NetWarden.Source

/-!
# Security groups

A security group is a named set of rules; its members are the ports bound to it. The group that
every project has from the start is called `default`.
-/

namespace NetWarden

/-- A security group. -/
structure Group where
  /-- The group's id. -/
  id : String
  /-- The group's name. -/
  name : String
  /-- What people wrote about the group. -/
  description : Option String := none
  /-- The project that the group belongs to. -/
  projectId : Option String := none
  /-- The enterprise project that the group belongs to. -/
  enterpriseProjectId : Option String := none
deriving DecidableEq, Repr, Inhabited

namespace Group

/-- The name of the group that every project has. -/
def defaultName : String := "default"

/-- The fields of a group's record. -/
def fieldNames : List String :=
  ["id", "name", "description", "project_id", "enterprise_project_id"]

/-- The record of a group. -/
def toJson (g : Group) : Json :=
  .record [("id", Json.text g.id), ("name", Json.text g.name),
    ("description", Json.optionalText g.description),
    ("project_id", Json.optionalText g.projectId),
    ("enterprise_project_id", Json.optionalText g.enterpriseProjectId)]

/-- The group of a record. -/
def read? {σ : Type} [Source σ] (s : σ) : Option Group := do
  let f ← Source.fields? fieldNames s
  return {
    id := ← f.required "id"
    name := ← f.required "name"
    description := ← f.optional "description"
    projectId := ← f.optional "project_id"
    enterpriseProjectId := ← f.optional "enterprise_project_id" }

instance : Readable Group := ⟨read?⟩

end Group

end NetWarden
