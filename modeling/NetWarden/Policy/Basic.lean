import NetWarden.Policy.Action
import NetWarden.Yaml.Place

/-!
# Policies

A policy names a kind of resources, the filters that keep some of them, and the actions on those
that are kept. A definition, as a document holds it, becomes a policy if everything in it is
well-formed and every filter and action is about the policy's kind. The policies of a document have
different names; blanks around a name do not belong to it.

In a definition the name is looked at first, then the kind, the filters and the actions: all filters
are read before it is asked what they are about.
-/

namespace NetWarden

/-- A policy as a document holds it. -/
structure PolicyDefinition where
  /-- The name. -/
  name : String
  /-- The kind of resources. -/
  resource : String
  /-- What people wrote about the policy. -/
  description : Option String := none
  /-- The filters. -/
  filters : List Json := []
  /-- The actions. -/
  actions : List Json := []
deriving Repr, Inhabited

namespace PolicyDefinition

/-- The fields of a definition. -/
def fieldNames : List String := ["name", "resource", "description", "filters", "actions"]

/-- The record of a definition. -/
def toJson (d : PolicyDefinition) : Json :=
  .record [("name", Json.text d.name), ("resource", Json.text d.resource),
    ("description", Json.optionalText d.description), ("filters", some (.arr d.filters)),
    ("actions", some (.arr d.actions))]

/-- The definition of a record, which has no other fields. -/
def read? {σ : Type} [Source σ] (s : σ) : Option PolicyDefinition := do
  let f ← Source.closedFields? fieldNames s
  return {
    name := ← f.required "name"
    resource := ← f.required "resource"
    description := ← f.optional "description"
    filters := ← f.defaulted "filters" []
    actions := ← f.defaulted "actions" [] }

instance : Readable PolicyDefinition := ⟨read?⟩

end PolicyDefinition

/-- A document of policies. -/
structure PolicyDocument where
  /-- The definitions. -/
  policies : List PolicyDefinition
deriving Repr, Inhabited

namespace PolicyDocument

/-- The record of a document. -/
def toJson (d : PolicyDocument) : Json :=
  .obj [("policies", .arr (d.policies.map PolicyDefinition.toJson))]

/-- The document of a record, which has no other fields. -/
def read? {σ : Type} [Source σ] (s : σ) : Option PolicyDocument := do
  let f ← Source.closedFields? ["policies"] s
  return { policies := ← f.required "policies" }

instance : Readable PolicyDocument := ⟨read?⟩

end PolicyDocument

/-- What is wrong with a policy. -/
inductive PolicyFault where
  /-- The name is blank. -/
  | noName
  /-- Something in the policy is rejected. -/
  | rejected (e : ValidationError)
  /-- A filter is not about the policy's kind. -/
  | filterUnavailable (name : String) (kind : ResourceKind)
  /-- An action is not about the policy's kind. -/
  | actionUnavailable (name : String) (kind : ResourceKind)
  /-- A policy before it has the same name. -/
  | duplicateName

/-- What is wrong with a policy, in words. -/
def PolicyFault.message : PolicyFault → String
  | .noName => "name cannot be empty"
  | .rejected e => e.message
  | .filterUnavailable name kind => "filter '" ++ name ++ "' is not available on " ++ kind.name
  | .actionUnavailable name kind => "action '" ++ name ++ "' is not available on " ++ kind.name
  | .duplicateName => "duplicate policy name"

/-- Why a policy is rejected. -/
structure PolicyError where
  /-- The name of the policy. -/
  policy : String
  /-- What is wrong with it. -/
  fault : PolicyFault

/-- Why a policy is rejected, in words. -/
def PolicyError.message (e : PolicyError) : String :=
  "Invalid policy '" ++ e.policy ++ "': " ++ e.fault.message

/-- A checked policy. -/
structure Policy where
  /-- The name, without blanks around it. -/
  name : String
  /-- What people wrote about the policy. -/
  description : Option String
  /-- The kind of resources. -/
  kind : ResourceKind
  /-- The filters, each keeping some of what the one before it kept. -/
  filters : List PolicyFilter
  /-- The actions on what is kept. -/
  actions : List PolicyAction
deriving Repr, Inhabited

namespace Policy

/-- Without an element that fails a test; else a fault made of the first that does. -/
def allPass {α : Type} (test : α → Bool) (fault : α → PolicyFault) (items : List α) :
    Except PolicyFault Unit :=
  match items.find? fun a ↦ !test a with
  | some a => .error (fault a)
  | none => .ok ()

/-- A policy with what its definition says besides the name. -/
def checkBody (name : String) (d : PolicyDefinition) : Except PolicyFault Policy := do
  let kind ← (ResourceKind.parse d.resource).mapError .rejected
  let filters ← (PolicyFilter.ofItems d.filters).mapError .rejected
  allPass (PolicyFilter.supports kind) (fun f ↦ .filterUnavailable f.name kind) filters
  let actions ← (d.actions.mapM PolicyAction.ofJson).mapError .rejected
  allPass (PolicyAction.supports kind) (fun a ↦ .actionUnavailable a.name kind) actions
  return { name, description := d.description, kind, filters, actions }

/-- The policy of a definition. A blank name is told as it is written, any other without the blanks
around it. -/
def ofDefinition (d : PolicyDefinition) : Except PolicyError Policy :=
  let name := Text.trim d.name
  if name.isEmpty then .error ⟨d.name, .noName⟩
  else (checkBody name d).mapError (PolicyError.mk name)

end Policy

/-- The policies of a document. -/
structure PolicySet where
  /-- The policies in the order of the document. -/
  policies : List Policy
deriving Repr, Inhabited

namespace PolicySet

/-- The policies of definitions, none of which has one of the names taken. -/
def ofDefinitions (taken : List String) : List PolicyDefinition → Except PolicyError (List Policy)
  | [] => .ok []
  | d :: ds => do
    let p ← Policy.ofDefinition d
    if taken.contains p.name then throw ⟨p.name, .duplicateName⟩
    let ps ← ofDefinitions (p.name :: taken) ds
    return p :: ps

/-- The policies of a document. -/
def ofDocument (d : PolicyDocument) : Except PolicyError PolicySet :=
  PolicySet.mk <$> ofDefinitions [] d.policies

/-- The policy with a name. -/
def get? (s : PolicySet) (name : String) : Option Policy :=
  s.policies.find? fun p ↦ p.name == name

/-- The policies with a name; nothing if there is none. -/
def select? (s : PolicySet) (name : String) : Option PolicySet :=
  match s.policies.filter fun p ↦ p.name == name with
  | [] => none
  | found => some ⟨found⟩

end PolicySet

/-- Why a text gives no policies. -/
inductive PolicyTextError where
  /-- The text is no document of policies. -/
  | unreadable
  /-- A policy is rejected. -/
  | invalid (e : PolicyError)

namespace PolicySet

/-- The policies of a YAML text. -/
def ofYaml (text : String) : Except PolicyTextError PolicySet := do
  match (Readable.ofYamlText? text : Option PolicyDocument) with
  | none => .error .unreadable
  | some d => (ofDocument d).mapError .invalid

end PolicySet

end NetWarden
