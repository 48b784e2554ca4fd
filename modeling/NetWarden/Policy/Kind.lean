import NetWarden.Validation

/-!
# Kinds of resources

A policy is about resources of one kind. The name of a kind may have the name of the provider in
front of it.
-/

namespace NetWarden

/-- A kind of resources. -/
inductive ResourceKind where
  /-- Security group rules. -/
  | rule
  /-- Security groups. -/
  | group
  /-- Flow logs. -/
  | flowLog
  /-- Network ports. -/
  | port
deriving DecidableEq, Repr, Inhabited

namespace ResourceKind

/-- All kinds. -/
def all : List ResourceKind := [.rule, .group, .flowLog, .port]

/-- The name of a kind. -/
def name : ResourceKind → String
  | .rule => "vpc-security-group-rule"
  | .group => "vpc-security-group"
  | .flowLog => "vpc-flow-log"
  | .port => "vpc-port"

/-- The name of the provider, in front of a kind. -/
def provider : String := "huaweicloud."

/-- A name without the provider in front of it; the provider is taken away once. -/
def withoutProvider (s : String) : String :=
  if provider.toList.isPrefixOf s.toList then
    String.ofList (s.toList.drop provider.toList.length)
  else s

/-- The kind with a name. -/
def parse (s : String) : Checked ResourceKind :=
  let bare := withoutProvider s
  match all.find? fun k ↦ k.name == bare with
  | some k => .ok k
  | none => .error (.invalidValue "resource" (.unknownResource bare))

end ResourceKind

end NetWarden
