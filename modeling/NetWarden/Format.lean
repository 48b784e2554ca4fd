import NetWarden.Json.Printer
import NetWarden.Text.Lower
import NetWarden.Yaml.Place
import NetWarden.Yaml.Printer

/-!
# Formats of documents

The two formats in which reports and inventories are written. In a settings file a format has one
name only; where people type it, letters of either case and the short name of YAML will do.
-/

namespace NetWarden

/-- A format of documents. -/
inductive Format where
  /-- JSON, indented. -/
  | json
  /-- YAML in block style. -/
  | yaml
deriving DecidableEq, Repr, Inhabited

namespace Format

/-- The name of a format. -/
def name : Format → String
  | json => "json"
  | yaml => "yaml"

/-- The format with a name. -/
def named? (s : String) : Option Format :=
  if s = "json" then some json else if s = "yaml" then some yaml else none

instance : Readable Format := ⟨Readable.choice? named?⟩

/-- The format that people mean by a text. -/
def ofText? (s : String) : Option Format :=
  let s := Text.lower s
  if s = "yml" then some yaml else named? s

/-- Why a text means no format. -/
def rejection (s : String) : String :=
  "Invalid output format '" ++ Text.lower s ++ "'. Expected json or yaml"

/-- A value as a document of a format. -/
def write (v : Json) : Format → String
  | json => v.pretty
  | yaml => Yaml.write v

/-- The value of a document of a format. -/
def read? {α : Type} [Readable α] (text : String) : Format → Option α
  | json => Readable.ofJsonText? text
  | yaml => Readable.ofYamlText? text

end Format

end NetWarden
