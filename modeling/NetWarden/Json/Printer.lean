import NetWarden.Decimal.Shortest
import NetWarden.Json.Basic
import NetWarden.Text.Numeral
import NetWarden.Text.Quoted

/-!
# Free-form values as text

`Json.compact` writes a value without blanks, as messages quote it. `Json.pretty` writes one item or
field a line, each level indented by two spaces, as reports and saved inventories are written; an
empty list or object stays on one line in both.

Inside a text the quote, the backslash and the controls are written as escapes and nothing else is,
so a delete character or a letter beyond ASCII stands for itself.
-/

namespace NetWarden.Json

/-- How one character stands between quotes. -/
def escapedChar (c : Char) : List Char :=
  if c = '"' then ['\\', '"']
  else if c = '\\' then ['\\', '\\']
  else if c = '\x08' then ['\\', 'b']
  else if c = '\x0c' then ['\\', 'f']
  else if c = '\n' then ['\\', 'n']
  else if c = '\r' then ['\\', 'r']
  else if c = '\t' then ['\\', 't']
  else if c.toNat < 0x20 then ['\\', 'u'] ++ Text.paddedHexadecimal 4 c.toNat
  else [c]

/-- A text between quotes. -/
def writtenText (s : String) : String :=
  String.ofList ('"' :: s.toList.flatMap escapedChar ++ ['"'])

/-- A value that is neither a list nor an object. -/
def writtenScalar : Json → String
  | .bool true => "true"
  | .bool false => "false"
  | .int i => Text.integer i
  | .float x => DecimalLayout.plain.write x
  | .str s => writtenText s
  | _ => "null"

/-- How lists and objects are laid out: what stands before an item at a depth, what after the last
one, and what between a key and its value. -/
structure Layout where
  /-- The break before an item, at the depth of the items. -/
  lineStart : Nat → String
  /-- What parts a key from its value. -/
  afterKey : String

/-- Everything on one line without blanks. -/
def Layout.oneLine : Layout := ⟨fun _ ↦ "", ":"⟩

/-- A line for every item, indented by two spaces a level. -/
def Layout.indented : Layout :=
  ⟨fun depth ↦ String.ofList ('\n' :: List.replicate (2 * depth) ' '), ": "⟩

mutual

/-- A value in a layout, at a depth. -/
def write (layout : Layout) (depth : Nat) : Json → String
  | .arr [] => "[]"
  | .arr (x :: xs) =>
    "[" ++ layout.lineStart (depth + 1) ++ write layout (depth + 1) x ++
      writeItems layout (depth + 1) xs ++ layout.lineStart depth ++ "]"
  | .obj [] => "\x7b\x7d"
  | .obj ((k, x) :: fs) =>
    "\x7b" ++ layout.lineStart (depth + 1) ++ writtenText k ++ layout.afterKey ++
      write layout (depth + 1) x ++ writeFields layout (depth + 1) fs ++ layout.lineStart depth ++
      "\x7d"
  | v => writtenScalar v

/-- The items of a list after its first. -/
def writeItems (layout : Layout) (depth : Nat) : List Json → String
  | [] => ""
  | x :: xs => "," ++ layout.lineStart depth ++ write layout depth x ++ writeItems layout depth xs

/-- The fields of an object after its first. -/
def writeFields (layout : Layout) (depth : Nat) : List (String × Json) → String
  | [] => ""
  | (k, x) :: fs =>
    "," ++ layout.lineStart depth ++ writtenText k ++ layout.afterKey ++ write layout depth x ++
      writeFields layout depth fs

end

/-- A value as messages quote it. -/
def compact (v : Json) : String := v.write .oneLine 0

/-- A value as files and reports hold it. -/
def pretty (v : Json) : String := v.write .indented 0

end NetWarden.Json
