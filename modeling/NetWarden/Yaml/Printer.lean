import NetWarden.Json.Printer
import NetWarden.Yaml.Cell
import NetWarden.Yaml.Scalar

/-!
# Free-form values as YAML

A value as a YAML document in block style. Entries of a mapping and items of a list have a line
each; a mapping inside another is indented by two spaces, a list is not indented under its key, and
a list or mapping that is an item begins in the line of its hyphen. An empty list is `[]`, an empty
mapping the empty braces.

A text is written bare if it reads back as that text, and in single quotes if bare it would say
something else. Over several lines it is a literal block. What a line may not hold, controls above
all, needs double quotes and escapes. Lines are never folded, however long.
-/

namespace NetWarden.Yaml

/-! ### How a text may be written -/

/-- A character that can stand in a document as it is. -/
def isPrintable (c : Char) : Bool :=
  c == '\n' ||
    Text.inRanges [(0x20, 0x7E), (0xA0, 0xFEFE), (0xFF00, 0xFFFD), (0x10000, 0x10FFFF)] c.toNat

/-- What ends a word in a text: a blank, the end of a line, or the end of the text. -/
def endsWordIn : List Char → Bool
  | [] => true
  | c :: _ => c == ' ' || c == '\t' || c == '\x00' || isBreakChar c

/-- Whether some character of a text, with what stands before and after it, passes a test. -/
def anyAround (test : Option Char → Char → List Char → Bool) (before : Option Char) :
    List Char → Bool
  | [] => false
  | c :: cs => test before c cs || anyAround test (some c) cs

/-- The characters that may not begin a bare text. -/
def openingIndicators : List Char :=
  ['#', ',', '[', ']', '\x7b', '\x7d', '&', '*', '!', '|', '>', '\'', '"', '%', '@', '\x60']

/-- Whether a character marks something where it stands. -/
def isIndicator (before : Option Char) (c : Char) (after : List Char) : Bool :=
  match before with
  | none =>
    openingIndicators.contains c || (c == '?' || c == ':' || c == '-') && endsWordIn after
  | some b => c == ':' && endsWordIn after || c == '#' && endsWordIn [b]

/-- Whether a text would be taken for a mark of a document or for something marked. -/
def hasIndicator (cs : List Char) : Bool :=
  ['-', '-', '-'].isPrefixOf cs || ['.', '.', '.'].isPrefixOf cs || anyAround isIndicator none cs

/-- A space before which, or after which, a line ends. -/
def isAtBreak (before : Option Char) (c : Char) (_ : List Char) : Bool :=
  match before with
  | none => false
  | some b => isBreakChar b && c == ' '

/-- A line end with a space before it. -/
def isAfterSpace (before : Option Char) (c : Char) (_ : List Char) : Bool :=
  before == some ' ' && isBreakChar c

/-- Whether a text needs double quotes: a line of it ends in a space, or it holds a character that
cannot stand as it is. -/
def needsEscapes (cs : List Char) : Bool :=
  anyAround isAfterSpace none cs || !cs.all isPrintable

/-- Whether a text may stand in single quotes. -/
def maySingleQuote (cs : List Char) : Bool :=
  !needsEscapes cs && !anyAround isAtBreak none cs

/-- Whether a character is a space or ends a line. -/
def isEdge (c : Char) : Bool := c == ' ' || isBreakChar c

/-- Whether a text may stand bare. -/
def mayBeBare (cs : List Char) : Bool :=
  maySingleQuote cs && !(cs.head?.any isEdge) && !(cs.getLast?.any isEdge) &&
    !(cs.any isBreakChar) && !hasIndicator cs

/-- Whether a text may be a literal block. -/
def mayBeBlock (cs : List Char) : Bool := !needsEscapes cs && cs.getLast? != some ' '

/-- Whether a bare scalar says nothing but its own text. -/
def isText (s : String) : Bool :=
  !isPaddedDigits s.toList &&
    match bareValue? s with
    | some (.str _) => true
    | _ => false

/-- How a text is written. -/
def styleOf (s : String) : Style :=
  let cs := s.toList
  if cs.contains '\n' then if mayBeBlock cs then .literal else .doubleQuoted
  else if isText s && mayBeBare cs then .plain
  else if maySingleQuote cs then .singleQuoted
  else .doubleQuoted

/-! ### Writing a text -/

/-- The spaces of an indentation. -/
def spaces (indent : Nat) : String := String.ofList (List.replicate indent ' ')

/-- The characters of a text over several lines; each line that is not empty is indented. -/
def indentLines (indent : Nat) : Bool → List Char → List Char
  | _, [] => []
  | atStart, c :: cs =>
    if isBreakChar c then c :: indentLines indent true cs
    else (if atStart then List.replicate indent ' ' else []) ++ c :: indentLines indent false cs

/-- A text in single quotes. -/
def inSingleQuotes (indent : Nat) (cs : List Char) : String :=
  let doubled := cs.flatMap fun c ↦ if c = '\'' then ['\'', '\''] else [c]
  let inset := if (cs.getLast?.any isBreakChar) then List.replicate indent ' ' else []
  String.ofList ('\'' :: indentLines indent false doubled ++ inset ++ ['\''])

/-- The letters of the escapes that have one. -/
def escapeLetters : List (Nat × Char) :=
  [(0x00, '0'), (0x07, 'a'), (0x08, 'b'), (0x09, 't'), (0x0A, 'n'), (0x0B, 'v'), (0x0C, 'f'),
   (0x0D, 'r'), (0x1B, 'e'), (0x22, '"'), (0x5C, '\\'), (0x85, 'N'), (0xA0, '_'), (0x2028, 'L'),
   (0x2029, 'P')]

/-- A number in base sixteen with capital letters, filled up with zeros. -/
def capitalHexadecimal (width n : Nat) : List Char :=
  (Text.paddedHexadecimal width n).map Char.toUpper

/-- How a character stands in double quotes. -/
def inDoubleQuotes (c : Char) : List Char :=
  let n := c.toNat
  if isPrintable c && !isBreakChar c && c != '"' && c != '\\' then [c]
  else
    match escapeLetters.lookup n with
    | some letter => ['\\', letter]
    | none =>
      if n ≤ 0xFF then ['\\', 'x'] ++ capitalHexadecimal 2 n
      else if n ≤ 0xFFFF then ['\\', 'u'] ++ capitalHexadecimal 4 n
      else ['\\', 'U'] ++ capitalHexadecimal 8 n

/-- The header of a literal block: a digit if its first line could be mistaken for indentation, and
the sign that keeps its end as it is. -/
def literalHeader (cs : List Char) : List Char :=
  let digit := if (cs.head?.any isEdge) then ['2'] else []
  let sign := match cs.reverse with
    | [] => ['-']
    | [c] => if isBreakChar c then ['+'] else ['-']
    | c :: d :: _ => if !isBreakChar c then ['-'] else if isBreakChar d then ['+'] else []
  '|' :: digit ++ sign

/-- A literal block. Its last line is ended just if the text ends in a line end. -/
def literalBlock (indent : Nat) (cs : List Char) : String :=
  String.ofList (literalHeader cs ++ '\n' :: indentLines indent true cs)

/-- A text at an indentation. -/
def writtenText (indent : Nat) (s : String) : String :=
  let cs := s.toList
  match styleOf s with
  | .plain => s
  | .singleQuoted => inSingleQuotes indent cs
  | .literal => literalBlock indent cs
  | _ => String.ofList ('"' :: cs.flatMap inDoubleQuotes ++ ['"'])

/-- Ends the line that a written text is in, unless the text has ended it: any of the line ends will
do, so a literal block that closes with a separator is left as it is. -/
def endLine (written : String) : String :=
  if written.toList.getLast?.any isBreakChar then written else written ++ "\n"

/-! ### Writing a value -/

/-- Whether a text may be a key in front of its colon: it is in one line and not longer than 128
bytes. Any other key has a mark before it and its value in a line of its own. -/
def isSimpleKey (s : String) : Bool := !(s.toList.any isBreakChar) && decide (s.utf8ByteSize ≤ 128)

/-- A value without items and entries of its own, at an indentation. -/
def writtenLeaf (indent : Nat) : Json → String
  | .arr _ => "[]"
  | .obj _ => "\x7b\x7d"
  | .str s => writtenText indent s
  | v => v.writtenScalar

/-- A key at an indentation and what parts it from its value. A list begins below its key, a mapping
below and indented, and any other value in the line of the key. -/
def keyBefore (indent : Nat) (key : String) (value : Json) : String :=
  let written := writtenText (indent + 2) key
  if isSimpleKey key then
    written ++ match value with
      | .arr (_ :: _) => ":\n" ++ spaces indent
      | .obj (_ :: _) => ":\n" ++ spaces (indent + 2)
      | _ => ": "
  else "? " ++ endLine written ++ spaces indent ++ ": "

/-- The indentation of a value under a key at an indentation. -/
def indentUnder (indent : Nat) (key : String) : Json → Nat
  | .arr (_ :: _) => if isSimpleKey key then indent else indent + 2
  | _ => indent + 2

mutual

/-- The lines of a value, all of them ended. It begins in the line and at the column of its first
item or key, which is the indentation of the others. -/
def writeAt (indent : Nat) : Json → String
  | .arr (x :: xs) => "- " ++ writeAt (indent + 2) x ++ writeItems indent xs
  | .obj ((k, x) :: fs) =>
    keyBefore indent k x ++ writeAt (indentUnder indent k x) x ++ writeEntries indent fs
  | v => endLine (writtenLeaf indent v)

/-- The items of a list after its first. -/
def writeItems (indent : Nat) : List Json → String
  | [] => ""
  | x :: xs => spaces indent ++ "- " ++ writeAt (indent + 2) x ++ writeItems indent xs

/-- The entries of a mapping after its first. -/
def writeEntries (indent : Nat) : List (String × Json) → String
  | [] => ""
  | (k, x) :: fs =>
    spaces indent ++ keyBefore indent k x ++ writeAt (indentUnder indent k x) x ++
      writeEntries indent fs

end

/-- A value as a document. A text that is all of it has its lines indented too. -/
def write : Json → String
  | .str s => endLine (writtenText 2 s)
  | v => writeAt 0 v

/-- No line end is added to one that a text brings with it. -/
example : write (.obj [("a", .str "x\n\u2028"), ("b", .null)]) =
    "a: |+\n  x\n\u2028b: null\n" := by decide +kernel

end NetWarden.Yaml
