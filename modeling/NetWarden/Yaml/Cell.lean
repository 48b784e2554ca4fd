import NetWarden.Text.Blank

/-!
# Characters in their places

A YAML text is read by its layout: what a character means depends on the column it stands in and on
whether a line ended before it. A `Cell` is a character with its place, so the places are worked out
once, in `cells?`, and everything after only looks at them.

The ways to end a line are made one there: a carriage return, a line feed, both together and the
next line character all become a line feed. The separators U+2028 and U+2029 end a line too, but
stay what they are. The last cell of a text is the end mark, whose character no text may hold.
-/

namespace NetWarden.Yaml

/-- A character and its place. -/
structure Cell where
  /-- The character. -/
  char : Char
  /-- The number of lines before the one it stands in. -/
  line : Nat
  /-- The number of characters before it in its line. -/
  column : Nat
  /-- The number of characters before it in the text. -/
  index : Nat
deriving DecidableEq, Repr, Inhabited

/-- The character of the end mark. -/
def endMark : Char := '\x00'

/-- Whether a text may hold a character: controls but the tab and the line ends are refused, and so
are the two code points that are no characters at the end of the basic plane. -/
def isAllowed (c : Char) : Bool :=
  c == '\t' || c == '\n' || c == '\r' || c.toNat == 0x85 ||
    Text.inRanges [(0x20, 0x7E), (0xA0, 0xFFFD), (0x10000, 0x10FFFF)] c.toNat

/-- A character that ends a line. -/
def isBreakChar (c : Char) : Bool :=
  c == '\n' || c == '\r' || c.toNat == 0x85 || c.toNat == 0x2028 || c.toNat == 0x2029

/-- The cells of characters from a place on, with the end mark. -/
def place (line column index : Nat) : List Char → List Cell
  | [] => [⟨endMark, line, column, index⟩]
  | '\r' :: '\n' :: cs => ⟨'\n', line, column, index⟩ :: place (line + 1) 0 (index + 2) cs
  | c :: cs =>
    if c = '\r' ∨ c.toNat = 0x85 then
      ⟨'\n', line, column, index⟩ :: place (line + 1) 0 (index + 1) cs
    else if isBreakChar c then
      ⟨c, line, column, index⟩ :: place (line + 1) 0 (index + 1) cs
    else ⟨c, line, column, index⟩ :: place line (column + 1) (index + 1) cs

/-- The cells of a text, if it may hold all its characters. A byte order mark at its start is not
part of it. -/
def cells? (text : String) : Option (List Cell) :=
  let cs := match text.toList with
    | '\uFEFF' :: cs => cs
    | cs => cs
  if cs.all isAllowed then some (place 0 0 0 cs) else none

namespace Cell

/-- The end of the text. -/
def isEnd (c : Cell) : Bool := c.char == endMark

/-- A space or a tab. -/
def isBlank (c : Cell) : Bool := c.char == ' ' || c.char == '\t'

/-- The end of a line. -/
def isBreak (c : Cell) : Bool := isBreakChar c.char

/-- The end of a line or of the text. -/
def endsLine (c : Cell) : Bool := c.isBreak || c.isEnd

/-- What ends a word: a blank, or the end of a line or of the text. -/
def endsWord (c : Cell) : Bool := c.isBlank || c.endsLine

/-- A letter, a digit, a hyphen or an underscore, of ASCII. -/
def isWordChar (c : Cell) : Bool :=
  c.char.isAlphanum || c.char == '-' || c.char == '_'

/-- Whether the cell holds one of the characters. -/
def isOneOf (c : Cell) (cs : List Char) : Bool := cs.contains c.char

end Cell

/-- Whether a word ends at the first of the cells. -/
def endsWordAt : List Cell → Bool
  | [] => true
  | c :: _ => c.endsWord

/-- Whether three equal characters at the start of a line mark a document, as `---` and `...` do. -/
def isDocumentMark (mark : Char) : List Cell → Bool
  | a :: b :: c :: rest =>
    a.column == 0 && a.char == mark && b.char == mark && c.char == mark && endsWordAt rest
  | _ => false

/-- Whether the start or the end of a document is marked here. -/
def isAnyDocumentMark (cs : List Cell) : Bool := isDocumentMark '-' cs || isDocumentMark '.' cs

/-- The cells from the first on that is not blank. -/
def skipBlanks (cs : List Cell) : List Cell := cs.dropWhile Cell.isBlank

/-- The cells from the end of the line on, if only blanks and a comment stand before it. -/
def restOfLine? (cs : List Cell) : Option (List Cell) :=
  let cs := match skipBlanks cs with
    | c :: rest => if c.char = '#' then rest.dropWhile fun (d : Cell) ↦ !d.endsLine else c :: rest
    | [] => []
  match cs with
  | c :: rest => if c.isBreak then some rest else if c.isEnd then some (c :: rest) else none
  | [] => some []

end NetWarden.Yaml
