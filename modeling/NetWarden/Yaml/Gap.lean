import NetWarden.Text.Numeral
import NetWarden.Yaml.Cell

/-!
# Scalars over several lines

A scalar that is bare or in quotes may go on in the next line. The blanks and line ends between two
of its words are a `Gap`. Within a line a gap stands for its blanks; over lines it is folded: one
line end stands for a space, several for one fewer, and the blanks around them for nothing. Only a
line feed is folded away; a separator stays.
-/

namespace NetWarden.Yaml

/-- Blanks and line ends between two words. -/
structure Gap where
  /-- The blanks before the first line end. -/
  blanks : List Char
  /-- The line ends. -/
  breaks : List Char
  /-- Whether a line end stood before them that counts for nothing. -/
  isEscaped : Bool
deriving Repr

namespace Gap

/-- Nothing between two words. -/
def none : Gap := ⟨[], [], false⟩

/-- The gap that a line end opens which counts for nothing. -/
def afterEscape : Gap := ⟨[], [], true⟩

/-- Whether a line ended in the gap. -/
def isBroken (g : Gap) : Bool := g.isEscaped || !g.breaks.isEmpty

/-- The gap with one more blank or line end. -/
def add (g : Gap) (c : Cell) : Gap :=
  if c.isBreak then { g with breaks := g.breaks ++ [c.char] }
  else if g.isBroken then g
  else { g with blanks := g.blanks ++ [c.char] }

/-- What a gap stands for. -/
def text (g : Gap) : List Char :=
  if g.isEscaped then g.breaks
  else
    match g.breaks with
    | [] => g.blanks
    | ['\n'] => [' ']
    | '\n' :: more => more
    | breaks => breaks

end Gap

/-! ### Single quotes -/

/-- The characters of a scalar in single quotes, the first quote passed and a gap before the cells.
A quote inside is written twice. -/
def singleQuoted (gap : Gap) : List Cell → Option (List Char × List Cell)
  | [] => .none
  | c :: rest =>
    if c.isEnd || isAnyDocumentMark (c :: rest) then .none
    else if c.isBlank || c.isBreak then singleQuoted (gap.add c) rest
    else if c.char = '\'' then
      match rest with
      | d :: after =>
        if d.char = '\'' then do
          let (cs, rest) ← singleQuoted .none after
          some (gap.text ++ '\'' :: cs, rest)
        else some (gap.text, d :: after)
      | [] => .none
    else do
      let (cs, rest) ← singleQuoted .none rest
      some (gap.text ++ c.char :: cs, rest)

/-! ### Double quotes -/

/-- The characters that escapes of one letter stand for. -/
def escapes : List (Char × Nat) :=
  [('0', 0x00), ('a', 0x07), ('b', 0x08), ('t', 0x09), ('\t', 0x09), ('n', 0x0A), ('v', 0x0B),
   ('f', 0x0C), ('r', 0x0D), ('e', 0x1B), (' ', 0x20), ('"', 0x22), ('/', 0x2F), ('\\', 0x5C),
   ('N', 0x85), ('_', 0xA0), ('L', 0x2028), ('P', 0x2029)]

/-- The number of digits of an escape by number. -/
def escapeWidth? (c : Char) : Option Nat :=
  if c = 'x' then some 2 else if c = 'u' then some 4 else if c = 'U' then some 8 else .none

/-- The character with a number in hexadecimal, if there is one. -/
def numbered? (digits : List Cell) : Option Char := do
  let n ← Text.number? 16 (digits.map Cell.char)
  if n ≤ 0x10FFFF ∧ ¬(0xD800 ≤ n ∧ n ≤ 0xDFFF) then some (Char.ofNat n) else .none

/-- The characters of a scalar in double quotes, the first quote passed and a gap before the cells.
The steps are bounded by the number of cells. -/
def doubleQuoted : Nat → Gap → List Cell → Option (List Char × List Cell)
  | 0, _, _ => .none
  | _, _, [] => .none
  | fuel + 1, gap, c :: rest =>
    if c.isEnd || isAnyDocumentMark (c :: rest) then .none
    else if c.isBlank || c.isBreak then doubleQuoted fuel (gap.add c) rest
    else if c.char = '"' then some (gap.text, rest)
    else if c.char = '\\' then
      match rest with
      | [] => .none
      | e :: after =>
        if e.isBreak then do
          let (cs, rest) ← doubleQuoted fuel .afterEscape after
          some (gap.text ++ cs, rest)
        else
          let found : Option (Char × List Cell) :=
            match escapeWidth? e.char with
            | some width =>
              if width ≤ after.length then
                (numbered? (after.take width)).map fun d ↦ (d, after.drop width)
              else .none
            | .none => (escapes.lookup e.char).map fun n ↦ (Char.ofNat n, after)
          match found with
          | .none => .none
          | some (d, after) => do
            let (cs, rest) ← doubleQuoted fuel .none after
            some (gap.text ++ d :: cs, rest)
    else do
      let (cs, rest) ← doubleQuoted fuel .none rest
      some (gap.text ++ c.char :: cs, rest)

/-! ### Bare scalars -/

/-- The characters of a bare scalar that end it inside brackets. -/
def flowIndicators : List Char := [',', '[', ']', '\x7b', '\x7d']

/-- What is read of a bare scalar. -/
structure Bare where
  /-- The characters. -/
  chars : List Char
  /-- Whether a line ended between the last of them and the rest. -/
  endsBroken : Bool
  /-- What follows. -/
  rest : List Cell

/-- A bare scalar, a gap before the cells. Outside brackets it goes on as long as its lines are
indented to a column; inside them it ends at a bracket, a brace or a comma. A colon ends it if a
word ends after the colon, a number sign if it follows a gap. -/
def bare (inFlow : Bool) (indent : Nat) (gap : Gap) : List Cell → Option Bare
  | [] => .none
  | c :: rest =>
    let stop : Option Bare := some ⟨[], gap.isBroken, c :: rest⟩
    if c.isBlank || c.isBreak then
      if c.char = '\t' && gap.isBroken && decide (c.column < indent) then .none
      else bare inFlow indent (gap.add c) rest
    else
      let afterGap := gap.isBroken || !gap.blanks.isEmpty
      let outdented := !inFlow && gap.isBroken && decide (c.column < indent)
      if c.isEnd || isAnyDocumentMark (c :: rest) then stop
      else if afterGap && (c.char == '#' || outdented) then stop
      else if inFlow && c.char == ':' &&
          (rest.head?.any fun d ↦ d.isOneOf (',' :: '?' :: flowIndicators)) then .none
      else if c.char = ':' ∧ endsWordAt rest then stop
      else if inFlow && c.isOneOf flowIndicators then stop
      else do
        let b ← bare inFlow indent .none rest
        some { b with chars := gap.text ++ c.char :: b.chars }

end NetWarden.Yaml
