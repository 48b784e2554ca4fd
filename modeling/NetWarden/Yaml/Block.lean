import NetWarden.Text.Numeral
import NetWarden.Yaml.Cell

/-!
# Block scalars

A scalar that follows `|` or `>` is a block of lines. Its indentation is that of its first line that
is not empty, or is told by a digit after the indicator, and always deeper than that of the block it
stands in. A literal block keeps its line ends; in a folded one, a line end between two lines that
do not start with a blank is folded as in other scalars.

What the block ends with is told by a sign after the indicator: none keeps the last line end, a
minus drops it, and a plus also keeps the empty lines after it.
-/

namespace NetWarden.Yaml

/-- What is kept of the line ends after the last line of a block. -/
inductive Tail where
  /-- Nothing. -/
  | strip
  /-- The end of the last line. -/
  | clip
  /-- Everything. -/
  | keep
deriving DecidableEq, Repr

/-- What the sign after an indicator asks for. -/
def tail? (c : Cell) : Option Tail :=
  if c.char = '+' then some .keep else if c.char = '-' then some .strip else none

/-- Whether a cell holds a decimal digit. -/
def isDigit (c : Cell) : Bool := c.char.isDigit

/-- The digit that tells an indentation: any but zero. -/
def step? (c : Cell) : Option Nat := do
  let d ← Text.digitIn? 10 c.char
  if d = 0 then none else some d

/-- The tail and the indentation that a block's header asks for, in either order, and the cells
after the header's line. -/
def blockHeader (cs : List Cell) : Option (Tail × Option Nat × List Cell) := do
  let (tail, step, rest) ← match cs with
    | [] => none
    | c :: rest =>
      match tail? c with
      | some tail =>
        match rest with
        | d :: after =>
          if isDigit d then (step? d).map fun n ↦ (tail, some n, after)
          else some (tail, none, rest)
        | [] => none
      | none =>
        if isDigit c then
          match step? c, rest with
          | some n, d :: after =>
            match tail? d with
            | some tail => some (tail, some n, after)
            | none => some (.clip, some n, rest)
          | _, _ => none
        else some (.clip, none, c :: rest)
  some (tail, step, ← restOfLine? rest)

/-- The empty lines before a line of a block: their line ends, the furthest column that their blanks
reach, and the cells from the line's indentation on. A tab may not stand in the indentation. -/
def emptyLines (indent : Option Nat) (furthest : Nat) :
    List Cell → Option (List Char × Nat × List Cell)
  | [] => some ([], furthest, [])
  | c :: rest =>
    let inIndent := match indent with
      | none => true
      | some n => decide (c.column < n)
    if inIndent && c.char == ' ' then emptyLines indent furthest rest
    else if inIndent && c.char == '\t' then none
    else if c.isBreak then do
      let (breaks, furthest, rest) ← emptyLines indent (max furthest c.column) rest
      some (c.char :: breaks, furthest, rest)
    else some ([], max furthest c.column, c :: rest)

/-- The lines of a block of an indentation. Before the cells stand `lead`, the end of the line
before them, and `empties`, the ends of the empty lines after it; `wasBlank` says whether that line
started with a blank. Gives the characters up to the last line, the two line ends after it, and the
rest. -/
def blockLines (isFolded : Bool) (indent : Nat) :
    Nat → List Char → List Char → Bool → List Cell →
      Option (List Char × List Char × List Char × List Cell)
  | 0, _, _, _, _ => none
  | _ + 1, lead, empties, _, [] => some ([], lead, empties, [])
  | fuel + 1, lead, empties, wasBlank, c :: rest =>
    if c.column = indent ∧ !c.isEnd then do
      let joint :=
        if isFolded && lead == ['\n'] && !wasBlank && !c.isBlank then
          if empties.isEmpty then [' '] else empties
        else lead ++ empties
      let line := (c :: rest).takeWhile fun (d : Cell) ↦ !d.endsLine
      let (lead, rest) := match (c :: rest).dropWhile fun (d : Cell) ↦ !d.endsLine with
        | d :: after => if d.isBreak then ([d.char], after) else ([], d :: after)
        | [] => ([], [])
      let (empties, _, rest) ← emptyLines (some indent) 0 rest
      let (chars, lead, empties, rest) ← blockLines isFolded indent fuel lead empties c.isBlank rest
      some (joint ++ line.map Cell.char ++ chars, lead, empties, rest)
    else some ([], lead, empties, c :: rest)

/-- The text of a block scalar, its indicator passed, in a block of an indentation. -/
def blockScalar (isFolded : Bool) (outer : Option Nat) (cs : List Cell) :
    Option (String × List Cell) := do
  let (tail, step, rest) ← blockHeader cs
  let told := step.map fun n ↦ outer.getD 0 + n
  let (empties, furthest, rest) ← emptyLines told 0 rest
  let least := match outer with
    | some n => n + 1
    | none => 1
  let indent := told.getD (max furthest least)
  let (chars, lead, empties, rest) ←
    blockLines isFolded indent (rest.length + 1) [] empties false rest
  let chars := match tail with
    | .strip => chars
    | .clip => chars ++ lead
    | .keep => chars ++ lead ++ empties
  some (String.ofList chars, rest)

end NetWarden.Yaml
