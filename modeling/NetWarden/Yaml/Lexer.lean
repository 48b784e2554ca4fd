import NetWarden.Yaml.Block
import NetWarden.Yaml.Gap
import NetWarden.Yaml.Tag

/-!
# From cells to tokens

The tokens of a text. Two things make the reading depend on more than the next cell.

*The layout.* Outside brackets, a hyphen or a key that stands further to the right than the block
around it opens a block, and a token that stands further to the left closes blocks. `indents` are
the columns of the open blocks, innermost first.

*Keys without a mark.* A key need not be marked: a scalar turns out to be one when a colon follows.
So for each level of brackets the lexer remembers where the last token stood that could be a key, as
a `Candidate`; the colon then puts the mark before it after the fact. A candidate must be followed
by its colon in the same line and within 1024 characters, and one at the column of its block must be
a key, since nothing else may stand there.
-/

namespace NetWarden.Yaml

/-- A token that could turn out to be a key. -/
structure Candidate where
  /-- The number of tokens before it. -/
  position : Nat
  /-- Where it begins. -/
  start : Cell
  /-- Whether it must be a key. -/
  isRequired : Bool
deriving Repr

/-- A text on its way to tokens. -/
structure Lexer where
  /-- What is left of the text. -/
  cells : List Cell
  /-- The tokens so far. -/
  tokens : Array Token
  /-- The columns of the open blocks, innermost first. -/
  indents : List Nat
  /-- Whether a key may begin here. -/
  keyAllowed : Bool
  /-- The candidate of the level outside all brackets or of the innermost brackets. -/
  candidate : Option Candidate
  /-- The candidates of the levels around it, innermost first. -/
  outer : List (Option Candidate)
  /-- Whether the end of the text is reached. -/
  isDone : Bool
deriving Repr

namespace Lexer

/-- The start of a text. -/
def start (cells : List Cell) : Lexer := ⟨cells, #[], [], true, none, [], false⟩

/-- The next cell. -/
def here (l : Lexer) : Cell := l.cells.headD default

/-- Whether the lexer is inside brackets. -/
def inFlow (l : Lexer) : Bool := !l.outer.isEmpty

/-- The lexer after a token that ends before the given cells. -/
def emit (l : Lexer) (t : Token) (rest : List Cell) : Lexer :=
  { l with tokens := l.tokens.push t, cells := rest }

/-! ### Candidates -/

/-- Without the innermost candidate; nothing if that one had to be a key. -/
def dropCandidate (l : Lexer) : Option Lexer :=
  match l.candidate with
  | some c => if c.isRequired then none else some { l with candidate := none }
  | none => some l

/-- With the next token as the innermost candidate, if a key may begin here. -/
def saveCandidate (l : Lexer) : Option Lexer :=
  if l.keyAllowed then do
    let l ← l.dropCandidate
    let isRequired := !l.inFlow && l.indents.head? == some l.here.column
    some { l with candidate := some ⟨l.tokens.size, l.here, isRequired⟩ }
  else some l

/-- A candidate as long as its colon may still follow; nothing if it had to be a key. -/
def fresh? (here : Cell) : Option Candidate → Option (Option Candidate)
  | none => some none
  | some c =>
    if c.start.line < here.line ∨ c.start.index + 1024 < here.index then
      if c.isRequired then none else some none
    else some (some c)

/-- Without the candidates whose colon can no longer follow. -/
def expire (l : Lexer) : Option Lexer := do
  let candidate ← fresh? l.here l.candidate
  let outer ← l.outer.mapM (fresh? l.here)
  some { l with candidate, outer }

/-! ### Layout -/

/-- The lexer with the blocks closed whose column the test refuses. -/
def closeWhile (refused : Nat → Bool) (l : Lexer) : Lexer :=
  if l.inFlow then l
  else
    let closed := (l.indents.takeWhile refused).length
    { l with
      indents := l.indents.drop closed
      tokens := l.tokens ++ (List.replicate closed Token.blockEnd).toArray }

/-- Opens a block at a column if it stands further to the right than the open ones; its first token
goes before the token at a position. -/
def openBlock (l : Lexer) (column position : Nat) (t : Token) : Lexer :=
  let isDeeper := match l.indents.head? with
    | none => true
    | some n => decide (n < column)
  if !l.inFlow && isDeeper then
    { l with
      indents := column :: l.indents
      tokens := l.tokens.insertIdxIfInBounds position t }
  else l

/-- The cells of the next token, what stands between tokens passed over: blanks, comments and line
ends. Outside brackets a line end lets a key begin again, and where one may begin no tab may stand
before it. -/
def skipToToken (inFlow : Bool) : Bool → Bool → List Cell → Bool × List Cell
  | keyAllowed, _, [] => (keyAllowed, [])
  | keyAllowed, inComment, c :: rest =>
    if inComment && !c.endsLine then skipToToken inFlow keyAllowed true rest
    else if c.char = '\uFEFF' ∧ c.column = 0 then skipToToken inFlow keyAllowed false rest
    else if c.char = ' ' ∨ c.char = '\t' ∧ (inFlow ∨ !keyAllowed) then
      skipToToken inFlow keyAllowed false rest
    else if c.char = '#' then skipToToken inFlow keyAllowed true rest
    else if c.isBreak then skipToToken inFlow (keyAllowed || !inFlow) false rest
    else (keyAllowed, c :: rest)

/-! ### Tokens -/

/-- A token of the document's frame, which closes every block and is no key. -/
def frameToken (l : Lexer) (t : Token) (rest : List Cell) : Option Lexer := do
  let l ← (l.closeWhile fun _ ↦ true).dropCandidate
  some ({ l with keyAllowed := false }.emit t rest)

/-- A bracket or brace that opens a level. -/
def openFlow (l : Lexer) (t : Token) (rest : List Cell) : Option Lexer := do
  let l ← l.saveCandidate
  let l := { l with candidate := none, outer := l.candidate :: l.outer, keyAllowed := true }
  some (l.emit t rest)

/-- A bracket or brace that closes a level. -/
def closeFlow (l : Lexer) (t : Token) (rest : List Cell) : Option Lexer := do
  let l ← l.dropCandidate
  let l := match l.outer with
    | [] => l
    | c :: cs => { l with candidate := c, outer := cs }
  some ({ l with keyAllowed := false }.emit t rest)

/-- A comma. -/
def flowEntry (l : Lexer) (rest : List Cell) : Option Lexer := do
  let l ← l.dropCandidate
  some ({ l with keyAllowed := true }.emit .flowEntry rest)

/-- A hyphen before an item. -/
def blockEntry (l : Lexer) (rest : List Cell) : Option Lexer :=
  if !l.inFlow && !l.keyAllowed then none
  else do
    let l ← (l.openBlock l.here.column l.tokens.size .blockSequenceStart).dropCandidate
    some ({ l with keyAllowed := true }.emit .blockEntry rest)

/-- The mark of a key. -/
def keyMark (l : Lexer) (rest : List Cell) : Option Lexer :=
  if !l.inFlow && !l.keyAllowed then none
  else do
    let l ← (l.openBlock l.here.column l.tokens.size .blockMappingStart).dropCandidate
    some ({ l with keyAllowed := !l.inFlow }.emit .key rest)

/-- A colon after a key. -/
def valueMark (l : Lexer) (rest : List Cell) : Option Lexer :=
  match l.candidate with
  | some c =>
    let l := { l with tokens := l.tokens.insertIdxIfInBounds c.position .key, candidate := none }
    let l := l.openBlock c.start.column c.position .blockMappingStart
    some ({ l with keyAllowed := false }.emit .value rest)
  | none =>
    if !l.inFlow && !l.keyAllowed then none
    else
      let l := l.openBlock l.here.column l.tokens.size .blockMappingStart
      some ({ l with keyAllowed := !l.inFlow }.emit .value rest)

/-- A token that could be a key, read by a function that also gives what follows it. -/
def content (l : Lexer) (read : Option (Token × List Cell)) : Option Lexer := do
  let l ← l.saveCandidate
  let (t, rest) ← read
  some ({ l with keyAllowed := false }.emit t rest)

/-- A block scalar, which is no key. -/
def blockContent (l : Lexer) (isFolded : Bool) (rest : List Cell) : Option Lexer := do
  let l ← l.dropCandidate
  let (text, rest) ← blockScalar isFolded l.indents.head? rest
  some ({ l with keyAllowed := true }.emit
    (.scalar text (if isFolded then .folded else .literal)) rest)

/-- A bare scalar. If a line ended after it, a key may begin again. -/
def bareContent (l : Lexer) : Option Lexer := do
  let l ← l.saveCandidate
  let indent := match l.indents.head? with
    | some n => n + 1
    | none => 0
  let b ← bare l.inFlow indent .none l.cells
  some ({ l with keyAllowed := b.endsBroken }.emit (.scalar (String.ofList b.chars) .plain) b.rest)

/-- The characters that begin no bare scalar. -/
def indicators : List Char :=
  ['-', '?', ':', ',', '[', ']', '\x7b', '\x7d', '#', '&', '*', '!', '|', '>', '\'', '"', '%', '@',
   '\x60']

/-- Whether a bare scalar may begin with a cell. -/
def beginsBare (l : Lexer) (c : Cell) (rest : List Cell) : Bool :=
  let next := rest.headD default
  !(c.endsWord || c.isOneOf indicators) || c.char == '-' && !next.isBlank ||
    !l.inFlow && c.isOneOf ['?', ':'] && !next.endsWord

/-- The token that begins with a cell. -/
def token (l : Lexer) (c : Cell) (rest : List Cell) : Option Lexer :=
  let marks := l.inFlow || endsWordAt rest
  if c.isEnd then do
    let l ← (l.closeWhile fun _ ↦ true).dropCandidate
    some { l.emit .streamEnd (c :: rest) with isDone := true }
  else if c.column = 0 ∧ c.char = '%' then do
    let l ← (l.closeWhile fun _ ↦ true).dropCandidate
    let (t, rest) ← directiveAt rest
    some ({ l with keyAllowed := false }.emit t rest)
  else if isDocumentMark '-' (c :: rest) then l.frameToken .documentStart (rest.drop 2)
  else if isDocumentMark '.' (c :: rest) then l.frameToken .documentEnd (rest.drop 2)
  else if c.char = '[' then l.openFlow .flowSequenceStart rest
  else if c.char = '\x7b' then l.openFlow .flowMappingStart rest
  else if c.char = ']' then l.closeFlow .flowSequenceEnd rest
  else if c.char = '\x7d' then l.closeFlow .flowMappingEnd rest
  else if c.char = ',' then l.flowEntry rest
  else if c.char = '-' ∧ endsWordAt rest then l.blockEntry rest
  else if c.char = '?' ∧ marks then l.keyMark rest
  else if c.char = ':' ∧ marks then l.valueMark rest
  else if c.char = '*' then l.content ((nameAt rest).map fun n ↦ (.alias n.1, n.2))
  else if c.char = '&' then l.content ((nameAt rest).map fun n ↦ (.anchor n.1, n.2))
  else if c.char = '!' then l.content ((tagAt l.inFlow (c :: rest)).map fun t ↦ (.tag t.1, t.2))
  else if c.char = '|' ∧ !l.inFlow then l.blockContent false rest
  else if c.char = '>' ∧ !l.inFlow then l.blockContent true rest
  else if c.char = '\'' then
    l.content ((singleQuoted .none rest).map fun s ↦
      (.scalar (String.ofList s.1) .singleQuoted, s.2))
  else if c.char = '"' then
    l.content ((doubleQuoted (rest.length + 1) .none rest).map fun s ↦
      (.scalar (String.ofList s.1) .doubleQuoted, s.2))
  else if l.beginsBare c rest then l.bareContent
  else none

/-- The lexer after the next token. -/
def next (l : Lexer) : Option Lexer := do
  let (keyAllowed, cells) := skipToToken l.inFlow l.keyAllowed false l.cells
  let l ← { l with keyAllowed, cells }.expire
  let column := l.here.column
  let l := l.closeWhile fun n ↦ decide (column < n)
  match l.cells with
  | [] => none
  | c :: rest => l.token c rest

/-- The lexer at the end of the text; every token takes a step. -/
def run : Nat → Lexer → Option Lexer
  | 0, _ => none
  | fuel + 1, l => if l.isDone then some l else do run fuel (← l.next)

end Lexer

/-- The tokens of a text. Every token but the last takes at least one cell. -/
def tokens? (text : String) : Option (List Token) := do
  let cells ← cells? text
  let l ← (Lexer.start cells).run (cells.length + 2)
  some l.tokens.toList

end NetWarden.Yaml
