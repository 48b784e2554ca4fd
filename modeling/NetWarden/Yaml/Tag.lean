import NetWarden.Text.Numeral
import NetWarden.Yaml.Cell
import NetWarden.Yaml.Token

/-!
# Names, tags and directives

The names of anchors and aliases, the tags of nodes, and the lines at the start of a document that
state a version or give a meaning to a handle. A tag is written with a handle that stands for its
beginning (`!!int`), in full between angle brackets, or as a word after one exclamation mark.
-/

namespace NetWarden.Yaml

/-- The letters, digits, hyphens and underscores at the start of the cells. -/
def wordAt (cs : List Cell) : List Char × List Cell :=
  ((cs.takeWhile Cell.isWordChar).map Cell.char, cs.dropWhile Cell.isWordChar)

/-- The name of an anchor or an alias, its indicator passed. What may follow a name is limited. -/
def nameAt (cs : List Cell) : Option (String × List Cell) :=
  let (name, rest) := wordAt cs
  let ended := match rest with
    | [] => true
    | c :: _ => c.endsWord || c.isOneOf ['?', ':', ',', ']', '\x7d', '%', '@', '\x60']
  if name.isEmpty || !ended then none else some (String.ofList name, rest)

/-! ### Tags -/

/-- The byte that two digits in base sixteen write after a percent sign. -/
def escapedByte : List Cell → Option (Nat × List Cell)
  | p :: a :: b :: rest => do
    if p.char = '%' then
      let a ← Text.digitValue? a.char
      let b ← Text.digitValue? b.char
      some (a * 16 + b, rest)
    else none
  | _ => none

/-- The number of bytes of a character in UTF-8 and the bits that the first of them gives. -/
def leadByte? (n : Nat) : Option (Nat × Nat) :=
  if n < 0x80 then some (1, n)
  else if n / 0x20 = 6 then some (2, n % 0x20)
  else if n / 0x10 = 14 then some (3, n % 0x10)
  else if n / 0x08 = 30 then some (4, n % 0x08)
  else none

/-- The bits of the bytes that continue a character, all written after percent signs. -/
def continuedBytes : Nat → Nat → List Cell → Option (Nat × List Cell)
  | 0, bits, cs => some (bits, cs)
  | count + 1, bits, cs => do
    let (n, rest) ← escapedByte cs
    if n / 0x40 = 2 then continuedBytes count (bits * 0x40 + n % 0x40) rest else none

/-- A character of a tag that is written by its bytes. -/
def escapedChar (cs : List Cell) : Option (Char × List Cell) := do
  let (n, rest) ← escapedByte cs
  let (count, bits) ← leadByte? n
  let (code, rest) ← continuedBytes (count - 1) bits rest
  some (Char.ofNat code, rest)

/-- The punctuation that a tag may hold; between angle brackets it may hold more. -/
def tagPunctuation (isFull : Bool) : List Char :=
  [';', '/', '?', ':', '@', '&', '=', '+', '$', '.', '!', '~', '*', '\'', '(', ')'] ++
    (if isFull then [',', '[', ']'] else [])

/-- The characters of a tag. -/
def tagChars (isFull : Bool) : Nat → List Cell → Option (List Char × List Cell)
  | 0, _ => none
  | _ + 1, [] => some ([], [])
  | fuel + 1, c :: rest =>
    if c.char = '%' then do
      let (d, rest) ← escapedChar (c :: rest)
      let (ds, rest) ← tagChars isFull fuel rest
      some (d :: ds, rest)
    else if c.isWordChar || c.isOneOf (tagPunctuation isFull) then do
      let (ds, rest) ← tagChars isFull fuel rest
      some (c.char :: ds, rest)
    else some ([], c :: rest)

/-- A handle: an exclamation mark, a word, and a second mark if there is one. -/
def handleAt : List Cell → Option (List Char × List Cell)
  | c :: rest =>
    if c.char = '!' then
      match wordAt rest with
      | (word, d :: after) =>
        if d.char = '!' then some ('!' :: word ++ ['!'], after) else some ('!' :: word, d :: after)
      | (word, []) => some ('!' :: word, [])
    else none
  | [] => none

/-- Whether a handle has a mark at either end. -/
def isClosedHandle (handle : List Char) : Bool :=
  decide (1 < handle.length) && handle.getLast? == some '!'

/-- The tag at the start of the cells, which its exclamation mark begins. -/
def tagAt (inFlow : Bool) (cs : List Cell) : Option (WrittenTag × List Cell) := do
  let (tag, rest) ← match cs with
    | a :: b :: rest =>
      if b.char = '<' then do
        let (chars, rest) ← tagChars true (rest.length + 1) rest
        match rest with
        | c :: rest =>
          if c.char = '>' ∧ chars ≠ [] then some (⟨"", String.ofList chars⟩, rest) else none
        | [] => none
      else do
        let (handle, after) ← handleAt (a :: b :: rest)
        let (chars, after) ← tagChars false (after.length + 1) after
        if isClosedHandle handle then
          if chars.isEmpty then none
          else some (⟨String.ofList handle, String.ofList chars⟩, after)
        else
          let suffix := handle.drop 1 ++ chars
          if suffix.isEmpty then some (WrittenTag.mk "" "!", after)
          else some (⟨"!", String.ofList suffix⟩, after)
    | _ => none
  let ended := match rest with
    | [] => true
    | c :: _ => c.endsWord || inFlow && c.char == ','
  if ended then some (tag, rest) else none

/-! ### Directives -/

/-- A number of a version, of at most nine digits. -/
def versionNumber (cs : List Cell) : Option (Nat × List Cell) := do
  let ds := (cs.takeWhile isVersionDigit).map Cell.char
  let n ← Text.number? 10 ds
  if ds.length ≤ 9 then some (n, cs.dropWhile isVersionDigit) else none
where
  /-- A digit of a version. -/
  isVersionDigit (c : Cell) : Bool := c.char.isDigit

/-- The version that a directive states. -/
def versionAt (cs : List Cell) : Option (Token × List Cell) := do
  let (major, rest) ← versionNumber (skipBlanks cs)
  match rest with
  | c :: rest =>
    if c.char = '.' then
      let (minor, rest) ← versionNumber rest
      some (.version major minor, rest)
    else none
  | [] => none

/-- The handle and its meaning that a directive states. -/
def handleMeaningAt (cs : List Cell) : Option (Token × List Cell) := do
  let (handle, rest) ← handleAt (skipBlanks cs)
  let parted := match rest with
    | c :: _ => c.isBlank
    | [] => false
  if (isClosedHandle handle || handle == ['!']) && parted then
    let rest := skipBlanks rest
    let (chars, rest) ← tagChars true (rest.length + 1) rest
    if chars.isEmpty || !endsWordAt rest then none
    else some (.handle (String.ofList handle) (String.ofList chars), rest)
  else none

/-- The directive of a line, its percent sign passed. -/
def directiveAt (cs : List Cell) : Option (Token × List Cell) := do
  let (name, rest) := wordAt cs
  if !endsWordAt rest then none
  else
    let (token, rest) ←
      if name = ['Y', 'A', 'M', 'L'] then versionAt rest
      else if name = ['T', 'A', 'G'] then handleMeaningAt rest
      else none
    some (token, ← restOfLine? rest)

end NetWarden.Yaml
