import NetWarden.Yaml.Lexer

/-!
# YAML documents

The tree of nodes that a row of tokens writes, and the nodes that its aliases stand for. An alias
stays in the tree as a number, because it may stand for a node that it is part of;
`Document.target?` looks the number up.

The numbers follow the names of anchors: a new anchor takes the number of names known so far. A name
that is used again takes a new number in the same way, so a later anchor can take over a number in
use; then every alias with that number stands for the later node.

A document also tells how often reading the whole of it passes through an alias, and how many marks
it has: a document that passes through aliases more than a hundred times as often as it has marks is
refused, before anything is read from it.
-/

namespace NetWarden.Yaml

/-- A node of a document. -/
inductive Node where
  /-- A scalar. -/
  | scalar (text : String) (style : Style) (tag : Option String)
  /-- A node that stands for another one. -/
  | alias (number : Nat)
  /-- A list. -/
  | sequence (tag : Option String) (items : List Node)
  /-- A mapping: its keys with their values, in order. -/
  | mapping (tag : Option String) (entries : List (Node × Node))
deriving Repr, Inhabited

/-- The scalar that stands where nothing is written. -/
def Node.blank : Node := .scalar "" .plain none

/-- A node with an anchor. -/
structure Anchored where
  /-- The number under which aliases find it. -/
  number : Nat
  /-- The number of anchors before it. -/
  order : Nat
  /-- The node, once it is read to its end. -/
  node : Node
  /-- How often reading the node passes through an alias. -/
  steps : Nat
deriving Repr

/-- A document, or nothing but blanks and comments, which has no root. -/
structure Document where
  /-- The outermost node. -/
  root : Option Node
  /-- The nodes with anchors. -/
  anchored : List Anchored
  /-- The number of marks: one for a scalar or an alias, two for a list or a mapping. -/
  marks : Nat
  /-- How often reading the whole document passes through an alias. -/
  steps : Nat
deriving Repr

namespace Document

/-- The node under a number: of several the one whose anchor comes last. -/
def target? (d : Document) (number : Nat) : Option Node :=
  let found := d.anchored.filter fun a ↦ a.number == number
  let last := found.foldl (fun (best : Option Anchored) a ↦
    match best with
    | some b => if b.order < a.order then some a else best
    | none => some a) none
  last.map Anchored.node

/-! ### Reading tokens -/

/-- A document on its way from tokens. -/
structure Progress where
  /-- The tokens that are left. -/
  tokens : List Token
  /-- What handles stand for. -/
  handles : List (String × String)
  /-- The names of anchors with their numbers, the latest first. -/
  names : List (String × Nat)
  /-- The anchored nodes read to their end. -/
  anchored : List Anchored
  /-- The number of anchors so far. -/
  anchors : Nat
  /-- The marks so far. -/
  marks : Nat
  /-- The passes through aliases so far. -/
  steps : Nat

/-- A step that takes tokens and may fail. -/
abbrev Reading := StateT Progress Option

/-- The next token. -/
def peek : Reading Token := do
  return (← get).tokens.headD .streamEnd

/-- Passes the next token. -/
def skip : Reading Unit := modify fun p ↦ { p with tokens := p.tokens.drop 1 }

/-- Counts marks. -/
def mark (n : Nat) : Reading Unit := modify fun p ↦ { p with marks := p.marks + n }

/-- The number of distinct names. -/
def distinctNames (names : List (String × Nat)) : Nat := (names.map Prod.fst).eraseDups.length

/-- A number for an anchor. -/
def newNumber (name : String) : Reading Nat := do
  let p ← get
  let number := distinctNames p.names
  set { p with names := (name, number) :: p.names, anchors := p.anchors + 1 }
  return number

/-- The node that an alias stands for, which must have been begun. -/
def aliasNode (name : String) : Reading Node := do
  let p ← get
  match p.names.lookup name with
  | none => failure
  | some number =>
    let steps := match p.anchored.find? fun a ↦ a.number == number with
      | some a => a.steps + 1
      | none => 1
    set { p with marks := p.marks + 1, steps := p.steps + steps }
    return .alias number

/-- The whole of a tag: the handle replaced by what it stands for. -/
def wholeTag (t : WrittenTag) : Reading String := do
  if t.handle.isEmpty then return t.suffix
  else
    match (← get).handles.lookup t.handle with
    | some standsFor => return standsFor ++ t.suffix
    | none => failure

/-- The anchor and the tag before a node, in either order. -/
def properties : Reading (Option String × Option String) := do
  match ← peek with
  | .anchor name =>
    skip
    match ← peek with
    | .tag t =>
      skip
      return (some name, some (← wholeTag t))
    | _ => return (some name, none)
  | .tag t =>
    skip
    match ← peek with
    | .anchor name =>
      skip
      return (some name, some (← wholeTag t))
    | _ => return (none, some (← wholeTag t))
  | _ => return (none, none)

/-- A blank where a node could stand. -/
def blankNode : Reading Node := do
  mark 1
  return .blank

/-- A tag that says something: a lone exclamation mark before a scalar says nothing. -/
def tagOfScalar (tag : Option String) : Option String := tag.filter fun t ↦ t != "!"

mutual

/-- A node. Block lists and mappings may begin only where a block may, and a list whose hyphens
stand at the column of the key before only as the value of that key. -/
def node : Nat → Bool → Bool → Reading Node
  | 0, _, _ => failure
  | fuel + 1, isBlock, isIndentless => do
    match ← peek with
    | .alias name =>
      skip
      aliasNode name
    | _ =>
      let (anchor, tag) ← properties
      let before := (← get).anchors
      let number ← match anchor with
        | some name => some <$> newNumber name
        | none => pure none
      let steps := (← get).steps
      let found ← content fuel isBlock isIndentless (anchor.isSome || tag.isSome) tag
      match number with
      | some number =>
        modify fun p ↦
          { p with anchored := ⟨number, before, found, p.steps - steps⟩ :: p.anchored }
      | none => pure ()
      return found

/-- A node after its anchor and its tag. -/
def content : Nat → Bool → Bool → Bool → Option String → Reading Node
  | 0, _, _, _, _ => failure
  | fuel + 1, isBlock, isIndentless, hasProperties, tag => do
    match ← peek with
    | .blockEntry =>
      if isIndentless then
        mark 2
        return .sequence tag (← indentlessItems fuel)
      else blankContent hasProperties tag
    | .scalar text style =>
      skip
      mark 1
      return .scalar text style (tagOfScalar tag)
    | .flowSequenceStart =>
      skip
      mark 2
      return .sequence tag (← flowItems fuel true)
    | .flowMappingStart =>
      skip
      mark 2
      return .mapping tag (← flowEntries fuel true)
    | .blockSequenceStart =>
      if isBlock then
        skip
        mark 2
        return .sequence tag (← blockItems fuel)
      else blankContent hasProperties tag
    | .blockMappingStart =>
      if isBlock then
        skip
        mark 2
        return .mapping tag (← blockEntries fuel)
      else blankContent hasProperties tag
    | _ => blankContent hasProperties tag

/-- A node of which only an anchor or a tag is written. -/
def blankContent (hasProperties : Bool) (tag : Option String) : Reading Node := do
  if hasProperties then
    mark 1
    return .scalar "" .plain tag
  else failure

/-- The items of a list up to the end of its block. -/
def blockItems : Nat → Reading (List Node)
  | 0 => failure
  | fuel + 1 => do
    match ← peek with
    | .blockEntry =>
      skip
      let item ← match ← peek with
        | .blockEntry | .blockEnd => blankNode
        | _ => node fuel true false
      return item :: (← blockItems fuel)
    | .blockEnd =>
      skip
      return []
    | _ => failure

/-- The items of a list at the column of the key before it. -/
def indentlessItems : Nat → Reading (List Node)
  | 0 => failure
  | fuel + 1 => do
    match ← peek with
    | .blockEntry =>
      skip
      let item ← match ← peek with
        | .blockEntry | .key | .value | .blockEnd => blankNode
        | _ => node fuel true false
      return item :: (← indentlessItems fuel)
    | _ => return []

/-- The entries of a mapping up to the end of its block. -/
def blockEntries : Nat → Reading (List (Node × Node))
  | 0 => failure
  | fuel + 1 => do
    match ← peek with
    | .key =>
      skip
      let key ← match ← peek with
        | .key | .value | .blockEnd => blankNode
        | _ => node fuel true true
      let value ← blockValue fuel
      return (key, value) :: (← blockEntries fuel)
    | .blockEnd =>
      skip
      return []
    | _ => failure

/-- The value of an entry in a block, which may be missing. -/
def blockValue : Nat → Reading Node
  | 0 => failure
  | fuel + 1 => do
    match ← peek with
    | .value =>
      skip
      match ← peek with
      | .key | .value | .blockEnd => blankNode
      | _ => node fuel true true
    | _ => blankNode

/-- The items of a list up to its bracket. A key among them makes a mapping of one entry. -/
def flowItems : Nat → Bool → Reading (List Node)
  | 0, _ => failure
  | fuel + 1, isFirst => do
    match ← peek with
    | .flowSequenceEnd =>
      skip
      return []
    | t =>
      unless isFirst do
        if t = .flowEntry then skip else failure
      match ← peek with
      | .key =>
        skip
        mark 2
        let key ← match ← peek with
          | .value | .flowEntry | .flowSequenceEnd =>
            skip
            blankNode
          | _ => node fuel false false
        let value ← flowItemValue fuel
        return .mapping none [(key, value)] :: (← flowItems fuel false)
      | .flowSequenceEnd =>
        skip
        return []
      | _ =>
        let item ← node fuel false false
        return item :: (← flowItems fuel false)

/-- The value of an entry that stands among the items of a list. -/
def flowItemValue : Nat → Reading Node
  | 0 => failure
  | fuel + 1 => do
    match ← peek with
    | .value =>
      skip
      match ← peek with
      | .flowEntry | .flowSequenceEnd => blankNode
      | _ => node fuel false false
    | _ => blankNode

/-- The entries of a mapping up to its brace. A node that is no key has no value. -/
def flowEntries : Nat → Bool → Reading (List (Node × Node))
  | 0, _ => failure
  | fuel + 1, isFirst => do
    match ← peek with
    | .flowMappingEnd =>
      skip
      return []
    | t =>
      unless isFirst do
        if t = .flowEntry then skip else failure
      match ← peek with
      | .key =>
        skip
        let key ← match ← peek with
          | .value | .flowEntry | .flowMappingEnd => blankNode
          | _ => node fuel false false
        let value ← flowValue fuel
        return (key, value) :: (← flowEntries fuel false)
      | .flowMappingEnd =>
        skip
        return []
      | _ =>
        let key ← node fuel false false
        let value ← blankNode
        return (key, value) :: (← flowEntries fuel false)

/-- The value of an entry inside braces, which may be missing. -/
def flowValue : Nat → Reading Node
  | 0 => failure
  | fuel + 1 => do
    match ← peek with
    | .value =>
      skip
      match ← peek with
      | .flowEntry | .flowMappingEnd => blankNode
      | _ => node fuel false false
    | _ => blankNode

end

/-- The meanings of handles that hold without a directive. -/
def defaultHandles : List (String × String) := [("!", "!"), ("!!", "tag:yaml.org,2002:")]

/-- The directives before a document: one version at most, 1.1 or 1.2, and one meaning for a handle.
-/
def directives : Nat → Bool → Reading Unit
  | 0, _ => failure
  | fuel + 1, hasVersion => do
    match ← peek with
    | .version major minor =>
      if hasVersion || major != 1 || (minor != 1 && minor != 2) then failure
      else
        skip
        directives fuel true
    | .handle name standsFor =>
      let p ← get
      if (p.handles.lookup name).isSome then failure
      else
        set { p with handles := (name, standsFor) :: p.handles }
        skip
        directives fuel hasVersion
    | _ => pure ()

/-- Passes the marks after a document. -/
def skipEnds : Nat → Reading Unit
  | 0 => failure
  | fuel + 1 => do
    match ← peek with
    | .documentEnd =>
      skip
      skipEnds fuel
    | _ => pure ()

/-- The root of a text's only document. -/
def rootNode (fuel : Nat) : Reading (Option Node) := do
  let withHandles : Reading Unit :=
    modify fun p ↦ { p with handles := p.handles ++ defaultHandles }
  match ← peek with
  | .streamEnd => return none
  | .version .. | .handle .. | .documentStart =>
    directives fuel false
    withHandles
    if (← peek) = .documentStart then skip else failure
    let root ← match ← peek with
      | .version .. | .handle .. | .documentStart | .documentEnd | .streamEnd => blankNode
      | _ => node fuel true false
    return some root
  | _ =>
    withHandles
    return some (← node fuel true false)

/-- The only document of a row of tokens; nothing if there is a second one. -/
def ofTokens? (tokens : List Token) : Option Document := do
  let fuel := 4 * tokens.length + 8
  let whole : Reading (Option Node) := do
    let root ← rootNode fuel
    if root.isSome then skipEnds fuel
    if (← peek) = .streamEnd then return root else failure
  let (root, p) ← whole.run ⟨tokens, [], [], [], 0, 0, 0⟩
  if p.steps ≤ 100 * p.marks then some ⟨root, p.anchored, p.marks, p.steps⟩ else none

/-- The document of a text. -/
def read? (text : String) : Option Document := do ofTokens? (← tokens? text)

end Document

end NetWarden.Yaml
