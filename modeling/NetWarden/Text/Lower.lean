import NetWarden.Text.Blank
import NetWarden.Text.CaseTable

/-!
# Lower-case text

The full lower-case form of a text, letter by letter but for one letter: a capital sigma is written
`ς` at the end of a word and `σ` elsewhere. A word ends there if a cased letter stands before it and
none after it, the ignorable characters on either side passed over.
-/

namespace NetWarden.Text

/-- The lower-case form of a letter that stands alone. -/
def lowerChar (c : Char) : List Char :=
  if c.toNat = 0x0130 then ['i', Char.ofNat 0x0307]
  else
    match lowerRanges.find? fun r ↦
        decide (r.1 ≤ c.toNat) && decide (c.toNat ≤ r.2.1) && (c.toNat - r.1) % r.2.2.1 == 0 with
    | some r => [Char.ofNat (Int.toNat (Int.ofNat c.toNat + r.2.2.2))]
    | none => [c]

/-- Whether the first character that case does not ignore has case. -/
def startsCased (cs : List Char) : Bool :=
  match cs.dropWhile fun c ↦ inRanges caseIgnorableRanges c.toNat with
  | [] => false
  | c :: _ => inRanges casedRanges c.toNat

/-- The lower-case form of what follows the characters `before`, which are given last first. -/
def lowerAfter (before : List Char) : List Char → List Char
  | [] => []
  | c :: cs =>
    let here :=
      if c.toNat = 0x03A3 then
        if startsCased before && !startsCased cs then [Char.ofNat 0x03C2] else [Char.ofNat 0x03C3]
      else lowerChar c
    here ++ lowerAfter (c :: before) cs

/-- The lower-case form of a text. -/
def lower (s : String) : String := String.ofList (lowerAfter [] s.toList)

end NetWarden.Text
