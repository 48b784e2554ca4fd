import NetWarden.Text.Blank
import NetWarden.Text.HiddenTable

/-!
# Quoted text

How a message shows the name of a file: between double quotes, with what could be mistaken or not be
seen written as an escape. Quotes of both kinds and the backslash take a backslash, the usual
controls their letter, and every other hidden character its code point in hexadecimal.
-/

namespace NetWarden.Text

/-- A number in hexadecimal with lower-case letters and no leading zeros. -/
def hexadecimal (n : Nat) : List Char := Nat.toDigits 16 n

/-- A number in hexadecimal, padded with zeros to a width. -/
def paddedHexadecimal (width n : Nat) : List Char :=
  let shown := hexadecimal n
  List.replicate (width - shown.length) '0' ++ shown

/-- How one character is shown between quotes. -/
def quotedChar (c : Char) : List Char :=
  if c = '\x00' then ['\\', '0']
  else if c = '\t' then ['\\', 't']
  else if c = '\r' then ['\\', 'r']
  else if c = '\n' then ['\\', 'n']
  else if c = '\\' ∨ c = '"' ∨ c = '\'' then ['\\', c]
  else if inRanges hiddenRanges c.toNat then
    ['\\', 'u', '\x7b'] ++ hexadecimal c.toNat ++ ['\x7d']
  else [c]

/-- The text between double quotes, with its escapes. -/
def quoted (s : String) : String :=
  String.ofList ('"' :: s.toList.flatMap quotedChar ++ ['"'])

end NetWarden.Text
