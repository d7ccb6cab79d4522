import Conduit.Text.Invisible
/-!
# Quoted text

How a text is shown inside a description of a value: between double quotes, with every character
that shows nothing of its own standing as an escape.

## Main definitions

* `Conduit.Text.escape`: the written form of one character.
* `Conduit.Text.quoted`: the written form of a whole text.
-/

namespace Conduit.Text

/-- A number in lower-case hexadecimal, without leading zeros. -/
def hexadecimal (n : Nat) : List Char := Nat.toDigits 16 n

/-- The written form of one character between double quotes. -/
def escape (c : Char) : List Char :=
  if c = '"' then ['\\', '"']
  else if c = '\\' then ['\\', '\\']
  else if c = '\n' then ['\\', 'n']
  else if c = '\r' then ['\\', 'r']
  else if c = '\t' then ['\\', 't']
  else if c = '\x00' then ['\\', '0']
  else if isInvisible c then ['\\', 'u', '\x7b'] ++ hexadecimal c.toNat ++ ['\x7d']
  else [c]

/-- A text between double quotes, each character in its written form. -/
def quoted (s : String) : String :=
  String.ofList (['"'] ++ s.toList.flatMap escape ++ ['"'])

/-- The written form of a truth value. -/
def ofBool (b : Bool) : String := if b then "true" else "false"

/-- The written form of a record: its name, then its fields between braces. -/
def fields (name : String) (entries : List (String × String)) : String :=
  name ++ " \x7b " ++ ", ".intercalate (entries.map fun e => e.1 ++ ": " ++ e.2) ++ " \x7d"

/-- The written form of a record that shows only some of its fields. -/
def someFields (name : String) (entries : List (String × String)) : String :=
  name ++ " \x7b " ++ ", ".intercalate (entries.map fun e => e.1 ++ ": " ++ e.2) ++ ", .. \x7d"

end Conduit.Text
