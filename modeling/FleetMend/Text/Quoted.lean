import FleetMend.Text.Digits
import FleetMend.Text.Invisible

/-!
Text in quotes for a message, so that nothing in it goes unseen.

* `quoted`: the text between double quotes, each character in its written form.
* `escape`: the written form of one character.
-/

namespace FleetMend.Text

/-- A backslash stands before a quote and a backslash; line ends, tabs and the null have short
forms; every other invisible character is written by its number; all else stands for itself. -/
def escape (c : Char) : List Char :=
  if c = '"' then ['\\', '"']
  else if c = '\\' then ['\\', '\\']
  else if c = '\n' then ['\\', 'n']
  else if c = '\r' then ['\\', 'r']
  else if c = '\t' then ['\\', 't']
  else if c = '\x00' then ['\\', '0']
  else if isInvisible c then ['\\', 'u', '\x7b'] ++ Digits.hex c.toNat ++ ['\x7d']
  else [c]

/-- The text between double quotes, each character in its written form. -/
def quoted (s : String) : String :=
  String.ofList ('"' :: s.toList.flatMap escape ++ ['"'])

end FleetMend.Text
