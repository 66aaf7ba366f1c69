import FleetMend.Json.Value
import FleetMend.Text.Digits

/-!
JSON values to text, without blanks.

* `Json.write`: the text.
-/

namespace FleetMend.Json

/-- A character of a text in quotes. -/
def writeChar (c : Char) : List Char :=
  if c = '"' then ['\\', '"']
  else if c = '\\' then ['\\', '\\']
  else if c.toNat < 0x20 then ['\\', 'u'] ++ List.replicate (4 - (Digits.hex c.toNat).length) '0' ++
    Digits.hex c.toNat
  else [c]

def writeString (s : String) : String :=
  String.ofList ('"' :: s.toList.flatMap writeChar ++ ['"'])

mutual

/-- The text of a value. -/
def write : Json → String
  | null => "null"
  | bool b => if b then "true" else "false"
  | int n => String.ofList (Digits.ofInt n)
  | real x => (x.text?.map String.ofList).getD "null"
  | str s => writeString s
  | arr items => "[" ++ ",".intercalate (writeAll items) ++ "]"
  | obj fields => "\x7b" ++ ",".intercalate (writeFields fields) ++ "\x7d"

def writeAll : List Json → List String
  | [] => []
  | j :: rest => write j :: writeAll rest

def writeFields : List (String × Json) → List String
  | [] => []
  | (k, j) :: rest => (writeString k ++ ":" ++ write j) :: writeFields rest

end

end FleetMend.Json
