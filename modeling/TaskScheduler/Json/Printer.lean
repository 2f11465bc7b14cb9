import TaskScheduler.Json
import TaskScheduler.Binary64.Shortest
import TaskScheduler.Text.Numeral

/-
  JSON texts: one without any blanks, and one with a line for each item, indented by two spaces.
  Fields are written in the order they have; `sorted` puts them in the order of their names.
-/
namespace TaskScheduler.Json

open Text

/-- The four hexadecimal digits of a control character. -/
def controlDigits (n : Nat) : List Char :=
  let ds := Nat.toDigits 16 n
  List.replicate (4 - ds.length) '0' ++ ds

/-- How a character is written inside a JSON string. -/
def escapedChar (c : Char) : List Char :=
  match c with
  | '"' => ['\\', '"']
  | '\\' => ['\\', '\\']
  | '\x08' => ['\\', 'b']
  | '\x0c' => ['\\', 'f']
  | '\n' => ['\\', 'n']
  | '\r' => ['\\', 'r']
  | '\t' => ['\\', 't']
  | c => if c.toNat < 0x20 then ['\\', 'u'] ++ controlDigits c.toNat else [c]

/-- A JSON string. -/
def stringText (s : String) : String :=
  String.ofList ('"' :: s.toList.flatMap escapedChar ++ ['"'])

/-- A positive fraction, given by its digits and the power of ten of the last one: with a point
while its first digit stands less than 17 places before and less than 6 places after the point, and
as a digit with an exponent beyond. -/
def fractionText (n : Nat) (power : Int) : String :=
  let ds := Numeral.digits n
  let point : Int := ds.length + power
  if 0 ≤ power && point ≤ 16 then
    String.ofList (ds ++ List.replicate power.toNat '0') ++ ".0"
  else if 0 < point && point ≤ 16 then
    String.ofList (ds.take point.toNat) ++ "." ++ String.ofList (ds.drop point.toNat)
  else if -5 < point && point ≤ 0 then
    "0." ++ String.ofList (List.replicate (-point).toNat '0' ++ ds)
  else
    let tail := if ds.length == 1 then "" else "." ++ String.ofList (ds.drop 1)
    let sign := if 0 < point then "+" else ""
    String.ofList (ds.take 1) ++ tail ++ "e" ++ sign ++ Numeral.ofInt (point - 1)

/-- A number of 53 significant bits, as the shortest fraction that is read as it. -/
def realText (x : Binary64) : String :=
  let sign := if x.negative then "-" else ""
  if x.mantissa = 0 then sign ++ "0.0"
  else
    let (n, power) := x.shortest
    sign ++ fractionText n power

mutual

/-- The text of a value without any blanks. -/
def compact : Json → String
  | .null => "null"
  | .bool b => if b then "true" else "false"
  | .int i => Numeral.ofInt i
  | .real x => realText x
  | .string s => stringText s
  | .array items => "[" ++ ",".intercalate (compactItems items) ++ "]"
  | .object fields => "\x7b" ++ ",".intercalate (compactFields fields) ++ "\x7d"

def compactItems : List Json → List String
  | [] => []
  | j :: js => compact j :: compactItems js

def compactFields : List (String × Json) → List String
  | [] => []
  | (k, j) :: fs => (stringText k ++ ":" ++ compact j) :: compactFields fs

end

mutual

/-- The same value with the fields of every object in the order of their names. -/
def sorted : Json → Json
  | .array items => .array (sortedItems items)
  | .object fields => .object ((sortedFields fields).mergeSort fun a b => decide (a.1 ≤ b.1))
  | j => j

def sortedItems : List Json → List Json
  | [] => []
  | j :: js => sorted j :: sortedItems js

def sortedFields : List (String × Json) → List (String × Json)
  | [] => []
  | (k, j) :: fs => (k, sorted j) :: sortedFields fs

end

/-- A line break followed by two spaces for each level. -/
def lineBreak (level : Nat) : String := String.ofList ('\n' :: List.replicate (2 * level) ' ')

/-- Items between two brackets, a line each, one level deeper than the brackets. -/
def block (opening closing : String) (level : Nat) (items : List String) : String :=
  if items.isEmpty then opening ++ closing
  else
    let inner := ("," ++ lineBreak (level + 1)).intercalate items
    opening ++ lineBreak (level + 1) ++ inner ++ lineBreak level ++ closing

mutual

/-- The text of a value with its items on lines of their own, starting at a level. -/
def prettyAt (level : Nat) : Json → String
  | .null => "null"
  | .bool b => if b then "true" else "false"
  | .int i => Numeral.ofInt i
  | .real x => realText x
  | .string s => stringText s
  | .array items => block "[" "]" level (prettyItems (level + 1) items)
  | .object fields => block "\x7b" "\x7d" level (prettyFields (level + 1) fields)

def prettyItems (level : Nat) : List Json → List String
  | [] => []
  | j :: js => prettyAt level j :: prettyItems level js

def prettyFields (level : Nat) : List (String × Json) → List String
  | [] => []
  | (k, j) :: fs => (stringText k ++ ": " ++ prettyAt level j) :: prettyFields level fs

end

/-- The text of a value, indented by two spaces a level. -/
def pretty (j : Json) : String := prettyAt 0 j

end TaskScheduler.Json
