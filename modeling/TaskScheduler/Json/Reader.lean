import TaskScheduler.Json
import TaskScheduler.Text.Numeral

/-
  Reading JSON texts.

  Every function takes the characters that are left and gives those that it leaves. A whole number
  that fits into 64 bits is kept as it is. Of any other number the leading digits that fit into 64
  bits are read as a number of 53 significant bits, which is then scaled by a power of ten.
-/
namespace TaskScheduler.Json

open Text

/-- What was read, and the characters that follow; `none` if the text is no JSON. -/
abbrev Reading (α : Type) := Option (α × List Char)

/-- A blank between the parts of a JSON text. -/
def isSpace (c : Char) : Bool := c == ' ' || c == '\n' || c == '\t' || c == '\r'

def skipSpace (cs : List Char) : List Char := cs.dropWhile isSpace

/-! ## Numbers -/

/-- Appends digits to a number for as long as it fits into 64 bits, and gives those left over. -/
def collectDigits (acc : Nat) : List Char → Nat × List Char
  | [] => (acc, [])
  | c :: cs =>
    let longer := acc * 10 + Numeral.digitValue c
    if longer < wordBound then collectDigits longer cs else (acc, c :: cs)

/-- The parts of a written number. -/
structure Written where
  negative : Bool
  whole : List Char
  /-- The digits behind the point, if there is one. -/
  fraction : Option (List Char)
  /-- The power of ten behind the letter `e`, if there is one. -/
  power : Option Int

/-- The value of a written number, if it is not too large. -/
def Written.value? (w : Written) : Option Json :=
  let (whole, dropped) := collectDigits 0 w.whole
  let isWhole := w.fraction.isNone && w.power.isNone && dropped.isEmpty
  if isWhole && !w.negative then some (.int whole)
  else if isWhole && 0 < whole && whole ≤ wordBound / 2 then some (.int (-whole))
  else
    let digits := w.fraction.getD []
    let (significand, ignored) := collectDigits whole digits
    let power := w.power.getD 0 + dropped.length - (digits.length - ignored.length)
    ((Binary64.ofRatio? significand 1).bind (·.timesPowerOfTen? power)).map fun x =>
      .real { x with negative := w.negative }

/-- One or more digits. -/
def readDigits (cs : List Char) : Reading (List Char) :=
  match cs.span Char.isDigit with
  | ([], _) => none
  | (digits, rest) => some (digits, rest)

/-- The digits before the point; a zero stands alone. -/
def readWhole : List Char → Reading (List Char)
  | '0' :: rest => if (rest.head?.all (!·.isDigit)) then some (['0'], rest) else none
  | cs => readDigits cs

def readFraction : List Char → Reading (Option (List Char))
  | '.' :: rest => (readDigits rest).map fun (digits, rest) => (some digits, rest)
  | cs => some (none, cs)

/-- A power of ten behind its sign. -/
def readPower (sign : Int) (cs : List Char) : Reading (Option Int) :=
  (readDigits cs).map fun (digits, rest) =>
    (some (sign * ((Numeral.ofDigits? 0 digits).getD 0 : Nat)), rest)

def readExponent : List Char → Reading (Option Int)
  | c :: rest =>
    if c == 'e' || c == 'E' then
      match rest with
      | '+' :: rest => readPower 1 rest
      | '-' :: rest => readPower (-1) rest
      | rest => readPower 1 rest
    else some (none, c :: rest)
  | [] => some (none, [])

/-- A sign before a number. -/
def readSign : List Char → Bool × List Char
  | '-' :: rest => (true, rest)
  | cs => (false, cs)

def readNumber (cs : List Char) : Reading Json :=
  let (negative, cs) := readSign cs
  (readWhole cs).bind fun (whole, cs) =>
  (readFraction cs).bind fun (fraction, cs) =>
  (readExponent cs).bind fun (power, cs) =>
  (Written.value? { negative, whole, fraction, power }).map (·, cs)

/-! ## Strings -/

/-- The number that four hexadecimal digits stand for. -/
def hexQuad? (a b c d : Char) : Option Nat := do
  let high := (← Numeral.hexValue? a) * 16 + (← Numeral.hexValue? b)
  return high * 256 + (← Numeral.hexValue? c) * 16 + (← Numeral.hexValue? d)

/-- The character behind a backslash, for the short escapes. -/
def shortEscape? : Char → Option Char
  | '"' => some '"'
  | '\\' => some '\\'
  | '/' => some '/'
  | 'b' => some '\x08'
  | 'f' => some '\x0c'
  | 'n' => some '\n'
  | 'r' => some '\r'
  | 't' => some '\t'
  | _ => none

/-- The rest of a string behind its opening quote; `read` holds what was read of it, the last
character first. -/
def readString (read : List Char) : List Char → Reading String
  | [] => none
  | '"' :: rest => some (String.ofList read.reverse, rest)
  | '\\' :: 'u' :: a :: b :: c :: d :: rest =>
    match hexQuad? a b c d with
    | none => none
    | some n =>
      if 0xD800 ≤ n && n < 0xDC00 then
        match rest with
        | '\\' :: 'u' :: e :: f :: g :: h :: rest =>
          match hexQuad? e f g h with
          | none => none
          | some m =>
            if 0xDC00 ≤ m && m < 0xE000 then
              readString (Char.ofNat (0x10000 + (n - 0xD800) * 0x400 + (m - 0xDC00)) :: read) rest
            else none
        | _ => none
      else if 0xDC00 ≤ n && n < 0xE000 then none
      else readString (Char.ofNat n :: read) rest
  | '\\' :: c :: rest =>
    match shortEscape? c with
    | some c => readString (c :: read) rest
    | none => none
  | c :: rest => if c.toNat < 0x20 then none else readString (c :: read) rest

/-! ## Values -/

/-- Sets a field of an object; one of the same name gives way. -/
def setField (name : String) (value : Json) (fields : List (String × Json)) :
    List (String × Json) :=
  fields.filter (·.1 != name) ++ [(name, value)]

mutual

/-- A value, and the blanks before it. -/
def readValue (fuel : Nat) (cs : List Char) : Reading Json :=
  match fuel with
  | 0 => none
  | fuel + 1 =>
    match skipSpace cs with
    | 'n' :: 'u' :: 'l' :: 'l' :: rest => some (.null, rest)
    | 't' :: 'r' :: 'u' :: 'e' :: rest => some (.bool true, rest)
    | 'f' :: 'a' :: 'l' :: 's' :: 'e' :: rest => some (.bool false, rest)
    | '"' :: rest => (readString [] rest).map fun (s, rest) => (.string s, rest)
    | '[' :: rest =>
      match skipSpace rest with
      | ']' :: rest => some (.array [], rest)
      | rest => readItems fuel [] rest
    | '\x7b' :: rest =>
      match skipSpace rest with
      | '\x7d' :: rest => some (.object [], rest)
      | rest => readFields fuel [] rest
    | rest => readNumber rest

/-- The items of an array up to its closing bracket, behind those that were read. -/
def readItems (fuel : Nat) (read : List Json) (cs : List Char) : Reading Json :=
  match fuel with
  | 0 => none
  | fuel + 1 =>
    match readValue fuel cs with
    | none => none
    | some (item, rest) =>
      match skipSpace rest with
      | ',' :: rest => readItems fuel (item :: read) rest
      | ']' :: rest => some (.array (item :: read).reverse, rest)
      | _ => none

/-- The fields of an object up to its closing brace, behind those that were read. -/
def readFields (fuel : Nat) (read : List (String × Json)) (cs : List Char) : Reading Json :=
  match fuel with
  | 0 => none
  | fuel + 1 =>
    match skipSpace cs with
    | '"' :: rest =>
      match readString [] rest with
      | none => none
      | some (name, rest) =>
        match skipSpace rest with
        | ':' :: rest =>
          match readValue fuel rest with
          | none => none
          | some (value, rest) =>
            let read := setField name value read
            match skipSpace rest with
            | ',' :: rest => readFields fuel read rest
            | '\x7d' :: rest => some (.object read, rest)
            | _ => none
        | _ => none
    | _ => none

end

/-- The value that a whole text stands for. -/
def parse? (s : String) : Option Json :=
  let cs := s.toList
  match readValue (cs.length + 1) cs with
  | some (j, rest) => if (skipSpace rest).isEmpty then some j else none
  | none => none

end TaskScheduler.Json
