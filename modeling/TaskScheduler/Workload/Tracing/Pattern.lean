import TaskScheduler.Text.Blank
import TaskScheduler.Text.Letter
import TaskScheduler.Text.Numeral

/-
  Patterns: the regular expressions that a filter can compare the value of a field with.

  A pattern is only checked here, not kept. No tables of scripts are at hand, so classes that stand
  for characters of every script, and letters without regard to case, can be used for bytes alone;
  and the borders of words of every script are no part of any automaton.
-/
namespace TaskScheduler.Workload.Tracing.Pattern

open Text

/-- Why a pattern cannot be used. -/
inductive Fault where
  | malformed
  /-- It asks for the borders of words of every script. -/
  | wordBorder
deriving DecidableEq, Repr

/-- How the characters of a pattern are to be understood. -/
structure Mode where
  /-- The case of letters does not matter. -/
  caseless : Bool := false
  /-- The text is made of characters, not of bytes. -/
  unicode : Bool := true
  /-- Blanks and comments between the parts mean nothing. -/
  spaced : Bool := false

/-- What a single place in a text is compared with. -/
inductive Atom where
  | literal (c : Char)
  /-- A literal that is written as two hexadecimal digits. -/
  | byte (c : Char)
  | anyChar
  /-- Digits, blanks or word characters, or all others. -/
  | kind (negated : Bool)
  /-- Not a character, but the end of the text. -/
  | anchor
  /-- Not a character, but the border of a word. -/
  | border
deriving DecidableEq, Repr

/-- The character that a literal stands for. -/
def Atom.char? : Atom → Option Char
  | literal c | byte c => some c
  | _ => none

/-- Whether an atom can be used outside of a class. -/
def Atom.isUsable (m : Mode) : Atom → Bool
  | literal _ => !(m.unicode && m.caseless)
  | byte c => if m.unicode then !m.caseless else c.toNat < 0x80
  | anyChar => m.unicode
  | kind negated => !m.unicode && !negated
  | anchor | border => true

/-- Whether an atom can be used in a class. -/
def Atom.isUsableInClass (m : Mode) (a : Atom) : Bool :=
  match a with
  | literal c => a.isUsable m && (m.unicode || c.toNat < 0x80)
  | byte _ | kind _ => a.isUsable m
  | anyChar | anchor | border => false

/-- Leaves out blanks, and comments up to the end of their line. -/
def skipBlanks (inComment : Bool) : List Char → List Char
  | [] => []
  | c :: cs =>
    if inComment then skipBlanks (c != '\n') cs
    else if isBlank c then skipBlanks false cs
    else if c == '#' then skipBlanks true cs
    else c :: cs

/-- Leaves out what means nothing. -/
def Mode.skip (m : Mode) (cs : List Char) : List Char :=
  if m.spaced then skipBlanks false cs else cs

/-! ## Atoms -/

/-- The character with a code point, if there is one. -/
def charOf? (n : Nat) : Option Char :=
  if n < 0xD800 || (0xE000 ≤ n && n < 0x110000) then some (Char.ofNat n) else none

/-- Reads so many hexadecimal digits of a code point, behind those that were read. -/
def readCode (m : Mode) (read : Nat) (cs : List Char) : Nat → Option (Char × List Char)
  | 0 => (charOf? read).map (·, m.skip cs)
  | digits + 1 =>
    match m.skip cs with
    | [] => none
    | c :: rest => (Numeral.hexValue? c).bind fun d => readCode m (read * 16 + d) rest digits

/-- Reads what stands behind a backslash. -/
def readEscape (m : Mode) : List Char → Option (Atom × List Char)
  | [] => none
  | c :: rest =>
    match c with
    | 'x' => (readCode m 0 rest 2).map fun (c, rest) => (.byte c, rest)
    | 'u' => (readCode m 0 rest 4).map fun (c, rest) => (.literal c, rest)
    | 'U' => (readCode m 0 rest 8).map fun (c, rest) => (.literal c, rest)
    | 'd' | 's' | 'w' => some (.kind false, rest)
    | 'D' | 'S' | 'W' => some (.kind true, rest)
    | 'a' => some (.literal '\x07', rest)
    | 't' => some (.literal '\t', rest)
    | 'n' => some (.literal '\n', rest)
    | 'v' => some (.literal '\x0b', rest)
    | 'f' => some (.literal '\x0c', rest)
    | 'r' => some (.literal '\r', rest)
    | 'A' | 'z' => some (.anchor, rest)
    | 'b' | 'B' | '<' | '>' => some (.border, rest)
    | _ => if c.toNat < 0x80 && !c.isAlphanum then some (.literal c, rest) else none

/-- Reads an atom outside of a class. -/
def readAtom (m : Mode) : List Char → Option (Atom × List Char)
  | [] => none
  | '\\' :: rest => readEscape m rest
  | '.' :: rest => some (.anyChar, rest)
  | '^' :: rest | '$' :: rest => some (.anchor, rest)
  | c :: rest => some (.literal c, rest)

/-- Reads an atom in a class. -/
def readClassAtom (m : Mode) : List Char → Option (Atom × List Char)
  | [] => none
  | '\\' :: rest => readEscape m rest
  | c :: rest => some (.literal c, rest)

/-! ## Nesting -/

/-- How deep parts of a pattern may be nested. -/
def depthLimit : Nat := 250

/-- How deep a list of parts is nested; a part by itself is no list. -/
def joined : List Nat → Nat
  | [] => 0
  | [depth] => depth
  | depths => depths.foldl max 0 + 1

/-! ## Classes -/

/-- The names of classes. -/
def classNames : List String := [
  "alnum", "alpha", "ascii", "blank", "cntrl", "digit", "graph", "lower", "print", "punct",
  "space", "upper", "word", "xdigit"]

/-- Reads the caret that negates a class. -/
def readCaret : List Char → Bool × List Char
  | '^' :: rest => (true, rest)
  | cs => (false, cs)

/-- Reads a named class behind its opening bracket; the answer tells whether it is negated. -/
def readNamedClass : List Char → Option (Bool × List Char)
  | ':' :: rest =>
    let (negated, rest) := readCaret rest
    let name := rest.takeWhile (· != ':')
    match rest.drop name.length with
    | ':' :: ']' :: rest =>
      if classNames.contains (String.ofList name) then some (negated, rest) else none
    | _ => none
  | _ => none

/-- A class can be negated only among characters. -/
def Mode.admits (m : Mode) (negated : Bool) : Bool := m.unicode || !negated

/-- Reads a character of a class, or a range between two. -/
def readRange (m : Mode) (cs : List Char) : Option (List Char) :=
  (readClassAtom m cs).bind fun (low, rest) =>
    let single := if low.isUsableInClass m then some (m.skip rest) else none
    match m.skip rest with
    | [] => none
    | '-' :: after =>
      match m.skip after with
      | ']' :: _ | '-' :: _ => single
      | after =>
        (readClassAtom m after).bind fun (high, rest) =>
          match low.char?, high.char? with
          | some a, some b =>
            if a ≤ b && low.isUsableInClass m && high.isUsableInClass m then some rest else none
          | _, _ => none
    | _ => single

/-- How deep a class is nested, from what stands before its last operator and from the items
behind it. -/
def operated (before : Option Nat) (items : List Nat) : Nat :=
  match before with
  | none => joined items
  | some depth => max depth (joined items) + 1

/-- Reads a class up to its closing bracket, and answers how deep it is nested. At its start a dash,
and a bracket that would close an empty class, stand for themselves. -/
def readClass (fuel : Nat) (m : Mode) (atStart : Bool) (before : Option Nat) (items : List Nat)
    (cs : List Char) : Option (Nat × List Char) :=
  match fuel with
  | 0 => none
  | fuel + 1 =>
    match m.skip cs with
    | [] => none
    | c :: rest =>
      if atStart && (c == '-' || (c == ']' && items.isEmpty)) then
        if (Atom.literal c).isUsableInClass m then
          readClass fuel m (c == '-') before (0 :: items) rest
        else none
      else
        match c, rest with
        | ']', _ => some (operated before items + 1, rest)
        | '&', '&' :: rest | '-', '-' :: rest | '~', '~' :: rest =>
          readClass fuel m false (some (operated before items)) [] rest
        | '[', _ =>
          match readNamedClass rest with
          | some (negated, rest) =>
            if m.admits negated && !(m.unicode && m.caseless) then
              readClass fuel m false before (0 :: items) rest
            else none
          | none =>
            let (negated, rest) := readCaret (m.skip rest)
            if m.admits negated then
              match readClass fuel m true none [] rest with
              | some (depth, rest) => readClass fuel m false before (depth :: items) rest
              | none => none
            else none
        | _, _ =>
          match readRange m (c :: rest) with
          | some rest => readClass fuel m false before (0 :: items) rest
          | none => none

/-! ## Groups -/

/-- Switches what a flag stands for. -/
def Mode.switch (m : Mode) (flag : Char) (on : Bool) : Mode :=
  match flag with
  | 'i' => { m with caseless := on }
  | 'u' => { m with unicode := on }
  | 'x' => { m with spaced := on }
  | _ => m

/-- How a group begins. -/
inductive GroupHead where
  /-- The mode changes, and the group is over. -/
  | switch (mode : Mode)
  | group (mode : Mode) (name : Option (List Char))

/-- Reads flags behind those that were read, the last one in front; a dash switches the flags behind
it off. -/
def readFlags (m : Mode) (read : List Char) : List Char → Option (GroupHead × List Char)
  | [] => none
  | c :: rest =>
    if c == ':' || c == ')' then
      if read.head? == some '-' || (read.isEmpty && c == ')') then none
      else some (if c == ')' then .switch m else .group m none, rest)
    else if read.contains c then none
    else if c == '-' || ['i', 'm', 's', 'U', 'u', 'R', 'x'].contains c then
      readFlags (m.switch c (!read.contains '-')) (c :: read) rest
    else none

/-- A name begins with a letter or an underscore. -/
def isName : List Char → Bool
  | [] => false
  | c :: cs =>
    (c == '_' || isLetter c) && cs.all fun c => ['_', '.', '[', ']'].contains c || isWordChar c

/-- Reads the name of a group up to its closing bracket. -/
def readName (m : Mode) (cs : List Char) : Option (GroupHead × List Char) :=
  let name := cs.takeWhile (· != '>')
  match cs.drop name.length with
  | _ :: rest => if isName name then some (.group m (some name), rest) else none
  | [] => none

/-- Reads the beginning of a group behind its opening bracket. -/
def readGroupHead (m : Mode) (cs : List Char) : Option (GroupHead × List Char) :=
  match cs with
  | '?' :: 'P' :: '<' :: rest | '?' :: '<' :: rest => readName m rest
  | '?' :: rest => readFlags m [] rest
  | rest => some (.group m none, rest)

/-! ## Patterns -/

/-- What was met in a pattern. -/
structure Findings where
  /-- The names of the groups. -/
  names : List (List Char) := []
  /-- A border of words of every script was met. -/
  wordBorder : Bool := false

/-- Notes the name of a group, which must be a new one. -/
def Findings.addName (f : Findings) : Option (List Char) → Option Findings
  | none => some f
  | some name => if f.names.contains name then none else some { f with names := name :: f.names }

def Findings.addAtom (f : Findings) (m : Mode) (a : Atom) : Findings :=
  { f with wordBorder := f.wordBorder || (a == .border && m.unicode) }

/-- A sign behind a repetition that makes it stop early. -/
def skipLazy : List Char → List Char
  | '?' :: rest => rest
  | cs => cs

/-- Reads branches up to the end of the pattern or of the group, behind the branches and the items
of the last branch that were read. Each is known by how deep it is nested; a change of the mode is
an item that cannot be repeated. -/
def readBranches (fuel : Nat) (m : Mode) (f : Findings) (branches : List Nat)
    (items : List (Option Nat)) (cs : List Char) : Option (Nat × Findings × List Char) :=
  let branch := joined (items.map (·.getD 0))
  match fuel with
  | 0 => none
  | fuel + 1 =>
    match m.skip cs with
    | [] => some (joined (branch :: branches), f, [])
    | c :: rest =>
      match c with
      | ')' => some (joined (branch :: branches), f, c :: rest)
      | '|' => readBranches fuel m f (branch :: branches) [] rest
      | '*' | '+' | '?' =>
        match items with
        | some depth :: items =>
          readBranches fuel m f branches (some (depth + 1) :: items) (skipLazy rest)
        | _ => none
      | '\x7b' => none
      | '[' =>
        let (negated, rest) := readCaret (m.skip rest)
        if m.admits negated then
          match readClass fuel m true none [] rest with
          | some (depth, rest) => readBranches fuel m f branches (some depth :: items) rest
          | none => none
        else none
      | '(' =>
        match readGroupHead m (m.skip rest) with
        | some (.switch m, rest) => readBranches fuel m f branches (none :: items) rest
        | some (.group inner name, rest) =>
          match f.addName name with
          | some f =>
            match readBranches fuel inner f [] [] rest with
            | some (depth, f, ')' :: rest) =>
              readBranches fuel m f branches (some (depth + 1) :: items) rest
            | _ => none
          | none => none
        | none => none
      | _ =>
        match readAtom m (c :: rest) with
        | some (a, rest) =>
          if a.isUsable m then
            readBranches fuel m (f.addAtom m a) branches (some 0 :: items) rest
          else none
        | none => none

/-- Whether a text is a pattern that can be used. -/
def check (cs : List Char) : Except Fault Unit :=
  match readBranches (cs.length + 1) {} {} [] [] cs with
  | some (depth, f, []) =>
    if depthLimit < depth then .error .malformed
    else if f.wordBorder then .error .wordBorder
    else .ok ()
  | _ => .error .malformed

end TaskScheduler.Workload.Tracing.Pattern
