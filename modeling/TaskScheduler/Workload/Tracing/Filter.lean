import TaskScheduler.Log
import TaskScheduler.Workload.Tracing.Pattern
import TaskScheduler.Text.Quoted

/-
  The log filters of the machine that workloads run on: a list of directives between commas, each of
  which lets events of a target pass up to a level, as in `info` or `warn,gg_scheduler=debug`.

  A directive is a level, a target, or a target with a level behind `=`. Between the two a pair of
  brackets may name a span, and in braces a field; a directive with a span, or with a value for its
  field, says nothing about events outside spans.
-/
namespace TaskScheduler.Workload.Tracing

open Text

/-- What is wrong with a filter. -/
inductive FilterError where
  | level
  | directive
  | field (fault : Pattern.Fault)
  /-- A part of a directive would begin or end at a position inside of a character, which itself
  begins at another position. -/
  | split (atEnd : Bool) (position : Nat) (c : Char) (start : Nat)
deriving DecidableEq, Repr

/-- The fault of a pattern in words. -/
def Pattern.Fault.text : Pattern.Fault → String
  | malformed => "error building NFA"
  | wordBorder => "unsupported regex feature for DFAs: cannot build DFAs for regexes with " ++
      "Unicode word boundaries; switch to ASCII word boundaries, or heuristically enable " ++
      "Unicode word boundaries or use a different regex engine"

/-- The error in words. -/
def FilterError.text : FilterError → String
  | level => "error parsing level filter: expected one of \"off\", \"error\", \"warn\", " ++
      "\"info\", \"debug\", \"trace\", or a number 0-5"
  | directive => "invalid filter directive"
  | field fault => "invalid field filter: " ++ fault.text
  | split atEnd position c start =>
    (if atEnd then "end" else "start") ++ " byte index " ++ Numeral.ofNat position ++
      " is not a char boundary; it is inside '" ++ String.ofList (quotedChar c) ++ "' (bytes " ++
      Numeral.ofNat start ++ ".." ++ Numeral.ofNat (start + c.utf8Size) ++ " of string)"

/-- What comes of a filter that cannot be used. -/
def FilterError.toLogError (e : FilterError) : LogError :=
  match e with
  | split .. => .panicked e.text
  | _ => .invalidFilter e.text

/-- The rank up to which events pass, read from a number or a word; `0` lets none pass. -/
def threshold? (s : String) : Option Nat :=
  match Numeral.parseBelow? 6 s with
  | some n => some n
  | none =>
    match toLowerAscii s with
    | "" | "error" => some 1
    | "warn" => some 2
    | "info" => some 3
    | "debug" => some 4
    | "trace" => some 5
    | "off" => some 0
    | _ => none

/-- A field that an event is to have, perhaps with a value to compare it with. -/
structure FieldMatch where
  name : String
  hasValue : Bool
deriving DecidableEq, Repr

/-- Lets events pass up to a level: those of a target and with a field, where one is given. -/
structure Directive where
  target : Option String := none
  span : Option String := none
  field : Option FieldMatch := none
  threshold : Nat := 5
deriving DecidableEq, Repr

/-! ## Parts of a directive

The positions of the signs in a directive are counted from its first character that is not blank,
but the parts are cut out by these positions from the directive with the blanks before it. -/

/-- The text behind a number of bytes, or the character that it would begin in. -/
def dropBytes (bytes passed : Nat) : List Char → Except (Char × Nat) (List Char)
  | [] => .ok []
  | c :: cs =>
    if bytes = 0 then .ok (c :: cs)
    else if c.utf8Size ≤ bytes then dropBytes (bytes - c.utf8Size) (passed + c.utf8Size) cs
    else .error (c, passed)

/-- The text from a position on. -/
def cutFrom (source : List Char) (start : Nat) : Except FilterError String :=
  match dropBytes start 0 source with
  | .ok rest => .ok (String.ofList rest)
  | .error (c, first) => .error (.split false start c first)

/-- The text between two positions. -/
def cut (source : List Char) (start stop : Nat) : Except FilterError String :=
  match dropBytes start 0 source with
  | .error (c, first) => .error (.split false start c first)
  | .ok rest =>
    match dropBytes stop 0 source with
    | .error (c, first) => .error (.split true stop c first)
    | .ok after => .ok (String.ofList (rest.take (rest.length - after.length)))

/-- The first sign of a kind with its position, and what stands behind it. -/
def scan (isSign : Char → Bool) (position : Nat) : List Char → Option (Nat × Char × List Char)
  | [] => none
  | c :: cs =>
    if isSign c then some (position, c, cs) else scan isSign (position + c.utf8Size) cs

/-! ## Reading -/

/-- A character that a target can begin with. -/
def startsTarget (c : Char) : Bool := isWordChar c || c == '-' || c == ':' || c == '_'

/-- What a directive without signs says: a level, or a target that is let pass altogether. -/
def levelOrTarget (s : String) : Directive :=
  match threshold? s with
  | some threshold => { threshold }
  | none => { target := some s }

/-- The rank behind an equals sign, where nothing lets all events pass. -/
def readThreshold (source : List Char) (start : Nat) : Except FilterError Nat := do
  let word ← cutFrom source start
  if word = "" then return 5
  match threshold? word with
  | some threshold => return threshold
  | none => throw .level

/-- What is behind the bracket that closes a span: nothing, or a level. -/
def readLevel (source : List Char) (d : Directive) (position : Nat) :
    List Char → Except FilterError Directive
  | [] => .ok d
  | '=' :: _ => do return { d with threshold := ← readThreshold source (position + 1) }
  | _ => .error .directive

/-- Whether a field can be compared with a value: with a number behind a plus sign, or else with a
pattern. -/
def checkValue : List Char → Except FilterError Unit
  | '+' :: cs =>
    if Numeral.isFraction cs ||
        ["inf", "infinity", "nan"].contains (toLowerAscii (String.ofList cs)) then .ok ()
    else .error (.field .malformed)
  | cs => (Pattern.check cs).mapError .field

/-- Reads a field, with its value behind an equals sign up to the next one. -/
def readField (s : String) : Except FilterError FieldMatch :=
  match s.splitOn "=" with
  | [] | [""] => .error .directive
  | [name] => .ok { name, hasValue := false }
  | name :: value :: _ => do
    checkValue value.toList
    return { name, hasValue := true }

/-- Reads a span behind its opening bracket, and all that follows. -/
def readSpan (source : List Char) (target : Option String) (start : Nat) (cs : List Char) :
    Except FilterError Directive :=
  match scan (fun c => c == ']' || c == '\x7b') start cs with
  | none => .error .directive
  | some (stop, sign, cs) => do
    let span ← cut source start stop
    if sign == ']' then readLevel source { target, span := some span } (stop + 1) cs
    else
      match scan (· == '\x7d') (stop + 1) cs with
      | none => .error .directive
      | some (fieldStop, _, cs) => do
        let field ← readField (← cut source (stop + 1) fieldStop)
        match cs with
        | ']' :: cs =>
          let span := if span = "" then none else some span
          readLevel source { target, span, field := some field } (fieldStop + 2) cs
        | _ => .error .directive

/-- Reads one directive. -/
def parseDirective (s : String) : Except FilterError Directive :=
  let source := s.toList
  match trimChars source with
  | [] => .error .directive
  | '[' :: cs => readSpan source none 1 cs
  | c :: cs =>
    if startsTarget c then
      match scan (fun c => c == '=' || c == '[') 0 (c :: cs) with
      | none => .ok (levelOrTarget s)
      | some (stop, sign, cs) => do
        let target ← cut source 0 stop
        if sign == '=' then
          return { target := some target, threshold := ← readThreshold source (stop + 1) }
        else readSpan source (some target) (stop + 1) cs
    else .error .directive

/-- Reads a filter; one without directives lets errors pass. -/
def parseFilter (s : String) : Except FilterError (List Directive) := do
  let directives ← ((s.splitOn ",").filter (· ≠ "")).mapM parseDirective
  return if directives.isEmpty then [{ threshold := 1 }] else directives

/-! ## Filtering -/

/-- Says something about events outside spans. -/
def Directive.isStatic (d : Directive) : Bool := d.span.isNone && d.field.all (!·.hasValue)

/-- Says something about an event of a target with fields of these names. -/
def Directive.concerns (d : Directive) (target : String) (names : List String) : Bool :=
  d.isStatic && d.target.all (target.startsWith ·) && d.field.all (names.contains ·.name)

/-- Decides before another one that concerns the same event and stands in front of it: it has a
longer target, or else a field where the other one has none, or else a later name of the field. -/
def Directive.decidesBefore (d e : Directive) : Bool :=
  let length (d : Directive) : Nat := (d.target.map (·.utf8ByteSize + 1)).getD 0
  if length d ≠ length e then length e < length d
  else
    match e.field, d.field with
    | none, _ => true
    | some _, none => false
    | some x, some y => x.name ≤ y.name

/-- The directive that decides about an event. -/
def decisive (ds : List Directive) (target : String) (names : List String) : Option Directive :=
  (ds.filter (·.concerns target names)).foldl
    (fun best d =>
      match best with
      | none => some d
      | some e => if d.decidesBefore e then some d else some e)
    none

/-- Whether a filter lets an event pass. -/
def passes (ds : List Directive) (target : String) (level : Log.Level) (names : List String) :
    Bool :=
  match decisive ds target names with
  | none => false
  | some d => level.rank ≤ d.threshold

end TaskScheduler.Workload.Tracing
