import CodeSmell.Json.Value

/-!
# Reading JSON text

A reader that says what it expected and at which character when a text is not JSON. The last of
several fields of one name counts.

* `Json.Fault`: what is wrong with a text, and where;
* `Json.parse`: the value that a text stands for.
-/

namespace CodeSmell.Json

inductive FaultCause where
  | expectedValue
  | expectedName
  | expectedColon
  | expectedComma
  | extraData
  | unterminatedText
  | controlCharacter
  | unknownEscape
  | badHexEscape
  /-- An integer has more digits than are converted. -/
  | tooManyDigits
  /-- Lists and objects stand in each other too deep. -/
  | tooDeep
deriving DecidableEq, Repr

/-- A fault and the number of characters before it. -/
structure Fault where
  cause : FaultCause
  position : Nat
deriving DecidableEq, Repr

def FaultCause.message : FaultCause → Text
  | .expectedValue => "Expecting value".toList
  | .expectedName => "Expecting property name enclosed in double quotes".toList
  | .expectedColon => "Expecting ':' delimiter".toList
  | .expectedComma => "Expecting ',' delimiter".toList
  | .extraData => "Extra data".toList
  | .unterminatedText => "Unterminated string starting at".toList
  | .controlCharacter => "Invalid control character at".toList
  | .unknownEscape => "Invalid \\escape".toList
  | .badHexEscape => "Invalid \\uXXXX escape".toList
  | .tooManyDigits => "Exceeds the limit for integer string conversion".toList
  | .tooDeep => "maximum recursion depth exceeded".toList

/-- What is left of a text, and how many characters have been read. -/
structure Cursor where
  rest : Text
  position : Nat
deriving DecidableEq, Repr

def Cursor.fault {α : Type} (c : Cursor) (cause : FaultCause) : Except Fault α :=
  .error ⟨cause, c.position⟩

/-- Moves over `t`, which the rest starts with. -/
def Cursor.skip (c : Cursor) (t : Text) : Cursor :=
  ⟨c.rest.drop t.length, c.position + t.length⟩

def Cursor.next (c : Cursor) : Cursor :=
  ⟨c.rest.tail, c.position + 1⟩

def isBlank (c : Char) : Bool :=
  c == ' ' || c == '\t' || c == '\n' || c == '\r'

def Cursor.skipBlanks (c : Cursor) : Cursor :=
  c.skip (c.rest.takeWhile isBlank)

/-! ## Texts -/

def hex4? (a b c d : Char) : Option Nat := do
  let high := (← Text.hexValue? a) * 16 + (← Text.hexValue? b)
  let low := (← Text.hexValue? c) * 16 + (← Text.hexValue? d)
  return high * 256 + low

def escaped? : Char → Option Char
  | '"' => some '"'
  | '\\' => some '\\'
  | '/' => some '/'
  | 'b' => some '\x08'
  | 'f' => some '\x0c'
  | 'n' => some '\n'
  | 'r' => some '\r'
  | 't' => some '\t'
  | _ => none

def isHighSurrogate (n : Nat) : Bool :=
  0xD800 ≤ n && n ≤ 0xDBFF

def isLowSurrogate (n : Nat) : Bool :=
  0xDC00 ≤ n && n ≤ 0xDFFF

/-- A text being read: its characters, last first, and the first half of a surrogate pair if that was
the last thing read. -/
structure Partial where
  seen : Text := []
  high : Option Nat := none
deriving DecidableEq, Repr

namespace Partial

/-- The characters read; half a surrogate pair that stands alone is replaced. -/
def flush (p : Partial) : Text :=
  match p.high with
  | none => p.seen
  | some _ => '�' :: p.seen

def push (p : Partial) (c : Char) : Partial :=
  { seen := c :: p.flush }

/-- Adds the unit `n` of a sixteen-bit escape. -/
def pushUnit (p : Partial) (n : Nat) : Partial :=
  if isHighSurrogate n then { seen := p.flush, high := some n }
  else if isLowSurrogate n then
    match p.high with
    | some h => { seen := Char.ofNat (0x10000 + (h - 0xD800) * 0x400 + (n - 0xDC00)) :: p.seen }
    | none => p.push '�'
  else p.push (Char.ofNat n)

end Partial

/-- Reads the rest of a text whose opening quote is at `start`. -/
def textFrom (start : Nat) (p : Partial) (position : Nat) : Text → Except Fault (Text × Cursor)
  | [] => .error ⟨.unterminatedText, start⟩
  | '"' :: rest => .ok (p.flush.reverse, ⟨rest, position + 1⟩)
  | ['\\'] => .error ⟨.unterminatedText, start⟩
  | '\\' :: 'u' :: a :: b :: c :: d :: rest =>
    match hex4? a b c d with
    | none => .error ⟨.badHexEscape, position + 1⟩
    | some n =>
      if rest.isEmpty then .error ⟨.badHexEscape, position + 1⟩
      else textFrom start (p.pushUnit n) (position + 6) rest
  | '\\' :: 'u' :: _ => .error ⟨.badHexEscape, position + 1⟩
  | '\\' :: c :: rest =>
    match escaped? c with
    | none => .error ⟨.unknownEscape, position⟩
    | some e => textFrom start (p.push e) (position + 2) rest
  | c :: rest =>
    if c.toNat < 32 then .error ⟨.controlCharacter, position⟩
    else textFrom start (p.push c) (position + 1) rest

/-! ## Numbers -/

/-- Integers with more digits than this are not converted. -/
def maxDigits : Nat := 4300

def digitsValue (ds : Text) : Nat :=
  ds.foldl (fun n c => n * 10 + (c.toNat - '0'.toNat)) 0

/-- The digits of a fraction, when a point and a digit follow. -/
def fraction : Text → Text
  | '.' :: rest => rest.takeWhile Text.isAsciiDigit
  | _ => []

/-- The written exponent: how many characters it takes, and its value. -/
def exponent? : Text → Option (Nat × Int)
  | e :: rest =>
    if e == 'e' || e == 'E' then
      let sign := rest.takeWhile fun c => c == '+' || c == '-'
      let digits := (rest.drop sign.length).takeWhile Text.isAsciiDigit
      if digits.isEmpty || 1 < sign.length then none
      else
        let n : Int := digitsValue digits
        some (1 + sign.length + digits.length, if sign = ['-'] then -n else n)
    else none
  | [] => none

/-- The value of a decimal number; one that is too large is infinite. -/
def ofDecimal (d : Decimal) : Json :=
  if d.overflows then nonFinite (if d.negative then "-Infinity" else "Infinity").toList else decimal d

/-- Reads a number after its sign, the digits of the integer part being `whole`. -/
def numberFrom (c : Cursor) (negative : Bool) (whole : Text) : Except Fault (Json × Cursor) :=
  let c' := c.skip whole
  let frac := fraction c'.rest
  let c' := if frac.isEmpty then c' else c'.next.skip frac
  match exponent? c'.rest with
  | none =>
    if frac.isEmpty then
      if maxDigits < whole.length then c.fault .tooManyDigits
      else
        let n : Int := digitsValue whole
        .ok (integer (if negative then -n else n), c')
    else .ok (ofDecimal ⟨negative, digitsValue (whole ++ frac), -(frac.length : Int)⟩, c')
  | some (size, e) =>
    .ok (ofDecimal ⟨negative, digitsValue (whole ++ frac), e - frac.length⟩,
      ⟨c'.rest.drop size, c'.position + size⟩)

def number (c : Cursor) : Except Fault (Json × Cursor) :=
  let negative := c.rest.head? == some '-'
  let c' := if negative then c.next else c
  match c'.rest with
  | '0' :: _ => numberFrom c' negative ['0']
  | rest =>
    let whole := rest.takeWhile Text.isAsciiDigit
    -- the fault stands before the sign
    if whole.isEmpty then c.fault .expectedValue else numberFrom c' negative whole

/-! ## Values -/

def wordValues : List (Text × Json) :=
  [("null".toList, null), ("true".toList, bool true), ("false".toList, bool false),
    ("NaN".toList, nonFinite "NaN".toList), ("Infinity".toList, nonFinite "Infinity".toList),
    ("-Infinity".toList, nonFinite "-Infinity".toList)]

/-- Reads a value that is neither a text nor a list nor an object. -/
def scalar (c : Cursor) : Except Fault (Json × Cursor) :=
  match wordValues.find? fun w => w.1.isPrefixOf c.rest with
  | some (w, v) => .ok (v, c.skip w)
  | none => number c

/-- How deep lists and objects may stand in each other. -/
def maxDepth : Nat := 960

mutual

/-- Reads one value that may be `room` deep; `fuel` bounds the steps. -/
def value : (fuel room : Nat) → Cursor → Except Fault (Json × Cursor)
  | 0, _, c => c.fault .expectedValue
  | fuel + 1, room, c =>
    match c.rest with
    | '"' :: rest => do
      let (t, c') ← textFrom c.position {} (c.position + 1) rest
      return (text t, c')
    | '[' :: _ =>
      let c' := c.next.skipBlanks
      if room = 0 then c.fault .tooDeep
      else if c'.rest.head? = some ']' then .ok (list [], c'.next)
      else items fuel (room - 1) [] c'
    | '\x7b' :: _ =>
      let c' := c.next.skipBlanks
      if room = 0 then c.fault .tooDeep
      else if c'.rest.head? = some '\x7d' then .ok (object [], c'.next)
      else fields fuel (room - 1) [] c'
    | _ => scalar c

/-- Reads the items of a list up to its end; `seen` are those read, last first. -/
def items : (fuel room : Nat) → List Json → Cursor → Except Fault (Json × Cursor)
  | 0, _, _, c => c.fault .expectedValue
  | fuel + 1, room, seen, c => do
    let (v, c') ← value fuel room c
    let c' := c'.skipBlanks
    match c'.rest with
    | ']' :: _ => return (list (v :: seen).reverse, c'.next)
    | ',' :: _ => items fuel room (v :: seen) c'.next.skipBlanks
    | _ => c'.fault .expectedComma

/-- Reads the fields of an object up to its end. -/
def fields : (fuel room : Nat) → List (Text × Json) → Cursor → Except Fault (Json × Cursor)
  | 0, _, _, c => c.fault .expectedValue
  | fuel + 1, room, seen, c => do
    match c.rest with
    | '"' :: rest =>
      let (name, c') ← textFrom c.position {} (c.position + 1) rest
      let c' := c'.skipBlanks
      match c'.rest with
      | ':' :: _ =>
        let (v, c') ← value fuel room c'.next.skipBlanks
        let c' := c'.skipBlanks
        let seen := setField name v seen
        match c'.rest with
        | '\x7d' :: _ => return (object seen, c'.next)
        | ',' :: _ => fields fuel room seen c'.next.skipBlanks
        | _ => c'.fault .expectedComma
      | _ => c'.fault .expectedColon
    | _ => c.fault .expectedName

end

def parse (t : Text) : Except Fault Json := do
  let (v, c) ← value (2 * t.length + 2) maxDepth (Cursor.skipBlanks ⟨t, 0⟩)
  let c := c.skipBlanks
  if c.rest.isEmpty then return v else c.fault .extraData

end CodeSmell.Json
