import CodeSmell.Text.Quoted

/-!
# UTF-8

* `Utf8.encode`: the bytes of a text;
* `Utf8.decode`: the text of some bytes and the faults in them. A broken sequence is left out up to the
  first byte that cannot continue it, and that byte is read afresh;
* `Utf8.strict`: the text, or the first fault;
* `Text.unifyNewlines`: carriage returns, alone or before a line feed, become line feeds.
-/

namespace CodeSmell

abbrev Bytes := List UInt8

namespace Utf8

def encode (t : Text) : Bytes :=
  t.flatMap String.utf8EncodeChar

def size (t : Text) : Nat :=
  t.foldl (fun n c => n + c.utf8Size) 0

inductive Cause where
  | startByte
  | continuationByte
  | endOfData
deriving DecidableEq, Repr

/-- A sequence of `size` bytes that stands for no character, and its first byte. -/
structure Fault where
  first : Nat
  position : Nat
  size : Nat
  cause : Cause
deriving DecidableEq, Repr

def Cause.message : Cause → Text
  | startByte => "invalid start byte".toList
  | continuationByte => "invalid continuation byte".toList
  | endOfData => "unexpected end of data".toList

def Fault.message (f : Fault) : Text :=
  let place : Text :=
    if f.size = 1 then
      "byte 0x".toList ++ Text.hexDigits 2 f.first ++ " in position ".toList ++ Text.ofNat f.position
    else
      "bytes in position ".toList ++ Text.ofNat f.position ++ '-' ::
        Text.ofNat (f.position + f.size - 1)
  "'utf-8' codec can't decode ".toList ++ place ++ ": ".toList ++ f.cause.message

/-- A character of several bytes that is not complete: its first byte, how many bytes have been read
and are still owed, the least and greatest next byte, and the bits so far. -/
structure Pending where
  first : Nat
  size : Nat := 1
  owed : Nat
  least : Nat := 0x80
  greatest : Nat := 0xBF
  bits : Nat
deriving DecidableEq, Repr

/-- What a byte that begins a character leads to. -/
inductive Start where
  | done (c : Char)
  | more (p : Pending)
  | bad
deriving DecidableEq, Repr

def start (b : Nat) : Start :=
  if b < 0x80 then .done (Char.ofNat b)
  else if 0xC2 ≤ b && b ≤ 0xDF then .more { first := b, owed := 1, bits := b - 0xC0 }
  else if 0xE0 ≤ b && b ≤ 0xEF then
    .more { first := b, owed := 2, bits := b - 0xE0
            least := if b = 0xE0 then 0xA0 else 0x80
            greatest := if b = 0xED then 0x9F else 0xBF }
  else if 0xF0 ≤ b && b ≤ 0xF4 then
    .more { first := b, owed := 3, bits := b - 0xF0
            least := if b = 0xF0 then 0x90 else 0x80
            greatest := if b = 0xF4 then 0x8F else 0xBF }
  else .bad

/-- A decoding in progress: the characters and faults so far, last first, a character that is not
complete, and the number of bytes read. -/
structure Decoding where
  chars : Text := []
  faults : List Fault := []
  pending : Option Pending := none
  position : Nat := 0
deriving DecidableEq, Repr

def Decoding.begin (d : Decoding) (b : Nat) : Decoding :=
  match start b with
  | .done c => { d with chars := c :: d.chars, pending := none, position := d.position + 1 }
  | .more p => { d with pending := some p, position := d.position + 1 }
  | .bad =>
    { d with
      faults := ⟨b, d.position, 1, .startByte⟩ :: d.faults
      pending := none, position := d.position + 1 }

def Decoding.abandon (d : Decoding) (cause : Cause) : Decoding :=
  match d.pending with
  | none => d
  | some p =>
    { d with
      faults := ⟨p.first, d.position - p.size, p.size, cause⟩ :: d.faults
      pending := none }

def Decoding.step (d : Decoding) (byte : UInt8) : Decoding :=
  let b := byte.toNat
  match d.pending with
  | none => d.begin b
  | some p =>
    if p.least ≤ b && b ≤ p.greatest then
      let bits := p.bits * 64 + b % 64
      if p.owed ≤ 1 then
        { d with chars := Char.ofNat bits :: d.chars, pending := none, position := d.position + 1 }
      else
        { d with
          pending := some { first := p.first, size := p.size + 1, owed := p.owed - 1, bits }
          position := d.position + 1 }
    else (d.abandon .continuationByte).begin b

def decode (bytes : Bytes) : Decoding :=
  (bytes.foldl Decoding.step {}).abandon .endOfData

/-- The text of some bytes, what is broken being left out. -/
def lenient (bytes : Bytes) : Text :=
  (decode bytes).chars.reverse

/-- The text of some bytes, or the first fault. -/
def strict (bytes : Bytes) : Except Fault Text :=
  let d := decode bytes
  match d.faults.getLast? with
  | none => .ok d.chars.reverse
  | some f => .error f

end Utf8

namespace Text

/-- `unifyNewlines` of the rest of a text, `seen` being what has been made, last first. -/
def unifyNewlinesFrom (seen : Text) : Text → Text
  | [] => seen.reverse
  | '\r' :: '\n' :: t => unifyNewlinesFrom ('\n' :: seen) t
  | '\r' :: t => unifyNewlinesFrom ('\n' :: seen) t
  | c :: t => unifyNewlinesFrom (c :: seen) t

/-- The text with one line feed for each carriage return, each line feed, and each pair of them. -/
def unifyNewlines (t : Text) : Text :=
  unifyNewlinesFrom [] t

end Text

end CodeSmell
