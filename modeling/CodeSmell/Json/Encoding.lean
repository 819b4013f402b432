import CodeSmell.Text.Utf8

/-!
# Encodings of JSON text

JSON text begins with characters of one byte in ASCII, so zeros among the first bytes tell how wide its
units are and in which order their bytes come.

* `Json.Encoding`: the encodings;
* `Json.Encoding.detect`: the encoding that the first bytes tell;
* `Json.decode?`: the text of some bytes.
-/

namespace CodeSmell.Json

/-- Encodings of JSON text. Units of several bytes have their high byte first or last. -/
inductive Encoding where
  | utf8
  | utf16 (highFirst : Bool)
  | utf32 (highFirst : Bool)
deriving DecidableEq, Repr

def Encoding.detect : Bytes → Encoding
  | a :: b :: c :: d :: _ =>
    if a = 0 then if b = 0 then .utf32 true else .utf16 true
    else if b = 0 then if c = 0 ∧ d = 0 then .utf32 false else .utf16 false
    else .utf8
  | [a, b] => if a = 0 then .utf16 true else if b = 0 then .utf16 false else .utf8
  | _ => .utf8

/-- The number that two units stand for, the first one being the high one or the low one. -/
def joinUnits (base : Nat) (highFirst : Bool) (a b : Nat) : Nat :=
  if highFirst then a * base + b else b * base + a

/-- Units of twice the width after those in `out`, which are in reverse; none if one is left over. -/
def pairUnits (base : Nat) (highFirst : Bool) (out : List Nat) : List Nat → Option (List Nat)
  | [] => some out.reverse
  | [_] => none
  | a :: b :: rest => pairUnits base highFirst (joinUnits base highFirst a b :: out) rest

/-- The character of a number; half of a pair stands for no character. -/
def unitChar (n : Nat) : Char :=
  if n < 0xD800 || 0xDFFF < n then Char.ofNat n else '\ufffd'

/-- The text of units of two bytes after `out`, which is in reverse. Two halves of a pair are one
character. -/
def textOfUnits (out : Text) : List Nat → Text
  | [] => out.reverse
  | [n] => (unitChar n :: out).reverse
  | a :: b :: rest =>
    if 0xD800 ≤ a ∧ a < 0xDC00 ∧ 0xDC00 ≤ b ∧ b < 0xE000 then
      textOfUnits (Char.ofNat (0x10000 + (a - 0xD800) * 0x400 + (b - 0xDC00)) :: out) rest
    else textOfUnits (unitChar a :: out) (b :: rest)

def dropMark (bytes : Bytes) : Bytes :=
  if bytes.take 3 = [0xEF, 0xBB, 0xBF] then bytes.drop 3 else bytes

/-- The text of some bytes, unless they are no text. -/
def decode? (bytes : Bytes) : Option Text :=
  match Encoding.detect bytes with
  | .utf8 => (Utf8.strict (dropMark bytes)).toOption
  | .utf16 highFirst =>
    (pairUnits 0x100 highFirst [] (bytes.map UInt8.toNat)).map (textOfUnits [])
  | .utf32 highFirst => do
    let halves ← pairUnits 0x100 highFirst [] (bytes.map UInt8.toNat)
    let units ← pairUnits 0x10000 highFirst [] halves
    if units.all (· ≤ 0x10FFFF) then some (units.map unitChar) else none

end CodeSmell.Json
