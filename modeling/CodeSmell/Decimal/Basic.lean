import CodeSmell.Text.Basic

/-!
# Decimal numbers

* `Decimal`: an integer times a power of ten;
* `Decimal.overflows`: whether a number is larger than floating-point numbers can be;
* `Decimal.text`: positional notation for moderate sizes, scientific notation for the others.
-/

namespace CodeSmell

/-- `digits * 10 ^ exponent`, with a sign that zero has too. -/
structure Decimal where
  negative : Bool := false
  digits : Nat
  exponent : Int
deriving DecidableEq, Repr

namespace Decimal

/-- The same number without zeros at the end of its digits; `steps` bounds how many are taken off. -/
def trimFrom (negative : Bool) (digits : Nat) (exponent : Int) : (steps : Nat) → Decimal
  | 0 => ⟨negative, digits, exponent⟩
  | steps + 1 =>
    if digits = 0 then ⟨negative, 0, 0⟩
    else if digits % 10 = 0 then trimFrom negative (digits / 10) (exponent + 1) steps
    else ⟨negative, digits, exponent⟩

/-- The same number without zeros at the end of its digits. -/
def trim (d : Decimal) : Decimal :=
  trimFrom d.negative d.digits d.exponent (Text.ofNat d.digits).length

/-- Whether a number is too large for a floating-point number: at least the middle between the largest one
and the next power of two. -/
def overflows (d : Decimal) : Bool :=
  let magnitude : Int := (Text.ofNat d.digits).length + d.exponent
  if d.digits = 0 || magnitude ≤ 308 then false
  else if 309 < magnitude then true
  else
    let limit := (Nat.pow 2 54 - 1) * Nat.pow 2 970
    limit * Nat.pow 10 (-d.exponent).toNat ≤ d.digits * Nat.pow 10 d.exponent.toNat

/-- The digits with a point before the last `places` of them, at least one digit on either side. -/
def positional (digits : Text) (places : Nat) : Text :=
  let padded := digits.leftpad (places + 1) '0'
  let whole := padded.take (padded.length - places)
  let frac := padded.drop (padded.length - places)
  whole ++ '.' :: (if frac.isEmpty then ['0'] else frac)

/-- The exponent of scientific notation: a sign and two digits or more. -/
def exponentText (e : Int) : Text :=
  'e' :: (if e < 0 then '-' else '+') :: (Text.ofNat e.natAbs).leftpad 2 '0'

def text (d : Decimal) : Text :=
  let d := d.trim
  let digits := Text.ofNat d.digits
  let lead : Int := d.exponent + digits.length - 1
  let sign : Text := if d.negative then ['-'] else []
  -- numbers from 0.0001 up to 10^16 are written positionally
  if -4 ≤ lead ∧ lead < 16 then
    if 0 ≤ d.exponent then
      sign ++ positional (digits ++ List.replicate d.exponent.toNat '0') 0
    else sign ++ positional digits d.exponent.natAbs
  else
    match digits with
    | [] => sign
    | [c] => sign ++ c :: exponentText lead
    | c :: cs => sign ++ c :: '.' :: cs ++ exponentText lead

end Decimal

end CodeSmell
