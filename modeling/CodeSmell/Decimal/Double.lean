import CodeSmell.Decimal.Basic

/-!
# Decimal texts of binary fractions

* `Dyadic`: an integer times a power of two, the exact value of a floating-point number;
* `Dyadic.roundPlaces`: the nearest multiple of a negative power of ten, a half going to the even one;
* `Dyadic.shortest`: the decimal number with the fewest digits that lies nearer to the value than to
  any other floating-point number.
-/

namespace CodeSmell

/-- The quotient of two natural numbers, rounded to the nearest integer; a half goes to the even one. -/
def roundDiv (n d : Nat) : Nat :=
  let q := n / d
  let r := n % d
  if 2 * r < d then q else if d < 2 * r then q + 1 else if q % 2 = 0 then q else q + 1

/-- The value `mantissa * 2 ^ exponent`, with a sign that zero has too. -/
structure Dyadic where
  negative : Bool := false
  mantissa : Nat
  exponent : Int
deriving DecidableEq, Repr

namespace Dyadic

/-- The exact value of a finite floating-point number. -/
def ofFloat (x : Float) : Dyadic :=
  let bits : Nat := x.toBits.toNat
  let fraction : Nat := bits % Nat.pow 2 52
  let biased : Nat := bits / Nat.pow 2 52 % Nat.pow 2 11
  let negative := bits / Nat.pow 2 63 == 1
  if biased = 0 then ⟨negative, fraction, -1074⟩
  else ⟨negative, fraction + Nat.pow 2 52, (biased : Int) - 1075⟩

/-- The value as a quotient of natural numbers, multiplied by `10 ^ shift`. -/
def scaled (mantissa : Nat) (exponent shift : Int) : Nat × Nat :=
  (mantissa * Nat.pow 2 exponent.toNat * Nat.pow 10 shift.toNat,
    Nat.pow 2 (-exponent).toNat * Nat.pow 10 (-shift).toNat)

def roundPlaces (x : Dyadic) (places : Nat) : Decimal :=
  let (n, d) := scaled x.mantissa x.exponent places
  ⟨x.negative, roundDiv n d, -(places : Int)⟩

/-- Whether `c * 10 ^ (-shift)` rounds to the value: it lies between the two midpoints, which count
where the mantissa is even. -/
def reads (x : Dyadic) (c : Nat) (shift : Int) : Bool :=
  -- in quarters of the last place: the lower midpoint is nearer at a power of two
  let low := if x.mantissa = Nat.pow 2 52 then 4 * x.mantissa - 1 else 4 * x.mantissa - 2
  let high := 4 * x.mantissa + 2
  let (nl, d) := scaled low (x.exponent - 2) shift
  let (nh, _) := scaled high (x.exponent - 2) shift
  if x.mantissa % 2 = 0 then nl ≤ c * d && c * d ≤ nh else nl < c * d && c * d < nh

/-- The candidate on the grid of `10 ^ (-shift)`: the nearer of the two neighbours that read back. -/
def onGrid? (x : Dyadic) (shift : Int) : Option Nat :=
  let (n, d) := scaled x.mantissa x.exponent shift
  let q := n / d
  match q != 0 && x.reads q shift, x.reads (q + 1) shift with
  | true, true => some (roundDiv n d)
  | true, false => some q
  | false, true => some (q + 1)
  | false, false => none

/-- The coarsest of the next `steps` grids that has a candidate. -/
def shortestFrom (x : Dyadic) (shift : Int) : (steps : Nat) → Option Decimal
  | 0 => none
  | steps + 1 =>
    match x.onGrid? shift with
    | some c => some ⟨x.negative, c, -shift⟩
    | none => shortestFrom x (shift + 1) steps

/-- The shortest decimal number that reads back as the value. -/
def shortest (x : Dyadic) : Decimal :=
  if x.mantissa = 0 then ⟨x.negative, 0, 0⟩
  else
    let (n, d) := scaled x.mantissa x.exponent 0
    let lead : Int := (Text.ofNat n).length - (Text.ofNat d).length
    ((shortestFrom x (-lead - 1) 40).getD (x.roundPlaces 20)).trim

end Dyadic

/-- The floating-point number nearest to a decimal number. -/
def Decimal.toFloat (d : Decimal) : Float :=
  let x := Float.ofScientific d.digits (decide (d.exponent < 0)) d.exponent.natAbs
  if d.negative then -x else x

/-- The shortest decimal number that stands for the same floating-point number. -/
def Decimal.shortest (d : Decimal) : Decimal :=
  (Dyadic.ofFloat d.toFloat).shortest

/-- A floating-point number rounded to four places, as the floating-point number nearest to that. -/
def Decimal.roundedToFour (x : Float) : Decimal :=
  ((Dyadic.ofFloat x).roundPlaces 4).shortest

end CodeSmell
