import CodeSmell.Text.Quoted

/-!
# Integers as they are written in settings and options

Blanks around the number, a sign, and digits of any script with single underscores between them.

* `IntegerFault`: why a text is not read as an integer;
* `readInteger`: the integer that a text stands for.
-/

namespace CodeSmell

open Text

inductive IntegerFault where
  | malformed (t : Text)
  | tooManyDigits (count : Nat)
deriving DecidableEq, Repr

/-- Integers with more digits than this are not converted. -/
def maxIntegerDigits : Nat := 4300

/-- The message of a fault; a long text is quoted in part. -/
def IntegerFault.message : IntegerFault → Text
  | malformed t => "invalid literal for int() with base 10: ".toList ++ t.quoted.take 200
  | tooManyDigits n =>
    "Exceeds the limit (".toList ++ Text.ofNat maxIntegerDigits ++
      " digits) for integer string conversion: value has ".toList ++ Text.ofNat n ++
      " digits; use sys.set_int_max_str_digits() to increase the limit".toList

namespace Integer

/-- Blanks that may stand around a number: the separators 28 to 31 are not among them. -/
def isPadding (c : Char) : Bool :=
  isSpace c && !(28 ≤ c.toNat && c.toNat ≤ 31)

def splitSign : Text → Bool × Text
  | '-' :: t => (true, t)
  | '+' :: t => (false, t)
  | t => (false, t)

/-- Whether every underscore of a row of digits stands between two digits; `digitBefore` tells whether
a digit stands before the row. -/
def underscoresSeparate (digitBefore : Bool) : Text → Bool
  | [] => digitBefore
  | '_' :: t => digitBefore && underscoresSeparate false t
  | _ :: t => underscoresSeparate true t

/-- The value of a row of digits, the most significant first. -/
def ofDigits (ds : List Nat) : Nat :=
  ds.foldl (fun n d => n * 10 + d) 0

end Integer

open Integer in
/-- The integer that a text stands for. -/
def readInteger (t : Text) : Except IntegerFault Int :=
  let (negative, body) := splitSign (t.dropWhile isPadding)
  let isPart := fun c => isDigit c || c == '_'
  let row := body.takeWhile isPart
  let digits := row.filterMap digitValue?
  if !underscoresSeparate false row then .error (.malformed t)
  -- the digits are counted before a look at what follows them
  else if maxIntegerDigits < digits.length then .error (.tooManyDigits digits.length)
  else if (body.dropWhile isPart).all isPadding then
    let n : Int := ofDigits digits
    .ok (if negative then -n else n)
  else .error (.malformed t)

end CodeSmell
