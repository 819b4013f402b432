import CodeSmell.Text.WordRanges
import CodeSmell.Text.IdentifierRanges
import CodeSmell.Text.PrintableRanges
import CodeSmell.Text.DigitRanges

/-!
# Character classes

* `isSpace`: characters that blank trimming removes and that may separate words;
* `isWord`: letters, numeric characters and the underscore;
* `isDigit`, `digitValue?`: decimal digits of all scripts;
* `hexValue?`: hexadecimal digits;
* `isIdentifierStart`, `isIdentifierPart`: what a name may begin with and go on with;
* `isPrintable`: characters that quoting leaves alone.

ASCII characters are classified directly, all others by a table.
-/

namespace CodeSmell.Text

def isAsciiLetter (c : Char) : Bool :=
  ('a' ≤ c && c ≤ 'z') || ('A' ≤ c && c ≤ 'Z')

def isAsciiDigit (c : Char) : Bool :=
  '0' ≤ c && c ≤ '9'

def hexValue? (c : Char) : Option Nat :=
  if '0' ≤ c && c ≤ '9' then some (c.toNat - '0'.toNat)
  else if 'a' ≤ c && c ≤ 'f' then some (c.toNat - 'a'.toNat + 10)
  else if 'A' ≤ c && c ≤ 'F' then some (c.toNat - 'A'.toNat + 10)
  else none

/-- Blank characters. A zero-width space and a byte-order mark are not among them. -/
def isSpace (c : Char) : Bool :=
  let n := c.toNat
  (9 ≤ n && n ≤ 13) || (28 ≤ n && n ≤ 32) || n == 0x85 || n == 0xA0 || n == 0x1680 ||
    (0x2000 ≤ n && n ≤ 0x200A) || n == 0x2028 || n == 0x2029 || n == 0x202F || n == 0x205F ||
    n == 0x3000

/-- Letters, characters with a numeric value, and the underscore. -/
def isWord (c : Char) : Bool :=
  if c.toNat < 128 then isAsciiLetter c || isAsciiDigit c || c == '_'
  else wordRanges.contains c.toNat

/-- The value of a decimal digit of any script. -/
def digitValue? (c : Char) : Option Nat :=
  if c.toNat < 128 then
    if isAsciiDigit c then some (c.toNat - '0'.toNat) else none
  else (digitRanges.find? c.toNat).map fun r => (c.toNat - r.1) % 10

def isDigit (c : Char) : Bool :=
  (digitValue? c).isSome

def isIdentifierStart (c : Char) : Bool :=
  if c.toNat < 128 then isAsciiLetter c || c == '_'
  else identifierStartRanges.contains c.toNat

def isIdentifierPart (c : Char) : Bool :=
  if c.toNat < 128 then isAsciiLetter c || isAsciiDigit c || c == '_'
  else identifierPartRanges.contains c.toNat

/-- Characters that quoting leaves alone. -/
def isPrintable (c : Char) : Bool :=
  if c.toNat < 128 then 32 ≤ c.toNat && c.toNat < 127
  else printableRanges.contains c.toNat

end CodeSmell.Text
