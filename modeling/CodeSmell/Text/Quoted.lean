import CodeSmell.Text.Basic
import CodeSmell.Json.Value
import CodeSmell.Decimal.Double

/-!
# Values as they stand in messages

Texts stand in quotes: single ones, or double ones if the text holds a single quote and no double
one. Line breaks, tabs, backslashes, the quote itself and characters that do not print are escaped.

* `Text.quoted`: a text in quotes;
* `Json.display`: any value.
-/

namespace CodeSmell

namespace Text

/-- The last `width` hexadecimal digits of a number, in lower case. -/
def hexDigits (width n : Nat) : Text :=
  (Nat.toDigits 16 n).leftpad width '0'

def numberEscape (c : Char) : Text :=
  let n := c.toNat
  if n < 0x100 then "\\x".toList ++ hexDigits 2 n
  else if n < 0x10000 then "\\u".toList ++ hexDigits 4 n
  else "\\U".toList ++ hexDigits 8 n

def quotedChar (q c : Char) : Text :=
  if c == q || c == '\\' then ['\\', c]
  else if c == '\n' then "\\n".toList
  else if c == '\r' then "\\r".toList
  else if c == '\t' then "\\t".toList
  else if isPrintable c then [c]
  else numberEscape c

/-- The quote that a text is put in. -/
def quoteFor (t : Text) : Char :=
  if t.contains '\'' && !t.contains '"' then '"' else '\''

def quoted (t : Text) : Text :=
  let q := quoteFor t
  q :: t.flatMap (quotedChar q) ++ [q]

end Text

namespace Json

/-- A number that is not finite. -/
def displayNonFinite (name : Text) : Text :=
  if name = "NaN".toList then "nan".toList
  else if name.head? = some '-' then "-inf".toList
  else "inf".toList

mutual

/-- A value as it stands in messages. -/
def display : Json → Text
  | .null => "None".toList
  | .bool b => (if b then "True" else "False").toList
  | .integer n => Text.ofInt n
  | .decimal d => d.shortest.text
  | .nonFinite name => displayNonFinite name
  | .text t => t.quoted
  | .list vs => '[' :: displayItems [] vs ++ [']']
  | .object fs => '\x7b' :: displayFields [] fs ++ ['\x7d']

def displayItems (out : Text) : List Json → Text
  | [] => out
  | [v] => out ++ display v
  | v :: vs => displayItems (out ++ display v ++ ", ".toList) vs

def displayFields (out : Text) : List (Text × Json) → Text
  | [] => out
  | [(k, v)] => out ++ k.quoted ++ ": ".toList ++ display v
  | (k, v) :: fs => displayFields (out ++ k.quoted ++ ": ".toList ++ display v ++ ", ".toList) fs

end

end Json

end CodeSmell
