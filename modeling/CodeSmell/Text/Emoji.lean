import CodeSmell.Text.Basic
import CodeSmell.Text.Class
import CodeSmell.Text.EmojiNames

/-!
# Emoji codes

An emoji code is a name between two colons. An ending of the name may ask for the emoji as text or as a
picture.

* `emoji?`: the emoji of a name;
* `readCode`: what a code stands for;
* `replaceCodes`: a text with emoji in place of their codes.
-/

namespace CodeSmell.Text

/-- Bisection between the indices `lo` and `hi` of the table; `steps` bounds the number of halvings. -/
def findEmoji (name : String) : (steps lo hi : Nat) → Option String
  | 0, _, _ => none
  | steps + 1, lo, hi =>
    if lo < hi then
      let mid := (lo + hi) / 2
      match emojiNames[mid]? with
      | none => none
      | some (key, emoji) =>
        if name < key then findEmoji name steps lo mid
        else if key < name then findEmoji name steps (mid + 1) hi
        else some emoji
    else none

/-- The small letter of a capital one, for the letters in names of emoji: those of English and those
with marks in the block after it. Two more signs have such a small letter. -/
def smallLetter (c : Char) : Char :=
  if 'A' ≤ c ∧ c ≤ 'Z' then Char.ofNat (c.toNat + 32)
  else if 'À' ≤ c ∧ c ≤ 'Þ' ∧ c ≠ '×' then Char.ofNat (c.toNat + 32)
  else if c.toNat = 0x212A then 'k'
  else if c.toNat = 0x212B then 'å'
  else c

/-- The emoji of a name. Capital letters count as small ones. -/
def emoji? (name : Text) : Option Text :=
  (findEmoji (String.ofList (name.map smallLetter)) emojiNames.size 0 emojiNames.size).map String.toList

/-- The name in a code, and the character that asks for a text or for a picture. -/
def splitVariant (code : Text) : Text × Text :=
  if "-emoji".toList.isSuffixOf code then (code.take (code.length - 6), ['\ufe0f'])
  else if "-text".toList.isSuffixOf code then (code.take (code.length - 5), ['\ufe0e'])
  else (code, [])

/-- What a code stands for: an emoji, or else itself. -/
def readCode (code : Text) : Text :=
  let (name, variant) := splitVariant code
  match emoji? name with
  | some emoji => emoji ++ variant
  | none => ':' :: code ++ [':']

/-- Reads codes in a text that is split at its colons and stands after a colon that begins a code, if
there is one. A code has no blanks in it. -/
def replaceParts : List Text → Text
  | [] => []
  | [last] => ':' :: last
  | code :: next :: rest =>
    if code.any isSpace then ':' :: code ++ replaceParts (next :: rest)
    else readCode code ++ next ++ replaceParts rest

def replaceCodes (t : Text) : Text :=
  match t.splitOn ':' with
  | [] => []
  | first :: parts => first ++ replaceParts parts

end CodeSmell.Text
