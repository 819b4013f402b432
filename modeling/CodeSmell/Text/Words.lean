import CodeSmell.Text.Basic

/-!
# Words

A word of a text is a maximal run of word characters.

* `Text.wordTails`: what is left of the text from the start of each word on;
* `Text.words`: the words, in order;
* `Text.occurrences?`: how often a name stands in a text with a word boundary on either side. The name
  may hold characters that are no word characters, and a boundary is any place where a word
  character meets another character or the end of the text.
-/

namespace CodeSmell.Text

/-- `wordTails` of the rest of a text; `inWord` tells whether the character before it is a word
character. -/
def wordTailsFrom (inWord : Bool) (found : List Text) : Text → List Text
  | [] => found.reverse
  | t@(c :: cs) =>
    if isWord c && !inWord then wordTailsFrom true (t :: found) cs
    else wordTailsFrom (isWord c) found cs

/-- The rests of the text that start where a word starts. -/
def wordTails (t : Text) : List Text :=
  wordTailsFrom false [] t

def firstWord (t : Text) : Text :=
  t.takeWhile isWord

def words (t : Text) : List Text :=
  (wordTails t).map firstWord

def startsInWord : Text → Bool
  | [] => false
  | c :: _ => isWord c

/-- Whether `name` stands at the start of `t` with a boundary on either side; `inWord` tells whether
the character before `t` is a word character. -/
def standsAt (name : Text) (inWord : Bool) (t : Text) : Bool :=
  inWord != startsInWord t &&
    match after? name t with
    | none => false
    | some rest => (name.getLast?.any isWord) != startsInWord rest

/-- Counts the places where `name` stands, left to right; `skip` characters still belong to the
occurrence found last, so that occurrences do not overlap. -/
def occurrencesFrom (name : Text) (inWord : Bool) (skip count : Nat) : Text → Nat
  | [] => count
  | t@(c :: cs) =>
    match skip with
    | k + 1 => occurrencesFrom name (isWord c) k count cs
    | 0 =>
      if standsAt name inWord t then
        occurrencesFrom name (isWord c) (name.length - 1) (count + 1) cs
      else occurrencesFrom name (isWord c) 0 count cs

/-- How often `name` stands in `t` between word boundaries; nothing for a text that is no name. -/
def occurrences? (name t : Text) : Option Nat :=
  if name.isIdentifier then some (occurrencesFrom name false 0 0 t) else none

end CodeSmell.Text
