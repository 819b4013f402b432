import CodeSmell.Text.Basic
import CodeSmell.Text.Emoji

/-!
# Marked text

Marked text holds tags in brackets that turn styles on and off, and emoji codes. A backslash before a tag
makes it plain text, and two backslashes before a tag stand for one.

* `Markup.Mark`, `Markup.marks`: the characters and tags of a marked text;
* `Markup.escape`: a text marked so that its brackets are plain text;
* `Markup.plain`: a marked text without styles;
* `Markup.bold`: a text in bold.
-/

namespace CodeSmell.Layout.Markup

/-- A part of a marked text: a character, or a tag with its brackets and the number of backslashes before
it. -/
inductive Mark where
  | char (c : Char)
  | tag (backslashes : Nat) (text : Text)
deriving DecidableEq, Repr

def startsTag (c : Char) : Bool :=
  'a' ≤ c && c ≤ 'z' || c == '#' || c == '/' || c == '@'

/-- The tag at the beginning of a text, with its brackets. -/
def tagAt? : Text → Option Text
  | '[' :: c :: t =>
    let body := t.takeWhile fun c => c != '[' && c != ']'
    if startsTag c ∧ (t.drop body.length).head? = some ']' then some ('[' :: c :: body ++ [']']) else none
  | _ => none

/-- The parts of a text after some backslashes, its first `skip` characters left out. -/
def marksFrom (skip backslashes : Nat) : Text → List Mark
  | [] => List.replicate backslashes (.char '\\')
  | c :: t =>
    if 0 < skip then marksFrom (skip - 1) 0 t
    else if c = '\\' then marksFrom 0 (backslashes + 1) t
    else
      match tagAt? (c :: t) with
      | some tag => .tag backslashes tag :: marksFrom (tag.length - 1) 0 t
      | none => List.replicate backslashes (.char '\\') ++ .char c :: marksFrom 0 0 t

def marks (t : Text) : List Mark :=
  marksFrom 0 0 t

/-- A part marked so that it is plain text. -/
def Mark.escape : Mark → Text
  | char c => [c]
  | tag backslashes text => List.replicate (2 * backslashes + 1) '\\' ++ text

/-- A second backslash where a text ends in just one. -/
def closeBackslash (t : Text) : Text :=
  match t.reverse with
  | '\\' :: '\\' :: _ => t
  | '\\' :: _ => t ++ ['\\']
  | _ => t

/-- The text marked so that its brackets are plain text. -/
def escape (t : Text) : Text :=
  closeBackslash ((marks t).flatMap Mark.escape)

/-- The pieces of plain text between tags, after the characters of `current`, which are in reverse. Half of
the backslashes before a tag are a piece, and so is a tag after an odd number of them. -/
def pieces (current : Text) : List Mark → List Text
  | [] => [current.reverse]
  | .char c :: rest => pieces (c :: current) rest
  | .tag backslashes text :: rest =>
    current.reverse :: List.replicate (backslashes / 2) '\\' ::
      (if backslashes % 2 = 1 then text else []) :: pieces [] rest

def dropBackslashes : Text → Text
  | '\\' :: '[' :: t => '[' :: dropBackslashes t
  | c :: t => c :: dropBackslashes t
  | [] => []

def plain (t : Text) : Text :=
  (pieces [] (marks t)).flatMap fun piece => Text.replaceCodes (dropBackslashes piece)

def bold (t : Text) : Text :=
  "[bold]".toList ++ escape t ++ "[/bold]".toList

end CodeSmell.Layout.Markup
