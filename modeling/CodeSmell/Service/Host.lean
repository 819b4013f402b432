import CodeSmell.Text.Basic
import CodeSmell.Text.LabelRanges
import CodeSmell.Text.Quoted

/-!
# Hosts

The host of an address is four numbers with dots between them, groups of hexadecimal digits in brackets,
or a name. A name in ASCII may hold anything; any other name is made of labels with dots between them.

Like the rest of an address, hosts are read by the client that sends a request; the service does not see them, and
no statement about it rests on these rules.

* `Host.isFourNumbers`, `Host.looksNumeric`: four numbers, and what is taken for them;
* `Host.isGroups`: groups of hexadecimal digits;
* `Host.isName`: names made of labels;
* `Host.fault?`: why a host cannot be used.
-/

namespace CodeSmell.Service.Host

open Text

/-! ## Four numbers -/

/-- A number from 0 to 255, without zeros in front of it. -/
def isByte (t : Text) : Bool :=
  !t.isEmpty && t.length ≤ 3 && t.all isAsciiDigit && (t.head? != some '0' || t.length == 1) &&
    t.foldl (fun n c => 10 * n + (c.toNat - '0'.toNat)) 0 ≤ 255

def isFourNumbers (t : Text) : Bool :=
  let parts := t.splitOn '.'
  parts.length == 4 && parts.all isByte

/-- Where reading four numbers may stand after one more character. An even place is before a number and
the next one is in it; any character may stand between two numbers. -/
def numberPlaces (c : Char) (place : Nat) : List Nat :=
  (if isAsciiDigit c then [if place % 2 = 0 then place + 1 else place] else []) ++
    (if place % 2 = 1 ∧ place < 7 then [place + 1] else [])

/-- Whether a host is taken for four numbers: rows of digits with any character between them. -/
def looksNumeric (t : Text) : Bool :=
  (t.foldl (fun places c => (places.flatMap (numberPlaces c)).eraseDups) [0]).contains 7

/-! ## Groups of digits -/

/-- A group of one to four hexadecimal digits. -/
def isGroup (g : Text) : Bool :=
  !g.isEmpty && g.length ≤ 4 && g.all fun c => (hexValue? c).isSome

/-- The parts between colons; an empty text has none. -/
def groups (t : Text) : List Text :=
  if t.isEmpty then [] else t.splitOn ':'

/-- The number of groups in a row. Four numbers with dots may stand in place of the last two groups. -/
def groupCount? : List Text → Option Nat
  | [] => some 0
  | [g] => if isGroup g then some 1 else if isFourNumbers g then some 2 else none
  | g :: gs => if isGroup g then (groupCount? gs).map (· + 1) else none

/-- The texts before and after the first two colons in a row. -/
def splitGap? : Text → Option (Text × Text)
  | ':' :: ':' :: t => some ([], t)
  | c :: t => (splitGap? t).map fun (a, b) => (c :: a, b)
  | [] => none

/-- Eight groups, or fewer with a gap between them. -/
def areGroups (t : Text) : Bool :=
  match splitGap? t with
  | none => groupCount? (groups t) == some 8
  | some (a, b) =>
    (groups a).all isGroup && (groupCount? (groups b)).any fun n => (groups a).length + n ≤ 7

/-- Groups, and after them perhaps a percent sign and the name of a zone. -/
def isGroups (t : Text) : Bool :=
  areGroups (t.before '%') &&
    match t.dropWhile (· != '%') with
    | [] => true
    | _ :: zone => !zone.isEmpty && !zone.contains '%'

/-! ## Names -/

def isLabelChar (c : Char) : Bool :=
  if c.toNat < 128 then isAsciiLetter c || isAsciiDigit c || c == '-' else labelRanges.contains c.toNat

/-- A label: no hyphen stands at its ends or in its third and fourth place, and no mark begins it. -/
def isLabel (t : Text) : Bool :=
  !t.isEmpty && t.all isLabelChar && t.head? != some '-' && t.getLast? != some '-' &&
    (t.drop 2).take 2 != ['-', '-'] && !t.head?.any fun c => labelMarkRanges.contains c.toNat

/-- Dots between labels, in any of their shapes. -/
def isDot (c : Char) : Bool :=
  c == '.' || c == '。' || c == '．' || c == '｡'

/-- Labels with dots between them, and perhaps a dot at the end. -/
def isName (t : Text) : Bool :=
  let labels := Text.splitOn '.' (t.map fun c => if isDot c then '.' else c)
  (if labels.getLast? = some [] then labels.dropLast else labels).all isLabel

/-! ## Faults -/

inductive Fault where
  | fourNumbers (host : Text)
  | groups (host : Text)
  | name (host : Text)
deriving DecidableEq, Repr

def Fault.message : Fault → Text
  | fourNumbers host => "Invalid IPv4 address: ".toList ++ host.quoted
  | groups host => "Invalid IPv6 address: ".toList ++ host.quoted
  | name host => "Invalid IDNA hostname: ".toList ++ host.quoted

def bracketed? : Text → Option Text
  | '[' :: t => if t.getLast? = some ']' then some t.dropLast else none
  | _ => none

def fault? (host : Text) : Option Fault :=
  if looksNumeric host then if isFourNumbers host then none else some (.fourNumbers host)
  else
    match bracketed? host with
    | some t => if isGroups t then none else some (.groups host)
    | none => if host.all (·.toNat < 128) || isName host then none else some (.name host)

end CodeSmell.Service.Host
