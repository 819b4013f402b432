import CodeSmell.Json.Value

/-!
# Writing JSON text

All characters other than printable ASCII are written as escapes of sixteen-bit units.

* `Json.quote`: a text between quotes;
* `Json.render`: a value on one line;
* `Json.renderIndented`: a value over several lines, two blanks deeper for each level.
-/

namespace CodeSmell.Json

def hexDigit (n : Nat) : Char :=
  if n < 10 then Char.ofNat ('0'.toNat + n) else Char.ofNat ('a'.toNat + n - 10)

def unitEscape (n : Nat) : String :=
  "\\u".push (hexDigit (n / 4096 % 16)) |>.push (hexDigit (n / 256 % 16))
    |>.push (hexDigit (n / 16 % 16)) |>.push (hexDigit (n % 16))

/-- Writes one character of a quoted text behind `out`. -/
def quoteChar (out : String) (c : Char) : String :=
  let n := c.toNat
  if c == '"' then out ++ "\\\""
  else if c == '\\' then out ++ "\\\\"
  else if 32 ≤ n && n < 127 then out.push c
  else if c == '\n' then out ++ "\\n"
  else if c == '\r' then out ++ "\\r"
  else if c == '\t' then out ++ "\\t"
  else if n == 8 then out ++ "\\b"
  else if n == 12 then out ++ "\\f"
  else if n < 0x10000 then out ++ unitEscape n
  else out ++ unitEscape (0xD800 + (n - 0x10000) / 0x400) ++ unitEscape (0xDC00 + (n - 0x10000) % 0x400)

def quote (out : String) (t : Text) : String :=
  (t.foldl quoteChar (out.push '"')).push '"'

/-- Layout of lists and objects: all on one line, or each item on a line of its own. -/
inductive Layout where
  | compact
  | indented
deriving DecidableEq, Repr

/-- What stands before an item at the given depth. -/
def Layout.lineBreak (out : String) (depth : Nat) : Layout → String
  | .compact => out
  | .indented => Nat.fold (2 * depth) (fun _ _ s => s.push ' ') (out.push '\n')

def Layout.colon : Layout → String
  | .compact => ":"
  | .indented => ": "

mutual

def write (l : Layout) (depth : Nat) (out : String) : Json → String
  | .null => out ++ "null"
  | .bool b => out ++ if b then "true" else "false"
  | .integer n => out ++ String.ofList (Text.ofInt n)
  | .decimal d => out ++ String.ofList d.text
  | .nonFinite name => out ++ String.ofList name
  | .text t => quote out t
  | .list [] => out ++ "[]"
  | .list (v :: vs) =>
    let out := write l (depth + 1) (l.lineBreak (out.push '[') (depth + 1)) v
    (l.lineBreak (writeItems l (depth + 1) out vs) depth).push ']'
  | .object [] => out ++ "\x7b\x7d"
  | .object ((k, v) :: fs) =>
    let out := quote (l.lineBreak (out.push '\x7b') (depth + 1)) k ++ l.colon
    let out := writeFields l (depth + 1) (write l (depth + 1) out v) fs
    (l.lineBreak out depth).push '\x7d'

def writeItems (l : Layout) (depth : Nat) (out : String) : List Json → String
  | [] => out
  | v :: vs => writeItems l depth (write l depth (l.lineBreak (out.push ',') depth) v) vs

def writeFields (l : Layout) (depth : Nat) (out : String) : List (Text × Json) → String
  | [] => out
  | (k, v) :: fs =>
    let out := quote (l.lineBreak (out.push ',') depth) k ++ l.colon
    writeFields l depth (write l depth out v) fs

end

def render (v : Json) : String :=
  write .compact 0 "" v

def renderIndented (v : Json) : String :=
  write .indented 0 "" v

end CodeSmell.Json
