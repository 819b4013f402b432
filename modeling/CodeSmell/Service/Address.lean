import CodeSmell.Decimal.Integer
import CodeSmell.Service.Host
import CodeSmell.Text.Utf8

/-!
# Addresses of requests

An address may begin with a scheme and an authority; then come a path, a query and a fragment. An
address without a scheme or without a host is taken from the root of the service. Segments of dots are
taken out of the path, and escapes in it stand for the characters they name.

These are rules of the client that sends requests, not of the service: they decide whether a request gets to the
service and for which path it asks there. No statement about the service rests on them.

* `Address.parse`: an address taken apart;
* `Address.Fault`: why an address cannot be used;
* `Address.percentDecode`: a text with its escapes replaced;
* `Address.destination`: where an address leads.
-/

namespace CodeSmell.Service

/-- Who asks, the host and its port, as they are written in an address. -/
structure Authority where
  user : Text := []
  host : Text := []
  port : Text := []
deriving DecidableEq, Repr

/-- An address: its scheme, its authority, its path and its query, without the fragment. -/
structure Address where
  scheme : Text := []
  authority : Authority := {}
  path : Text := []
  query : Text := []
deriving DecidableEq, Repr

/-! ## Authorities -/

namespace Authority

/-- The text before the last `c`, and the text after it. -/
def splitLast? (c : Char) (t : Text) : Option (Text × Text) :=
  let tail := (t.reverse.takeWhile (· != c)).reverse
  if tail.length = t.length then none else some (t.take (t.length - tail.length - 1), tail)

/-- The host at the beginning of a text, and what follows it. A host in brackets ends at the last bracket
and any other one before the first colon. -/
def splitHost (t : Text) : Text × Text :=
  match t.head?, splitLast? ']' t with
  | some '[', some (host, rest) => (host ++ [']'], rest)
  | _, _ => (t.before ':', t.dropWhile (· != ':'))

/-- Takes an authority apart. The user stands before the last at sign, the port behind a colon. -/
def parse (t : Text) : Authority :=
  let (user, t) := (splitLast? '@' t).getD ([], t)
  let (host, t) := splitHost t
  { user, host, port := (Text.after? [':'] t).getD t }

def isEmpty (a : Authority) : Bool :=
  a.user.isEmpty && a.host.isEmpty && a.port.isEmpty

/-- The ports that need not be written. -/
def usualPorts : List (Text × Int) :=
  [("ftp".toList, 21), ("http".toList, 80), ("https".toList, 443), ("ws".toList, 80), ("wss".toList, 443)]

/-- The host and, unless it is the usual one of the scheme, the port. -/
def place (scheme : Text) (a : Authority) : Text :=
  match readInteger a.port with
  | .ok n => if usualPorts.contains (scheme, n) then a.host else a.host ++ ':' :: Text.ofInt n
  | .error _ => a.host

end Authority

namespace Address

inductive Fault where
  | tooLong
  | notPrintable (c : Char) (position : Nat)
  | host (fault : Host.Fault)
  | port (written : Text)
  | doubleSlash
  | leadingColon
  | pathTooLong
  | queryTooLong
deriving DecidableEq, Repr

def Fault.message : Fault → Text
  | tooLong => "URL too long".toList
  | notPrintable c position =>
    "Invalid non-printable ASCII character in URL, ".toList ++ Text.quoted [c] ++
      " at position ".toList ++ Text.ofNat position ++ ['.']
  | host fault => fault.message
  | port written => "Invalid port: ".toList ++ written.quoted
  | doubleSlash => "Relative URLs cannot have a path starting with '//'".toList
  | leadingColon => "Relative URLs cannot have a path starting with ':'".toList
  | pathTooLong => "URL component 'path' too long".toList
  | queryTooLong => "URL component 'query' too long".toList

/-! ## Parts -/

def isSchemeChar (c : Char) : Bool :=
  Text.isAsciiLetter c || Text.isAsciiDigit c || c == '+' || c == '.' || c == '-'

/-- The scheme at the beginning of an address, and what follows its colon. -/
def splitScheme (t : Text) : Text × Text :=
  let scheme := t.takeWhile isSchemeChar
  match t.drop scheme.length with
  | ':' :: rest => if scheme.head?.all Text.isAsciiLetter then (scheme, rest) else ([], t)
  | _ => ([], t)

/-- The authority after two slashes at the beginning, and what follows it. -/
def splitAuthority : Text → Text × Text
  | '/' :: '/' :: t =>
    let authority := t.takeWhile fun c => c != '/' && c != '?' && c != '#'
    (authority, t.drop authority.length)
  | t => ([], t)

def parse (t : Text) : Address :=
  let (scheme, t) := splitScheme t
  let (authority, t) := splitAuthority t
  let path := t.takeWhile fun c => c != '?' && c != '#'
  let query := match t.drop path.length with
    | '?' :: rest => Text.before '#' rest
    | _ => []
  { scheme, authority := Authority.parse authority, path, query }

/-- Whether an address is taken from the root of the service. -/
def isRelative (a : Address) : Bool :=
  a.scheme.isEmpty || a.authority.host.isEmpty

/-! ## Paths -/

/-- Adds a segment to the segments before it, which are in reverse. -/
def addSegment (segments : List Text) (s : Text) : List Text :=
  if s = ['.'] then segments
  -- nothing is above the root
  else if s = ['.', '.'] then if segments = [[]] then segments else segments.tail
  else s :: segments

def dropDots (path : Text) : Text :=
  ['/'].intercalate ((path.splitOn '/').foldl addSegment []).reverse

/-- The path of a relative address, from the root of the service. -/
def rootPath (a : Address) : Text :=
  let path := if a.scheme.isEmpty && a.authority.isEmpty then a.path else dropDots a.path
  '/' :: path.dropWhile (· == '/')

/-- The path of an address as it is sent. -/
def sentPath (a : Address) : Text :=
  if a.isRelative then dropDots a.rootPath
  else
    let path := dropDots a.path
    if path.isEmpty then ['/'] else path

/-! ## Escapes -/

/-- The character that an escape stands for. A byte that is no character by itself is read as the
replacement character; no path of the service has one. -/
def escaped (n : Nat) : Char :=
  if n < 128 then Char.ofNat n else '\ufffd'

/-- The text with its escapes replaced: a percent sign and two hexadecimal digits. -/
def percentDecode : Text → Text
  | '%' :: a :: b :: t =>
    match Text.hexValue? a, Text.hexValue? b with
    | some high, some low => escaped (16 * high + low) :: percentDecode t
    | _, _ => '%' :: percentDecode (a :: b :: t)
  | c :: t => c :: percentDecode t
  | [] => []

/-! ## Faults -/

/-- The longest address and the longest part of one, in characters. -/
def maxLength : Nat := 65536

/-- The number of characters of a text with escapes for blanks, for the characters `marks`, and for what is
not ASCII. -/
def sentLength (marks t : Text) : Nat :=
  t.foldl (fun n c =>
    n + if 32 < c.toNat && c.toNat < 127 && !marks.contains c then 1 else 3 * Utf8.size [c]) 0

def authorityFault? (a : Authority) : Option Fault :=
  match Host.fault? a.host with
  | some fault => some (.host fault)
  | none =>
    match readInteger a.port with
    | .ok _ => none
    | .error _ => if a.port.isEmpty then none else some (.port a.port)

/-- The fault of a path that no scheme and no authority stand before. -/
def pathFault? (a : Address) : Option Fault :=
  if !a.scheme.isEmpty || !a.authority.isEmpty then none
  else if a.path.take 2 = ['/', '/'] then some .doubleSlash
  else if a.path.head? = some ':' then some .leadingColon
  else none

/-- The fault of a part that is put behind the root of the service. -/
def partFault? (a : Address) : Option Fault :=
  if !a.isRelative then none
  else if maxLength < sentLength ['"', '<', '>', '\x60', '\x7b', '\x7d'] a.rootPath then some .pathTooLong
  else if maxLength < sentLength ['"', '<', '>'] a.query then some .queryTooLong
  else none

/-- The fault of a text that is no address at all. -/
def textFault? (t : Text) : Option Fault :=
  if maxLength < t.length then some .tooLong
  else
    (t.zipIdx.find? fun (c, _) => c.toNat < 32 || c.toNat = 127).map fun (c, position) =>
      .notPrintable c position

def fault? (t : Text) : Option Fault :=
  let a := parse t
  textFault? t <|> authorityFault? a.authority <|> pathFault? a <|> partFault? a

/-! ## Destinations -/

/-- Where an address leads: the scheme in small letters, the host and port, and the path there. -/
structure Destination where
  scheme : Text
  place : Text
  path : Text
deriving DecidableEq, Repr

def destination (t : Text) : Except Fault Destination :=
  let a := parse t
  -- escapes are replaced by the client, and again by the service
  let path := percentDecode (percentDecode a.sentPath)
  match fault? t with
  | some fault => .error fault
  | none =>
    if a.isRelative then .ok { scheme := "http".toList, place := [], path }
    else .ok { scheme := a.scheme.map Char.toLower, place := a.authority.place a.scheme, path }

end Address

end CodeSmell.Service
