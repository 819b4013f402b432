import CodeSmell.Command.Usage
import CodeSmell.Inspect
import CodeSmell.Json.Encoding
import CodeSmell.Json.Reader
import CodeSmell.Report
import CodeSmell.Service.Address

/-!
# The service

The service analyses code that is sent to it.

* `Endpoint`: the places that requests go to;
* `BodyFault`: why the body of a request holds no code;
* `readCode`: the code in the body of a request;
* `analyzeCode`, `reportCode`: the answers to code that is sent;
* `respond`: the answer to a request for a path;
* `send`: the answer to a request for an address;
* `sendAll`: the answers to several requests.
-/

namespace CodeSmell.Service

inductive Endpoint where
  | health
  | analyze
  | report
deriving DecidableEq, Repr

namespace Endpoint

def all : List Endpoint := [.health, .analyze, .report]

def path : Endpoint → Text
  | health => "/api/health".toList
  | analyze => "/api/analyze".toList
  | report => "/api/report".toList

def method : Endpoint → Text
  | health => "GET".toList
  | _ => "POST".toList

end Endpoint

structure Request where
  method : Text
  path : Text
  body : Bytes := []
deriving DecidableEq, Repr

structure Response where
  status : Nat
  body : Json
deriving Repr, Inhabited

/-- The path without slashes at its end, and then without one line feed. -/
def trimPath (path : Text) : Text :=
  Text.chomp (path.reverse.dropWhile (· == '/')).reverse

/-- The place a path leads to. Slashes at its end do not matter. -/
def endpoint? (path : Text) : Option Endpoint :=
  Endpoint.all.find? (·.path = trimPath path)

/-- Pages about the service itself, for people to look at. -/
def pages : List Text :=
  ["/openapi.json", "/api/docs", "/docs/oauth2-redirect", "/redoc"].map String.toList

/-! ## Bodies -/

/-- Why the body of a request holds no code. -/
inductive BodyFault where
  | empty
  | malformed (fault : Json.Fault)
  | unreadable
  | notAnObject (body : Json)
  | noCode (body : Json)
  | notAText (value : Json)
deriving Repr

def codeOf : Json → Except BodyFault Text
  | .object fields =>
    match Json.field? (.object fields) "code" with
    | none => .error (.noCode (.object fields))
    | some (.text t) => .ok t
    | some v => .error (.notAText v)
  | v => .error (.notAnObject v)

def readCode (body : Bytes) : Except BodyFault Text :=
  if body.isEmpty then .error .empty
  else
    match Json.decode? body with
    | none => .error .unreadable
    | some t =>
      match Json.parse t with
      | .ok v => codeOf v
      | .error f =>
        .error (if f.cause = .tooManyDigits ∨ f.cause = .tooDeep then .unreadable else .malformed f)

/-! ## Answers -/

def refusal (status : Nat) (detail : Json) : Response :=
  { status, body := .record [("detail", detail)] }

/-- What is said about the place of a fault in a body. -/
def complaint (kind : String) (place : List Json) (text : String) (input : Json)
    (context : List (String × Json)) : Json :=
  .list [.record ([("type", .ofString kind), ("loc", .list (.ofString "body" :: place)),
    ("msg", .ofString text), ("input", input)] ++ context)]

def BodyFault.response : BodyFault → Response
  | empty => refusal 422 (complaint "missing" [] "Field required" .null [])
  | malformed f =>
    refusal 422 (complaint "json_invalid" [.ofNat f.position] "JSON decode error" (.record [])
      [("ctx", .record [("error", .text f.cause.message)])])
  | unreadable => refusal 400 (.ofString "There was an error parsing the body")
  | notAnObject v =>
    refusal 422 (complaint "model_attributes_type" []
      "Input should be a valid dictionary or object to extract fields from" v [])
  | noCode v => refusal 422 (complaint "missing" [.ofString "code"] "Field required" v [])
  | notAText v =>
    refusal 422 (complaint "string_type" [.ofString "code"] "Input should be a valid string" v [])

def tooLarge (settings : Settings) (code : Text) : Bool :=
  settings.maxFileSize < (Utf8.size code : Int)

/-- The answer to code that is too large, or else the one given. -/
def limited (settings : Settings) (code : Text) (body : Json) : Response :=
  if tooLarge settings code then
    refusal 413 (.text ("Code exceeds ".toList ++ Text.ofInt settings.maxFileSize ++ " bytes".toList))
  else { status := 200, body }

/-- The findings in code, their number, and its score. -/
def analyzeCode (settings : Settings) (code : Text) : Response :=
  let findings := CodeSmell.analyze code
  limited settings code (.record [("findings", .list (findings.map Finding.toJson)),
    ("count", .ofNat findings.length), ("score", .ofNat (healthScore findings))])

def reportCode (settings : Settings) (code : Text) : Response :=
  limited settings code (.record [("report", .text (formatReport (CodeSmell.analyze code)))])

def healthResponse : Response :=
  { status := 200, body := .record [("status", .ofString "ok"), ("version", .text versionText)] }

def answer (settings : Settings) (e : Endpoint) (body : Bytes) : Response :=
  match e with
  | .health => healthResponse
  | .analyze => answerWith analyzeCode
  | .report => answerWith reportCode
where
  /-- The answer to the code in the body. -/
  answerWith (f : Settings → Text → Response) : Response :=
    match readCode body with
    | .ok code => f settings code
    | .error fault => fault.response

/-- The answer to a method that a path does not take. -/
def wrongMethod : Response :=
  refusal 405 (.ofString "Method Not Allowed")

/-- The answer about a path that is no endpoint. What stands on a page is not told here. -/
def respondPage (r : Request) : Response :=
  if !pages.contains (trimPath r.path) then refusal 404 (.ofString "Not Found")
  else if r.method = "GET".toList then { status := 200, body := .null }
  else wrongMethod

def respond (settings : Settings) (r : Request) : Response :=
  match endpoint? r.path with
  | none => respondPage r
  | some e => if e.method = r.method then answer settings e r.body else wrongMethod

/-! ## Requests by address -/

inductive Failure where
  | address (fault : Address.Fault)
  | unknownScheme (scheme : Text)
  | port (fault : IntegerFault)
  /-- The scheme asks for a lasting connection, and the service has none. -/
  | lasting
  /-- The answer would hold a number that is not finite, which cannot be written. -/
  | notFinite
  /-- The answer has no body, as the method wants it. -/
  | noBody
deriving DecidableEq, Repr

def Failure.message : Failure → Text
  | address fault => fault.message
  | unknownScheme scheme => scheme.quoted
  | port fault => fault.message
  | lasting => []
  | notFinite => "Out of range float values are not JSON compliant".toList
  | noBody => "Expecting value: line 1 column 1 (char 0)".toList

/-- Schemes of single requests. -/
def schemes : List Text :=
  ["http".toList, "https".toList]

/-- Schemes of lasting connections. -/
def lastingSchemes : List Text :=
  ["ws".toList, "wss".toList]

/-- The port of a place, if it has one: what stands behind the first colon. -/
def portOf (place : Text) : Except IntegerFault (Option Int) :=
  match place.dropWhile (· != ':') with
  | [] => .ok none
  | _ :: t => (readInteger t).map some

/-- The failure of a request on its way to the service. -/
def wayFailure? (d : Address.Destination) : Option Failure :=
  if !schemes.contains d.scheme && !lastingSchemes.contains d.scheme then some (.unknownScheme d.scheme)
  else
    -- a port that is none is reported before a scheme that no single request has
    match portOf d.place with
    | .error fault => some (.port fault)
    | .ok _ => if lastingSchemes.contains d.scheme then some .lasting else none

/-- The capital letters of a character that may stand in the name of a method. -/
def capitals (c : Char) : Text :=
  if c = 'ſ' then ['S'] else if c = 'ﬅ' ∨ c = 'ﬆ' then ['S', 'T'] else [c.toUpper]

/-- The answer to a request whose path is given as an address. Methods may be written in small letters. -/
def send (settings : Settings) (r : Request) : Except Failure Response := do
  let d ← (Address.destination r.path).mapError .address
  let r := { r with method := r.method.flatMap capitals, path := d.path }
  let a := respond settings r
  match wayFailure? d with
  | some failure => .error failure
  | none =>
    if !a.body.isFinite then .error .notFinite
    else if r.method = "HEAD".toList then .error .noBody
    else .ok a

/-- The answers to requests one after another. A request without an answer ends them all. -/
def sendAll (settings : Settings) (requests : List Request) : Except Failure (List Response) :=
  requests.mapM (send settings)

end CodeSmell.Service
