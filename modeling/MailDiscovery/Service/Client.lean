import MailDiscovery.Conversation
import MailDiscovery.Query

namespace MailDiscovery

structure Config where
  version : ServerVersion := .latest
  /-- Milliseconds that a query may take. -/
  requestTimeout : Nat := 100000
  /-- Milliseconds that a probe may take. -/
  probeTimeout : Nat := 20000
  userAgent : String := "libautodiscover/0.1.0"
  directoryEnabled : Bool := true
  deriving DecidableEq, Repr

structure Client where
  config : Config
  credential : Credential
  deriving DecidableEq

namespace Credential

/-- The header that proves who asks; other credentials do so in the body. -/
def authorization (c : Credential) : Except Failure (List Http.Header) :=
  match c with
  | .basic username password => .ok [⟨"authorization", basicHeader username password, true⟩]
  | .oauth token =>
    if Http.isValue token.reveal then .ok [⟨"authorization", "Bearer " ++ token.reveal, true⟩]
    else .error .invalidToken
  | _ => .ok []

end Credential

namespace Client

def queryRequest (c : Client) (q : Query) (url : Uri) : Except Failure Http.Request := do
  let authorization ← c.credential.authorization
  if Http.isValue c.config.userAgent then
    .ok {
      method := .post
      url
      headers := authorization ++
        [⟨"content-type", Query.contentType, false⟩, ⟨"user-agent", c.config.userAgent, false⟩]
      body := q.render url c.config.version c.credential
      timeout := c.config.requestTimeout }
  else .error .invalidRequest

def readRedirection (q : Query) (url : Uri) (r : Http.Response) : Except Failure Answer :=
  match r.header? "location" with
  | none => .error .missingLocation
  | some location =>
    match url.resolve? location with
    | none => .error .invalidLocation
    | some target => if q.accepts target then .ok (q.redirection target) else .error (.redirectionRejected target)

/-- SOAP services report faults with a status that is not a success. -/
def readRefusal (q : Query) (r : Http.Response) : Failure :=
  match q.isSoap, q.read r.body with
  | true, .error (.fault code reason) => .unreadable (.fault code reason)
  | _, _ => .unexpectedStatus r.status

def readAnswer (q : Query) (url : Uri) (r : Http.Response) : Except Failure Answer :=
  if r.isRedirection then readRedirection q url r
  else if r.isSuccess then (q.read r.body).mapError .unreadable
  else .error (readRefusal q r)

def query (c : Client) (q : Query) (url : Uri) : Conversation (Except Failure Answer) :=
  match c.queryRequest q url with
  | .error e => pure (.error e)
  | .ok request => do
    match ← Conversation.send request with
    | .error e => pure (.error (.transport e))
    | .ok response => pure (readAnswer q url response)

def probeRequest? (c : Client) (url : Uri) : Option Http.Request :=
  if Http.isValue c.config.userAgent then
    some {
      method := .get
      url
      headers := [⟨"user-agent", c.config.userAgent, false⟩]
      body := ""
      timeout := c.config.probeTimeout }
  else none

def probe (c : Client) (url : Uri) : Conversation (Option Http.Response) :=
  match c.probeRequest? url with
  | none => pure none
  | some request => do
    let outcome ← Conversation.send request
    pure outcome.toOption

end Client

end MailDiscovery
