import MailDiscovery.Redirection
import MailDiscovery.Service.Client

namespace MailDiscovery.Client

def redirectTarget? (url : Uri) (r : Http.Response) : Option Uri :=
  (r.header? "location").bind url.resolve?

/-- The host that answers in the end, with what it advertises; nothing if there is no SOAP service at all. At most
`left` redirections to other hosts are followed. -/
def capabilities (c : Client) : (left : Nat) → (host : String) →
    Conversation (Except Failure (Option (String × EndpointSet)))
  | left, host =>
    match WellKnown.legacyHttps? host with
    | none => pure (.ok none)
    | some url => do
      match ← c.probe url with
      | none => pure (.ok none)
      | some response =>
        if response.isRedirection then
          match (redirectTarget? url response).bind Uri.host? with
          | none => pure (.ok none)
          | some next =>
            match left with
            | 0 => pure (.error .tooManyRedirections)
            | left + 1 => capabilities c left next
        else
          let endpoints := EndpointSet.ofHeaders fun name => (response.header? name).isSome
          pure (.ok (if endpoints.hasSoapVariant then some (host, endpoints) else none))

def endpoint (c : Client) (host : String) : Conversation (Except Failure (Option Uri)) := do
  match ← c.capabilities Redirection.limit host with
  | .error e => pure (.error e)
  | .ok none => pure (.ok none)
  | .ok (some (host, endpoints)) => pure (.ok (c.credential.select? host endpoints))

def approved (url : Uri) : Conversation (Option Uri) := do
  if ← Conversation.approve url then pure (some url) else pure none

def redirectCandidate (c : Client) (q : Query) (domain : String) : Conversation (Option Uri) :=
  match WellKnown.legacyHttp? ("autodiscover." ++ domain) with
  | none => pure none
  | some url => do
    match ← c.probe url with
    | none => pure none
    | some response =>
      if response.isRedirection then
        match redirectTarget? url response with
        | none => pure none
        | some target => if q.accepts target then approved target else pure none
      else pure none

def recordCandidate (domain : String) : Conversation (Option Uri) := do
  match ← Conversation.locate domain with
  | none => pure none
  | some host =>
    match WellKnown.legacyHttps? host with
    | none => pure none
    | some url => approved url

end MailDiscovery.Client
