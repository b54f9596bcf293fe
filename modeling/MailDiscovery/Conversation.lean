import MailDiscovery.Failure

/-!
Talk with the world outside. A conversation asks an environment and keeps a record of what it asked and heard.
-/

namespace MailDiscovery

/-- The world outside: what servers answer may depend on every request before. -/
structure Environment where
  transport : List Http.Request → Http.Request → Except TransportError Http.Response
  directory : String → List String
  serviceHost : String → Option String
  /-- Whether a redirection that nobody vouches for may be followed. -/
  approves : String → Bool

inductive Event where
  | exchange (request : Http.Request) (outcome : Except TransportError Http.Response)
  | directory (domain : String)
  | records (domain : String)
  | approval (url : String)

namespace Event

def request? : Event → Option Http.Request
  | exchange request _ => some request
  | _ => none

end Event

abbrev Record := List Event

namespace Record

def requests (log : Record) : List Http.Request :=
  log.filterMap Event.request?

end Record

abbrev Conversation (α : Type) := ReaderT Environment (StateM Record) α

namespace Conversation

def send (request : Http.Request) : Conversation (Except TransportError Http.Response) :=
  fun env log =>
    let outcome := env.transport log.requests request
    (outcome, log ++ [.exchange request outcome])

def lookUp (domain : String) : Conversation (List String) :=
  fun env log => (env.directory domain, log ++ [.directory domain])

def locate (domain : String) : Conversation (Option String) :=
  fun env log => (env.serviceHost domain, log ++ [.records domain])

def approve (url : Uri) : Conversation Bool :=
  fun env log => (env.approves url.text, log ++ [.approval url.text])

end Conversation

end MailDiscovery
