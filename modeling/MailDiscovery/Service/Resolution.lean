import MailDiscovery.Service.Locator
import MailDiscovery.Service.Probe

/-!
Finding the SOAP service that answers a query. Candidates are tried one after the other: hosts from the directory,
hosts guessed from the domain, the host of a redirection, the host of a service record.
-/

namespace MailDiscovery

inductive Origin where
  | directory
  | guess
  | redirection
  | records
  deriving DecidableEq, Repr

structure Candidate (α : Type) where
  target : α
  origin : Origin
  deriving DecidableEq, Repr

inductive Search (α : Type) where
  | found (result : α) (origin : Origin)
  | failed (e : Failure)
  | exhausted (last : Option Failure)

structure Served where
  answer : Answer
  url : Uri

namespace Collection

def check {ν : Type} (c : Collection ν) : Except Failure Unit :=
  if c.code = .noError then .ok () else .error (.service c.code c.message)

end Collection

namespace Answer

def check : Answer → Except Failure Unit
  | .legacy _ => .ok ()
  | .users c => c.check
  | .domains c => c.check

end Answer

namespace Client

def follow (c : Client) (q : Query) : (left : Nat) → (url : Uri) →
    Conversation (Except Failure Served × Nat)
  | left, url => do
    match ← c.query q url with
    | .error e => pure (.error e, 0)
    | .ok answer =>
      match answer.verdict with
      | .redirectUrl target =>
        match left with
        | 0 => pure (.error .tooManyRedirections, 0)
        | left + 1 =>
          match Uri.ofText? target with
          | none => pure (.error .invalidUrl, 1)
          | some next => do
            let (outcome, followed) ← follow c q left next
            pure (outcome, followed + 1)
      | _ => pure (.ok ⟨answer, url⟩, 0)

/-- An error that a host reports for the query as a whole counts as its failure. -/
def attempt (c : Client) (q : Query) (left : Nat) (host : String) :
    Conversation (Except Failure Served × Nat) := do
  match ← c.endpoint host with
  | .error e => pure (.error e, 0)
  | .ok none => pure (.error (.noUsableEndpoint host), 0)
  | .ok (some url) => do
    let (outcome, followed) ← c.follow q left url
    pure (outcome.bind fun served => served.answer.check.map fun _ => served, followed)

def tryHosts (c : Client) (q : Query) (left : Nat) (last : Option Failure) :
    List (Candidate String) → Conversation (Search Served × Nat)
  | [] => pure (.exhausted last, 0)
  | candidate :: rest => do
    let (outcome, followed) ← c.attempt q left candidate.target
    match outcome with
    | .ok served => pure (.found served candidate.origin, followed)
    | .error e =>
      if e.isFatal then pure (.failed e, followed)
      else do
        let (search, more) ← tryHosts c q (left - followed) (some e) rest
        pure (search, followed + more)

def fallBack (c : Client) (q : Query) (left : Nat) (origin : Origin) (candidate : Conversation (Option Uri)) :
    Search Served × Nat → Conversation (Search Served × Nat)
  | (.exhausted last, followed) => do
    let hosts := ((← candidate).bind Uri.host?).toList.map fun host => ⟨host, origin⟩
    let (search, more) ← c.tryHosts q (left - followed) last hosts
    pure (search, followed + more)
  | other => pure other

def directoryUrls (r : Redirection) (domain : String) : Conversation (List String) :=
  if r.directory then Conversation.lookUp domain else pure []

def discover (c : Client) (q : Query) (domain : String) (r : Redirection) :
    Conversation (Search Served × Nat) := do
  let listed := (← directoryUrls r domain).filterMap fun url => (Uri.ofText? url).bind Uri.host?
  let hosts : List (Candidate String) :=
    listed.map (⟨·, .directory⟩) ++ (WellKnown.hostGuesses domain).map (⟨·, .guess⟩)
  c.tryHosts q r.left none hosts
    >>= c.fallBack q r.left .redirection (c.redirectCandidate q domain)
    >>= c.fallBack q r.left .records (recordCandidate domain)

end Client

namespace Service

def resolve (s : Service) (q : Query) (domain : String) (r : Redirection) :
    Conversation (Except Failure (Answer × Service) × Nat) := do
  match s.locator with
  | .url url _ => do
    let (outcome, followed) ← s.client.follow q r.left url
    pure (outcome.map fun served => (served.answer, s.adopt served.url), followed)
  | .domain domain => do
    match ← s.client.endpoint domain with
    | .error e => pure (.error e, 0)
    | .ok none => pure (.error (.notLocated (some (.noUsableEndpoint domain))), 0)
    | .ok (some url) => do
      let (outcome, followed) ← s.client.follow q r.left url
      pure (outcome.map fun served => (served.answer, s.adopt served.url), followed)
  | .undetermined => do
    match ← s.client.discover q domain r with
    | (.found served origin, followed) =>
      pure (.ok (served.answer,
        { s.adopt served.url with isExternal := some (origin != .directory) }), followed)
    | (.failed e, followed) => pure (.error e, followed)
    | (.exhausted last, followed) => pure (.error (.notLocated last), followed)

end Service

end MailDiscovery
