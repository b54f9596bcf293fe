import MailDiscovery.Service.Assignment

/-!
Settings of a user from legacy services. An error that a service reports ends the search, unless the directory named
that service: then it is kept until all other candidates have failed.
-/

namespace MailDiscovery

/-- Failures for one address. Of those that services from the directory report, the first is kept. -/
structure LegacyFailures where
  last : Option Failure := none
  directory : Option LegacyError := none

namespace LegacyFailures

def keepFirst (f : LegacyFailures) (e : LegacyError) : LegacyFailures :=
  { f with directory := f.directory.or (some e) }

def verdict (f : LegacyFailures) : Failure :=
  match f.directory with
  | some e => .directoryService e
  | none => .notLocated f.last

end LegacyFailures

inductive LegacyStep where
  | found (settings : Settings UserSetting) (origin : Origin)
  | restart (address : String)
  | failed (e : Failure)
  | exhausted (failures : LegacyFailures)

namespace Client

def queryLegacy (c : Client) (address : String) (url : Uri) : Conversation (Except Failure LegacyAnswer) := do
  let outcome ← c.query (.legacy address) url
  pure (outcome.bind Answer.legacy?)

/-- Tries candidates in turn; one that redirects to a URL is tried again there. Also says how many redirections were
followed. -/
def tryLegacy (c : Client) (address : String) (left : Nat) (failures : LegacyFailures)
    (candidates : List (Candidate Uri)) : Conversation (LegacyStep × Nat) :=
  match candidates with
  | [] => pure (.exhausted failures, 0)
  | candidate :: rest => do
    match ← c.queryLegacy address candidate.target with
    | .error e =>
      if e.isFatal then pure (.failed e, 0)
      else tryLegacy c address left { failures with last := some e } rest
    | .ok (.settings found) => pure (.found found candidate.origin, 0)
    | .ok (.redirectAddress target) => pure (.restart target, 0)
    | .ok (.error e) =>
      if candidate.origin = .directory then tryLegacy c address left (failures.keepFirst e) rest
      else pure (.failed (.legacyService e), 0)
    | .ok (.redirectUrl target) =>
      match left with
      | 0 => pure (.failed .tooManyRedirections, 0)
      | left + 1 => do
        let (step, followed) ← match Uri.ofText? target with
          | some url => tryLegacy c address left failures ({ candidate with target := url } :: rest)
          | none => tryLegacy c address left failures rest
        pure (step, followed + 1)
termination_by left + candidates.length

def fallBackLegacy (c : Client) (address : String) (left : Nat) (origin : Origin)
    (candidate : Conversation (Option Uri)) : LegacyStep × Nat → Conversation (LegacyStep × Nat)
  | (.exhausted failures, followed) => do
    let urls := (← candidate).toList.map fun url => ⟨url, origin⟩
    let (step, more) ← c.tryLegacy address (left - followed) failures urls
    pure (step, followed + more)
  | other => pure other

def legacyRound (c : Client) (address domain : String) (r : Redirection) : Conversation (LegacyStep × Nat) := do
  let listed := (← directoryUrls r domain).filterMap Uri.ofText?
  let urls : List (Candidate Uri) :=
    listed.map (⟨·, .directory⟩) ++
      ((WellKnown.hostGuesses domain).filterMap WellKnown.legacyHttps?).map (⟨·, .guess⟩)
  c.tryLegacy address r.left {} urls
    >>= c.fallBackLegacy address r.left .redirection (c.redirectCandidate (.legacy address) domain)
    >>= c.fallBackLegacy address r.left .records (recordCandidate domain)

def discoverLegacy (c : Client) (r : Redirection) (address : String) :
    Conversation (Except Failure (Settings UserSetting × Origin)) :=
  match MailAddress.domain address with
  | .error e => pure (.error (.invalidAddress e))
  | .ok domain => do
    match ← c.legacyRound address domain r with
    | (.found found origin, _) => pure (.ok (found, origin))
    | (.failed e, _) => pure (.error e)
    | (.exhausted failures, _) => pure (.error failures.verdict)
    | (.restart target, followed) =>
      match _h : (r.spend followed).hop? with
      | none => pure (.error .tooManyRedirections)
      | some next => c.discoverLegacy (next.visit target).1 (next.visit target).2
termination_by r.left
decreasing_by
  rw [Redirection.left_visit]
  exact Redirection.left_hop?_lt (by assumption)

end Client

namespace Service

def legacyUserSettings (s : Service) (address : String) (settings : List UserSetting) :
    Conversation (Except Failure (Response UserSetting) × Service) := do
  match s.locator with
  | .undetermined => do
    match ← s.client.discoverLegacy (.start (some address) s.client.config.directoryEnabled) address with
    | .error e => pure (.error e, s)
    | .ok (found, origin) =>
      pure (.ok (LegacyAnswer.toResponse address settings (.settings found)),
        { s with isExternal := some (origin != .directory) })
  | .url url _ => do
    match WellKnown.legacyOn? url with
    | none => pure (.error .invalidRequest, s)
    | some url => do
      let outcome ← s.client.queryLegacy address url
      pure (outcome.map (LegacyAnswer.toResponse address settings), s)
  | .domain domain => do
    match WellKnown.legacyHttps? domain with
    | none => pure (.error .invalidUrl, s)
    | some url => do
      let outcome ← s.client.queryLegacy address url
      pure (outcome.map (LegacyAnswer.toResponse address settings), s)

end Service

end MailDiscovery
