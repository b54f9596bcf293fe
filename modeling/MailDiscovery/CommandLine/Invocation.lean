import MailDiscovery.CommandLine.Progress
import MailDiscovery.Service.BulkSettings
import MailDiscovery.Service.UserSettings

namespace MailDiscovery.CommandLine

inductive Command where
  | userSettings (address : String) (settings : List UserSetting)
  | domainSettings (domains : List String) (settings : List DomainSetting)
  deriving DecidableEq, Repr

namespace Command

def standardUserSettings : List UserSetting := [.userDisplayName, .internalEwsUrl, .externalEwsUrl]

def standardDomainSettings : List DomainSetting := [.externalEwsUrl, .externalEwsVersion]

def chosenOr {α : Type} (standard : List α) : List α → List α
  | [] => standard
  | chosen => chosen

def ofUserWords (words : List String) : Except UsageError Command := do
  let p ← Progress.readAll .userSettings words
  match p.operands with
  | [] => .error .argumentNeeded
  | address :: _ =>
    let chosen := p.given.filterMap fun | .userSetting name => some name | _ => none
    .ok (userSettings address (chosenOr standardUserSettings chosen))

def ofDomainWords (words : List String) : Except UsageError Command := do
  let p ← Progress.readAll .domainSettings words
  if p.operands.isEmpty then .error .argumentNeeded
  else
    let chosen := p.given.filterMap fun | .domainSetting name => some name | _ => none
    .ok (domainSettings p.operands (chosenOr standardDomainSettings chosen))

def helpFor : List String → UsageError
  | [] => .helpWanted
  | [word] => if (CommandName.ofText? word).isSome then .helpWanted else .unknownCommand
  | _ => .unknownCommand

def ofWords (name : CommandName) (words : List String) : Except UsageError Command :=
  match name with
  | .userSettings => ofUserWords words
  | .domainSettings => ofDomainWords words
  | .help => .error (helpFor words)

end Command

structure Invocation where
  url : Option Uri
  domain : Option String
  serverVersion : ServerVersion
  auth : AuthMethod
  username : Option String
  acceptRedirects : Bool
  directoryEnabled : Bool
  logLevel : LogLevel
  command : Command
  deriving DecidableEq, Repr

namespace Invocation

def ofGiven (given : List Given) (command : Command) : Invocation where
  url := given.findSome? fun | .url u => some u | _ => none
  domain := given.findSome? fun | .domain name => some name | _ => none
  serverVersion := (given.findSome? fun | .serverVersion v => some v | _ => none).getD .latest
  auth := (given.findSome? fun | .auth method => some method | _ => none).getD .basic
  username := given.findSome? fun | .username name => some name | _ => none
  acceptRedirects := given.contains .acceptRedirects
  directoryEnabled := !given.contains .noDirectory
  logLevel := (given.findSome? fun | .verbose level => some level | _ => none).getD .warn
  command := command

def check (given : List Given) : Except UsageError Unit :=
  let has (s : Switch) := given.any (·.switch == s)
  if has .url && has .domain then .error .conflict
  else if given.contains (.auth .basic) && !has .username then .error .argumentNeeded
  else .ok ()

def ofWords (words : List String) : Except UsageError Invocation := do
  let (p, rest?) ← Progress.read .top {} words
  match rest? with
  | none =>
    let p ← p.settle
    .error (if p.given.isEmpty then .nothingGiven else .commandNeeded)
  | some (name, rest) =>
    let command ← Command.ofWords name rest
    let p ← p.settle
    check p.given
    .ok (ofGiven p.given command)

end Invocation

inductive SetupError where
  | usernameNeeded
  | tokenNeeded
  | failed (e : Failure)

namespace SetupError

def message : SetupError → String
  | usernameNeeded => "username is required"
  | tokenNeeded => "failed to determine oauth token: environment variable not found"
  | failed e => e.message

end SetupError

namespace Invocation

def credential (i : Invocation) (secret : Option String) : Except SetupError Credential :=
  match i.auth, i.username, secret with
  | .none, _, _ => .ok .anonymous
  | .basic, none, _ => .error .usernameNeeded
  | .basic, some username, _ => .ok (.basic username (secret.map Secret.mk))
  | .oauth, _, none => .error .tokenNeeded
  | .oauth, _, some token => .ok (.oauth ⟨token⟩)

def locator (i : Invocation) : Except Failure Locator :=
  match i.url, i.domain with
  | some url, _ => Locator.ofUrl url
  | none, some domain => .ok (.domain domain)
  | none, none => .ok .undetermined

def service (i : Invocation) (secret : Option String) : Except SetupError Service := do
  let credential ← i.credential secret
  let locator ← i.locator.mapError .failed
  .ok {
    client := {
      config := { version := i.serverVersion, directoryEnabled := i.directoryEnabled }
      credential }
    locator }

end Invocation

namespace Command

def run (s : Service) : Command → Conversation (Except Failure String)
  | userSettings address settings => do
    let (outcome, s) ← s.userSettings address settings
    pure (outcome.map fun response => response.report ++ s.report)
  | domainSettings domains settings => do
    let (outcome, s) ← s.domainsSettings domains none settings
    pure (outcome.map fun c => String.join (c.responses.map Response.report) ++ s.report)

end Command

end MailDiscovery.CommandLine
