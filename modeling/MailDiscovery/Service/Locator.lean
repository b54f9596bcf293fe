import MailDiscovery.Service.Client

namespace MailDiscovery

inductive Locator where
  | undetermined
  | url (url : Uri) (host : String)
  /-- To be looked for at this domain alone. -/
  | domain (domain : String)
  deriving DecidableEq, Repr

namespace Locator

def ofUrl (u : Uri) : Except Failure Locator :=
  match u.host? with
  | none => .error (.misuse .hostlessUrl)
  | some host => .ok (.url u host)

def url? : Locator → Option Uri
  | .url u _ => some u
  | _ => none

def domain? : Locator → Option String
  | .undetermined => none
  | .url _ host => some host
  | .domain name => some name

def describe : Locator → String
  | .undetermined => "Undetermined"
  | .url u host => "ExplicitUrl \x7b url: " ++ u.text ++ ", domain: " ++ Text.quoted host ++ " \x7d"
  | .domain name => "ExplicitDomain(" ++ Text.quoted name ++ ")"

end Locator

structure Service where
  client : Client
  locator : Locator := .undetermined
  /-- Whether the service was found outside the directory, once one was discovered. -/
  isExternal : Option Bool := none
  deriving DecidableEq

namespace Service

def adopt (s : Service) (url : Uri) : Service :=
  match Locator.ofUrl url with
  | .ok locator => { s with locator }
  | .error _ => s

def setUrl (s : Service) (url : Uri) : Except Failure Service :=
  (Locator.ofUrl url).map fun locator => { s with locator }

def setDomain (s : Service) (domain : String) : Service :=
  { s with locator := .domain domain }

def reset (s : Service) : Service :=
  { s with locator := .undetermined }

def url? (s : Service) : Option Uri := s.locator.url?

def domain? (s : Service) : Option String := s.locator.domain?

end Service

namespace Config

def describe (c : Config) : String :=
  "Config \x7b requested_server_version: " ++ c.version.identifier ++
    ", request_timeout: " ++ Text.duration c.requestTimeout ++
    ", probe_timeout: " ++ Text.duration c.probeTimeout ++
    ", user_agent: " ++ Text.quoted c.userAgent ++
    ", enable_scp_lookup: " ++ toString c.directoryEnabled ++ " \x7d"

end Config

namespace Service

def describe (s : Service) : String :=
  "AutodiscoverService \x7b config: " ++ s.client.config.describe ++
    ", credentials: " ++ s.client.credential.describe ++
    ", locator: " ++ s.locator.describe ++ ", .. \x7d"

def report (s : Service) : String :=
  s.url?.elim "" (fun url => "Autodiscover URL: " ++ url.text ++ "\n") ++
    s.isExternal.elim "" fun external => "Located externally: " ++ toString external ++ "\n"

end Service

end MailDiscovery
