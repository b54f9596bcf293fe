import MailDiscovery.Service.Assignment

namespace MailDiscovery.Service

def checkVersion (s : Service) (operation : Operation) : Except Failure Unit :=
  if operation.minimum.reaches s.client.config.version then .ok ()
  else .error (.versionTooOld operation s.client.config.version)

def collect {ν : Type} (s : Service) (q : Query) (select : Answer → Except Failure (Collection ν))
    (identities : List String) (domain : String) : Conversation (Except Failure (Collection ν) × Service) := do
  match ← s.resolve q domain (.start none s.client.config.directoryEnabled) with
  | (.error e, _) => pure (.error e, s)
  | (.ok (answer, s), _) => pure (select answer >>= (·.assign identities), s)

/-- The domain of the first address that has one; any will do to find the service. -/
def firstDomain? (addresses : List String) : Option String :=
  addresses.findSome? fun address => (MailAddress.domain address).toOption

def checkUsers (s : Service) (addresses : List String) (settings : List UserSetting) : Except Failure String := do
  s.checkVersion .usersSettings
  if addresses.isEmpty then .error (.misuse .noAddresses)
  else if settings.isEmpty then .error (.misuse .noSettings)
  else (firstDomain? addresses).elim (.error (.misuse .noValidAddress)) .ok

def usersSettings (s : Service) (addresses : List String) (settings : List UserSetting) :
    Conversation (Except Failure (Collection UserSetting) × Service) :=
  match s.checkUsers addresses settings with
  | .error e => pure (.error e, s)
  | .ok domain => s.collect (.users addresses settings) Answer.users? addresses domain

def checkDomains (s : Service) (domains : List String) (settings : List DomainSetting) : Except Failure String := do
  s.checkVersion .domainSettings
  match domains with
  | [] => .error (.misuse .noDomains)
  | first :: _ =>
    if domains.any Text.isBlankText then .error (.misuse .blankDomain)
    else if settings.isEmpty then .error (.misuse .noSettings)
    else .ok first

def domainsSettings (s : Service) (domains : List String) (requested : Option ServerVersion)
    (settings : List DomainSetting) : Conversation (Except Failure (Collection DomainSetting) × Service) :=
  match s.checkDomains domains settings with
  | .error e => pure (.error e, s)
  | .ok first => s.collect (.domains domains settings requested) Answer.domains? domains first

def domainSettings (s : Service) (domain : String) (requested : Option ServerVersion)
    (settings : List DomainSetting) : Conversation (Except Failure (Response DomainSetting) × Service) := do
  let (outcome, s) ← s.domainsSettings [domain] requested settings
  pure (outcome >>= (·.sole .noDomainResponse), s)

end MailDiscovery.Service
