import MailDiscovery.Service.BulkSettings
import MailDiscovery.Service.UserSettings

namespace MailDiscovery

inductive Call where
  | user (address : String) (settings : List UserSetting)
  | users (addresses : List String) (settings : List UserSetting)
  | domains (domains : List String) (requested : Option ServerVersion) (settings : List DomainSetting)
  | domain (domain : String) (requested : Option ServerVersion) (settings : List DomainSetting)

inductive Reply where
  | user (response : Response UserSetting)
  | users (collection : Collection UserSetting)
  | domains (collection : Collection DomainSetting)
  | domain (response : Response DomainSetting)

namespace Service

def perform (s : Service) : Call → Conversation (Except Failure Reply × Service)
  | .user address settings => do
    let (outcome, s) ← s.userSettings address settings
    pure (outcome.map .user, s)
  | .users addresses settings => do
    let (outcome, s) ← s.usersSettings addresses settings
    pure (outcome.map .users, s)
  | .domains domains requested settings => do
    let (outcome, s) ← s.domainsSettings domains requested settings
    pure (outcome.map .domains, s)
  | .domain domain requested settings => do
    let (outcome, s) ← s.domainSettings domain requested settings
    pure (outcome.map .domain, s)

end Service

namespace Call

def query (version : ServerVersion) : Call → Query
  | .user address settings => if version.supportsSoap then .users [address] settings else .legacy address
  | .users addresses settings => .users addresses settings
  | .domains names requested settings => .domains names settings requested
  | .domain name requested settings => .domains [name] settings requested

end Call

end MailDiscovery
