import MailDiscovery.Credential
import MailDiscovery.Legacy.Reading
import MailDiscovery.Legacy.Writing
import MailDiscovery.Soap.Reading
import MailDiscovery.Soap.Writing

namespace MailDiscovery

inductive Query where
  | legacy (address : String)
  | users (addresses : List String) (settings : List UserSetting)
  | domains (domains : List String) (settings : List DomainSetting) (version : Option ServerVersion)
  deriving DecidableEq, Repr

inductive Answer where
  | legacy (answer : LegacyAnswer)
  | users (collection : Collection UserSetting)
  | domains (collection : Collection DomainSetting)

inductive Verdict where
  | success
  | redirectUrl (url : String)
  | redirectAddress (address : String)
  | error
  deriving DecidableEq, Repr

namespace Query

def isSoap : Query → Bool
  | legacy _ => false
  | _ => true

def contentType : String := "text/xml; charset=utf-8"

def render (url : Uri) (version : ServerVersion) (credential : Credential) : Query → String
  | .legacy address => Legacy.request address
  | .users addresses settings =>
    Soap.envelope (Soap.header .getUserSettings version url.text credential.securityHeader?)
      (Soap.usersBody addresses settings)
  | .domains names settings requested =>
    Soap.envelope (Soap.header .getDomainSettings version url.text credential.securityHeader?)
      (Soap.domainsBody names settings requested)

def read (body : ByteArray) : Query → Except ReadingError Answer
  | .legacy _ => (Legacy.ofBody body).map .legacy
  | .users _ _ => (Soap.ofBody .users body).map .users
  | .domains _ _ _ => (Soap.ofBody .domains body).map .domains

def redirection (url : Uri) : Query → Answer
  | .legacy _ => .legacy (.redirectUrl url.text)
  | .users _ _ => .users (.redirection url)
  | .domains _ _ _ => .domains (.redirection url)

/-- Legacy requests carry credentials in the clear, and so go only to legacy services over a safe connection. -/
def accepts (url : Uri) : Query → Bool
  | .legacy _ => url.scheme? == some .https && isLegacyPath url.path
  | _ => url.scheme? == some .https || url.scheme? == some .http

end Query

namespace Collection

def verdict {ν : Type} (c : Collection ν) : Verdict :=
  match c.code, c.redirectUrl with
  | .redirectUrl, some url => .redirectUrl url.text
  | .noError, _ => .success
  | _, _ => .error

end Collection

namespace Answer

def verdict : Answer → Verdict
  | .legacy (.settings _) => .success
  | .legacy (.redirectUrl url) => .redirectUrl url
  | .legacy (.redirectAddress address) => .redirectAddress address
  | .legacy (.error _) => .error
  | .users c => c.verdict
  | .domains c => c.verdict

end Answer

end MailDiscovery
