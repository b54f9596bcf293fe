import MailDiscovery.Http
import MailDiscovery.Legacy.Answer
import MailDiscovery.MailAddress
import MailDiscovery.ReadingError
import MailDiscovery.Setting.Version
import MailDiscovery.Text.Number

namespace MailDiscovery

inductive Misuse where
  | blankAddress
  | blankDomain
  | noSettings
  | noAddresses
  | noValidAddress
  | noDomains
  | hostlessUrl
  | certificateNeeded
  | urlNeeded
  | urlUnknown
  deriving DecidableEq, Repr

namespace Misuse

def message : Misuse → String
  | blankAddress => "email address must not be blank"
  | blankDomain => "domain must not be blank"
  | noSettings => "at least one setting must be requested"
  | noAddresses => "at least one email address is required"
  | noValidAddress => "no valid email address provided"
  | noDomains => "at least one domain is required"
  | hostlessUrl => "url has no host"
  | certificateNeeded => "partner access requires X.509 certificate credentials"
  | urlNeeded => "partner access requires a known autodiscover url"
  | urlUnknown => "autodiscover url is unknown"

end Misuse

inductive Mismatch where
  | notLegacy
  | notUsers
  | notDomains
  | responseCount
  | noUserResponse
  | noDomainResponse
  | noRedirectTarget
  deriving DecidableEq, Repr

namespace Mismatch

def message : Mismatch → String
  | notLegacy => "expected a legacy response"
  | notUsers => "expected a user settings response"
  | notDomains => "expected a domain settings response"
  | responseCount => "number of responses does not match the request"
  | noUserResponse => "no user response returned"
  | noDomainResponse => "no domain response returned"
  | noRedirectTarget => "missing redirect target"

end Mismatch

inductive Operation where
  | usersSettings
  | domainSettings
  | partnerAccess
  deriving DecidableEq, Repr

namespace Operation

def text : Operation → String
  | usersSettings => "GetUsersSettings"
  | domainSettings => "GetDomainSettings"
  | partnerAccess => "TryGetPartnerAccess"

def minimum : Operation → ServerVersion
  | usersSettings => .firstWithSoap
  | domainSettings => .firstWithSoap
  | partnerAccess => .firstWithPartnerTokens

end Operation

inductive TransportError where
  | timedOut (milliseconds : Nat)
  | invalidRequest
  deriving DecidableEq, Repr

namespace TransportError

def message : TransportError → String
  | timedOut milliseconds => "request timed out after " ++ Text.duration milliseconds
  | invalidRequest => "failed to build request"

end TransportError

inductive Failure where
  | misuse (cause : Misuse)
  | invalidAddress (cause : AddressError)
  | versionTooOld (operation : Operation) (requested : ServerVersion)
  | tooManyRedirections
  | legacyService (e : LegacyError)
  /-- Every candidate failed, and the first error that one from the directory reported is this. -/
  | directoryService (e : LegacyError)
  | notLocated (last : Option Failure)
  | noUsableEndpoint (host : String)
  | service (code : ErrorCode) (message : Option String)
  | redirectionRejected (url : Uri)
  | missingLocation
  | invalidLocation
  | unexpectedStatus (status : Nat)
  | transport (cause : TransportError)
  | unreadable (cause : ReadingError)
  | invalidToken
  | invalidRequest
  | invalidUrl
  | mismatch (cause : Mismatch)

namespace Failure

def message : Failure → String
  | misuse cause => "invalid argument: " ++ cause.message
  | invalidAddress _ => "invalid email address"
  | versionTooOld operation requested =>
    operation.text ++ " requires at least " ++ operation.minimum.text ++ ", but " ++ requested.text ++
      " was requested"
  | tooManyRedirections => "maximum number of redirections exceeded"
  | legacyService _ => "legacy autodiscover service returned an error"
  | directoryService _ => "autodiscover endpoint from the directory returned an error"
  | notLocated _ => "autodiscover service could not be located"
  | noUsableEndpoint host => "host " ++ host ++ " advertises no usable autodiscover endpoint"
  | service code _ => "autodiscover service returned error " ++ code.text
  | redirectionRejected url => "redirection to " ++ url.text ++ " rejected"
  | missingLocation => "redirection response without a location"
  | invalidLocation => "redirection location is not a valid URL"
  | unexpectedStatus status => "unexpected http status: " ++ Http.statusText status
  | transport _ => "error sending request"
  | unreadable _ => "error parsing response"
  | invalidToken => "error authenticating request"
  | invalidRequest => "failed to build request"
  | invalidUrl => "invalid url"
  | mismatch cause => "invalid response: " ++ cause.message

def tokenMessage : String := "token contains characters invalid in a header"

/-- After such a failure no other candidate is tried. -/
def isFatal : Failure → Bool
  | tooManyRedirections => true
  | _ => false

theorem of_bind_ok {ε α β : Type} {x : Except ε α} {f : α → Except ε β} {b : β}
    (h : (x >>= f) = .ok b) : ∃ a, x = .ok a ∧ f a = .ok b := by
  cases x with
  | error e => cases h
  | ok a => exact ⟨a, rfl, h⟩

end Failure

end MailDiscovery
