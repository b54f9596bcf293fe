import MailDiscovery.Endpoint.WellKnown
import MailDiscovery.Text.Base64
import MailDiscovery.Text.Quoted

namespace MailDiscovery

/-- A text that descriptions do not show. -/
structure Secret where
  reveal : String
  deriving DecidableEq

namespace Secret

def describe (_ : Secret) : String := "<REDACTED>"

end Secret

inductive Credential where
  | anonymous
  | basic (username : String) (password : Option Secret)
  | oauth (token : Secret)
  | wsSecurity (securityToken : String)
  | partnerToken (token : String) (reference : String)
  | x509 (securityToken : String)
  deriving DecidableEq

namespace Credential

def flavour : Credential → Flavour
  | anonymous | basic _ _ | oauth _ => .plain
  | wsSecurity _ => .wsSecurity
  | partnerToken _ _ => .symmetricKey
  | x509 _ => .x509Cert

def required (c : Credential) : Endpoint :=
  c.flavour.required

def securityHeader? : Credential → Option String
  | anonymous | basic _ _ | oauth _ => none
  | wsSecurity token | x509 token => some token
  | partnerToken token _ => some token

def isX509 : Credential → Bool
  | x509 _ => true
  | _ => false

def adjust? (c : Credential) (url : Uri) : Option Uri :=
  Uri.ofParts? url.scheme? url.authority? (.withPath (c.flavour.applyToPath url.path) url.query?)

def select? (c : Credential) (host : String) (endpoints : EndpointSet) : Option Uri :=
  if endpoints.has c.required then WellKnown.soap? host c.flavour else none

def basicHeader (username : String) (password : Option Secret) : String :=
  "Basic " ++ String.ofList
    (Text.Base64.encode (username ++ ":" ++ password.elim "" Secret.reveal).toUTF8.data.toList)

def describe : Credential → String
  | anonymous => "None"
  | basic username password =>
    "Basic \x7b username: " ++ Text.quoted username ++ ", password: " ++
      password.elim "None" (fun s => "Some(" ++ s.describe ++ ")") ++ " \x7d"
  | oauth token => "OAuth \x7b token: " ++ token.describe ++ " \x7d"
  | wsSecurity token => "WsSecurity \x7b security_token: " ++ Text.quoted token ++ " \x7d"
  | partnerToken token reference =>
    "PartnerToken \x7b token: " ++ Text.quoted token ++ ", reference: " ++ Text.quoted reference ++ " \x7d"
  | x509 token => "X509 \x7b security_token: " ++ Text.quoted token ++ " \x7d"

end Credential

end MailDiscovery
