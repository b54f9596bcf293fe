namespace MailDiscovery

inductive Endpoint where
  | legacy
  | soap
  | wsSecurity
  | wsSecuritySymmetricKey
  | wsSecurityX509Cert
  | oauth
  deriving DecidableEq, Repr

namespace Endpoint

def all : List Endpoint :=
  [.legacy, .soap, .wsSecurity, .wsSecuritySymmetricKey, .wsSecurityX509Cert, .oauth]

def text : Endpoint → String
  | legacy => "Legacy"
  | soap => "Soap"
  | wsSecurity => "WsSecurity"
  | wsSecuritySymmetricKey => "WsSecuritySymmetricKey"
  | wsSecurityX509Cert => "WsSecurityX509Cert"
  | oauth => "OAuth"

def header? : Endpoint → Option String
  | legacy => none
  | soap => some "X-SOAP-Enabled"
  | wsSecurity => some "X-WSSecurity-Enabled"
  | wsSecuritySymmetricKey => some "X-WSSecurity-SymmetricKey-Enabled"
  | wsSecurityX509Cert => some "X-WSSecurity-X509Cert-Enabled"
  | oauth => some "X-OAuth-Enabled"

end Endpoint

@[ext] structure EndpointSet where
  has : Endpoint → Bool

namespace EndpointSet

def empty : EndpointSet := ⟨fun _ => false⟩

def ofList (es : List Endpoint) : EndpointSet := ⟨fun e => es.contains e⟩

def union (s t : EndpointSet) : EndpointSet := ⟨fun e => s.has e || t.has e⟩

def toList (s : EndpointSet) : List Endpoint :=
  Endpoint.all.filter s.has

def isEmpty (s : EndpointSet) : Bool :=
  s.toList.isEmpty

/-- All endpoints of a set that has at least one; no set contains the empty one. -/
def contains (s t : EndpointSet) : Bool :=
  !t.isEmpty && t.toList.all s.has

def hasSoapVariant (s : EndpointSet) : Bool :=
  s.toList.any (· != .legacy)

def text (s : EndpointSet) : String :=
  "\x7b" ++ String.intercalate ", " (s.toList.map fun e => "\"" ++ e.text ++ "\"") ++ "\x7d"

def ofHeaders (present : String → Bool) : EndpointSet :=
  ⟨fun e => e.header?.all present⟩

end EndpointSet

inductive Flavour where
  | plain
  | wsSecurity
  | symmetricKey
  | x509Cert
  deriving DecidableEq, Repr

namespace Flavour

def text : Flavour → String
  | plain => "Plain"
  | wsSecurity => "WsSecurity"
  | symmetricKey => "SymmetricKey"
  | x509Cert => "X509Cert"

def suffix : Flavour → String
  | plain => ""
  | wsSecurity => "/wssecurity"
  | symmetricKey => "/wssecurity/symmetrickey"
  | x509Cert => "/wssecurity/x509cert"

def required : Flavour → Endpoint
  | plain => .soap
  | wsSecurity => .wsSecurity
  | symmetricKey => .wsSecuritySymmetricKey
  | x509Cert => .wsSecurityX509Cert

def strip (path : List Char) : List Char :=
  let path := (path.reverse.dropWhile (· == '/')).reverse
  let ends (f : Flavour) := f.suffix.toList.isSuffixOf (path.map Char.toLower)
  if ends .symmetricKey then path.take (path.length - symmetricKey.suffix.length)
  else if ends .x509Cert then path.take (path.length - x509Cert.suffix.length)
  else if ends .wsSecurity then path.take (path.length - wsSecurity.suffix.length)
  else path

def applyToPath (f : Flavour) (path : String) : String :=
  String.ofList (strip path.toList) ++ f.suffix

end Flavour

end MailDiscovery
