import MailDiscovery.Endpoint.Basic
import MailDiscovery.Endpoint.LegacyPath
import MailDiscovery.Uri.Reading

namespace MailDiscovery.WellKnown

def legacyPath : String := "/autodiscover/autodiscover.xml"

def soapPath : String := "/autodiscover/autodiscover.svc"

def legacyHttps? (host : String) : Option Uri :=
  Uri.ofText? ("https://" ++ host ++ legacyPath)

def legacyHttp? (host : String) : Option Uri :=
  Uri.ofText? ("http://" ++ host ++ legacyPath)

def soap? (host : String) (flavour : Flavour) : Option Uri :=
  Uri.ofText? ("https://" ++ host ++ soapPath ++ flavour.suffix)

def legacyOn? (url : Uri) : Option Uri :=
  if isLegacyPath url.path then some url
  else Uri.ofParts? (some (url.scheme?.getD .https)) url.authority? ⟨legacyPath, none⟩

def hostGuesses (domain : String) : List String :=
  [domain, "autodiscover." ++ domain]

end MailDiscovery.WellKnown
