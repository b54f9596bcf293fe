import MailDiscovery.Xml.Escape

namespace MailDiscovery.Legacy

def requestSpace : String :=
  "http://schemas.microsoft.com/exchange/autodiscover/outlook/requestschema/2006"

def responseSpace : String :=
  "http://schemas.microsoft.com/exchange/autodiscover/outlook/responseschema/2006a"

def request (address : String) : String :=
  "<?xml version=\"1.0\" encoding=\"utf-8\"?>\n" ++
    "<Autodiscover xmlns=\"" ++ requestSpace ++ "\">\n" ++
    "<Request>\n" ++
    Xml.simpleElement "EMailAddress" address ++ "\n" ++
    Xml.simpleElement "AcceptableResponseSchema" responseSpace ++ "\n" ++
    "</Request>\n" ++
    "</Autodiscover>"

end MailDiscovery.Legacy
