namespace MailDiscovery

inductive ReadingError where
  | notUtf8
  | notXml
  | missing (element : String)
  | invalid (element : String) (value : String)
  | fault (code : String) (reason : String)
  deriving DecidableEq, Repr

namespace ReadingError

def message : ReadingError → String
  | notUtf8 => "response body is not valid utf-8"
  | notXml => "response body is not valid xml"
  | missing element => "missing field in response: " ++ element
  | invalid element value => "invalid value for " ++ element ++ ": " ++ value
  | fault code reason => "service returned a fault (" ++ code ++ "): " ++ reason

end ReadingError

end MailDiscovery
