import MailDiscovery.ReadingError
import MailDiscovery.Xml.Document

namespace MailDiscovery.Xml

def rootOfBody (body : ByteArray) : Except ReadingError Node :=
  match String.fromUTF8? body with
  | none => .error .notUtf8
  | some document =>
    match Node.ofDocument? document with
    | none => .error .notXml
    | some root => .ok root

def require (element : String) : Option α → Except ReadingError α
  | none => .error (.missing element)
  | some a => .ok a

theorem eq_some_of_require {element : String} {x : Option α} {a : α} (h : require element x = .ok a) : x = some a := by
  cases x with
  | none => cases h
  | some b =>
    cases h
    rfl

end MailDiscovery.Xml
