import MailDiscovery.Text.Ascii
import MailDiscovery.Text.Blank

namespace MailDiscovery.Xml

structure ExpandedName where
  space : Option String
  base : String
  deriving DecidableEq, Repr

structure Attribute where
  name : ExpandedName
  value : String
  deriving DecidableEq, Repr

inductive Node where
  | element (name : ExpandedName) (attributes : List Attribute) (children : List Node)
  | text (content : String)
  | comment (content : String)
  | instruction (target : String) (content : String)

def schemaInstance : String := "http://www.w3.org/2001/XMLSchema-instance"

namespace Node

def children : Node → List Node
  | element _ _ children => children
  | _ => []

def attributes : Node → List Attribute
  | element _ attributes _ => attributes
  | _ => []

def name? : Node → Option ExpandedName
  | element name _ _ => some name
  | _ => none

def isNamed (name : ExpandedName) (n : Node) : Bool :=
  n.name? == some name

def hasBase (base : String) (n : Node) : Bool :=
  n.name?.any (·.base == base)

def resembles (base : String) (n : Node) : Bool :=
  n.name?.any fun name => Text.sameLetters name.base base

def attribute? (n : Node) (name : ExpandedName) : Option String :=
  (n.attributes.find? (·.name == name)).map (·.value)

def child? (n : Node) (name : ExpandedName) : Option Node :=
  n.children.find? (isNamed name)

def childrenNamed (n : Node) (name : ExpandedName) : List Node :=
  n.children.filter (isNamed name)

def childLike? (n : Node) (base : String) : Option Node :=
  n.children.find? (resembles base)

def isNil (n : Node) : Bool :=
  n.attribute? ⟨some schemaInstance, "nil"⟩ == some "true"

def firstText? (n : Node) : Option String :=
  match n.children with
  | text content :: _ => some content
  | _ => none

/-- The text an element starts with, trimmed, unless that leaves nothing or the element says that it is nil. -/
def content? (n : Node) : Option String :=
  if n.isNil then none
  else (n.firstText?.map Text.trim).filter (· != "")

def contentOf? (n : Node) (name : ExpandedName) : Option String :=
  (n.child? name).bind content?

def contentLike? (n : Node) (base : String) : Option String :=
  (n.childLike? base).bind content?

end Node

end MailDiscovery.Xml
