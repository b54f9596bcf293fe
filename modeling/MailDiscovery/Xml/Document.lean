import MailDiscovery.Xml.CharacterData
import MailDiscovery.Xml.Token
import MailDiscovery.Xml.Tree

/-!
From tokens to the root of a document. Elements nest, prefixes are declared, attributes are distinct, and there is one
root with nothing but comments, instructions and white space around it. There are no document types, and so no
entities but the predefined ones.
-/

namespace MailDiscovery.Xml

/-- Prefixes in force and what they stand for, innermost first; the default namespace has no prefix. -/
abbrev Scope := List (Option String × String)

def xmlSpace : String := "http://www.w3.org/XML/1998/namespace"

def xmlnsSpace : String := "http://www.w3.org/2000/xmlns/"

structure Declared where
  scope : Scope := []
  plain : List (QName × String) := []

namespace Declared

def add (d : Declared) (name : QName) (value : String) : Option Declared :=
  if name.qualifier = "xmlns" then
    if value = xmlnsSpace || (name.base == "xml") != (value == xmlSpace) ||
        d.scope.any (·.1 == some name.base) then none
    else if value = xmlSpace then some d
    else some { d with scope := d.scope ++ [(some name.base, value)] }
  else if name.base = "xmlns" then
    if value = xmlSpace || value = xmlnsSpace then none
    else some { d with scope := d.scope ++ [(none, value)] }
  else some { d with plain := d.plain ++ [(name, value)] }

def addRaw (d : Declared) (raw : RawAttribute) : Option Declared :=
  (valueOf? raw.value).bind fun value => d.add raw.name (String.ofList value)

end Declared

def Scope.resolve? (scope : Scope) (name : QName) : Option ExpandedName :=
  if name.qualifier = "" then some ⟨scope.lookup none, name.base⟩
  else (scope.lookup (some name.qualifier)).map fun space => ⟨some space, name.base⟩

def Scope.resolveAttribute? (scope : Scope) (name : QName) : Option ExpandedName :=
  if name.qualifier = "xml" then some ⟨some xmlSpace, name.base⟩
  else if name.qualifier = "" then some ⟨none, name.base⟩
  else scope.resolve? name

def resolveAttributes? (scope : Scope) : List (QName × String) → Option (List Attribute)
  | [] => some []
  | (name, value) :: rest => do
    let name ← scope.resolveAttribute? name
    let rest ← resolveAttributes? scope rest
    if rest.any (·.name == name) then none else some (⟨name, value⟩ :: rest)

/-- An element whose end is still to come; its children are listed latest first. -/
structure Open where
  tag : QName
  name : ExpandedName
  attributes : List Attribute
  scope : Scope
  children : List Node := []

namespace Open

def node (o : Open) : Node :=
  .element o.name o.attributes o.children.reverse

def push (o : Open) (n : Node) : Open :=
  { o with children := n :: o.children }

def pushText (o : Open) (s : String) : Open :=
  match o.children with
  | .text t :: rest => { o with children := .text (t ++ s) :: rest }
  | children => { o with children := .text s :: children }

def start? (outer : Scope) (tag : QName) (raw : List RawAttribute) : Option Open := do
  if tag.qualifier = "xmlns" then none
  let declared ← raw.foldlM Declared.addRaw {}
  let scope := declared.scope ++ outer
  let attributes ← resolveAttributes? scope declared.plain
  let name ← scope.resolve? tag
  some { tag, name, attributes, scope }

end Open

/-- A document in the making: the elements that are open, innermost first, and the root once it has ended. -/
structure Building where
  opened : List Open := []
  root : Option Node := none

namespace Building

def scope (b : Building) : Scope :=
  (b.opened.head?.map (·.scope)).getD []

def place? (b : Building) (n : Node) : Option Building :=
  match b.opened with
  | o :: rest => some { b with opened := o.push n :: rest }
  | [] => if b.root.isSome then none else some { b with root := some n }

def placeAside (b : Building) (n : Node) : Building :=
  match b.opened with
  | o :: rest => { b with opened := o.push n :: rest }
  | [] => b

def step? (b : Building) : Token → Option Building
  | .opening tag raw closed => do
    let o ← Open.start? b.scope tag raw
    if closed then b.place? o.node
    else if b.opened.isEmpty && b.root.isSome then none
    else some { b with opened := o :: b.opened }
  | .closing tag =>
    match b.opened with
    | o :: rest => if o.tag = tag then { b with opened := rest }.place? o.node else none
    | [] => none
  | .text raw =>
    match b.opened with
    | o :: rest => (textOf? raw).map fun s => { b with opened := o.pushText (String.ofList s) :: rest }
    | [] => if raw.all isSpace then some b else none
  | .cdata raw =>
    match b.opened with
    | o :: rest => some { b with opened := o.pushText (String.ofList (textOfSection raw)) :: rest }
    | [] => none
  | .comment content => some (b.placeAside (.comment (String.ofList content)))
  | .instruction target content =>
    some (b.placeAside (.instruction (String.ofList target) (String.ofList content)))

def finish? (b : Building) : Option Node :=
  if b.opened.isEmpty then b.root else none

end Building

def Node.ofTokens? (tokens : List Token) : Option Node :=
  (tokens.foldlM Building.step? {}).bind Building.finish?

def declarationGap? (cs : List Char) : Option (List Char) :=
  if cs.isEmpty || cs.head?.any isSpace || ['?', '>'].isPrefixOf cs then some (skipSpaces cs) else none

def declarationPart? (name cs : List Char) : Option (List Char) :=
  if name.isPrefixOf cs then (RawAttribute.read? cs).map (·.2) else some cs

def skipDeclaration? (cs : List Char) : Option (List Char) := do
  let cs := skipSpaces cs
  if !"version".toList.isPrefixOf cs then none
  let cs ← declarationGap? (← declarationPart? "version".toList cs)
  let cs ←
    if "encoding".toList.isPrefixOf cs then
      declarationPart? "encoding".toList cs >>= declarationGap?
    else some cs
  let cs ← declarationPart? "standalone".toList cs
  match skipSpaces cs with
  | '?' :: '>' :: rest => some rest
  | _ => none

def bodyOfDocument? (cs : List Char) : Option (List Char) :=
  let cs := if cs.head? = some '\ufeff' then cs.tail else cs
  if "<?xml ".toList.isPrefixOf cs then skipDeclaration? (cs.drop 5) else some cs

def Node.ofDocument? (document : String) : Option Node := do
  let body ← bodyOfDocument? document.toList
  let tokens ← Token.scan? body
  Node.ofTokens? tokens

end MailDiscovery.Xml
