/-!
Uniform resource identifiers in the three forms that a request line knows: absolute, a bare authority, and a target
without a host. A query that is present may be empty, and fragments are not kept.
-/

namespace MailDiscovery

inductive Scheme where
  | http
  | https
  | other (name : String)
  deriving DecidableEq, Repr

namespace Scheme

def text : Scheme → String
  | .http => "http"
  | .https => "https"
  | .other name => name

end Scheme

structure Target where
  path : String
  query : Option String
  deriving DecidableEq, Repr

namespace Target

/-- A query needs a path before it. -/
def withPath (path : String) : Option String → Target
  | none => ⟨path, none⟩
  | some query => ⟨if path = "" then "/" else path, some query⟩

def rooted (t : Target) : Target :=
  if t.path = "" then { t with path := "/" } else t

def text (t : Target) : String :=
  match t.query with
  | none => t.path
  | some query => t.path ++ "?" ++ query

end Target

inductive Uri where
  | absolute (scheme : Scheme) (name : String) (target : Target)
  | bare (name : String)
  | origin (target : Target)
  deriving DecidableEq, Repr

namespace Uri

def scheme? : Uri → Option Scheme
  | .absolute scheme _ _ => some scheme
  | _ => none

def authority? : Uri → Option String
  | .absolute _ name _ => some name
  | .bare name => some name
  | .origin _ => none

def target : Uri → Target
  | .absolute _ _ target => target
  | .bare _ => ⟨"", none⟩
  | .origin target => target

def path (u : Uri) : String :=
  u.target.path

def query? (u : Uri) : Option String :=
  u.target.query

def ofParts? : Option Scheme → Option String → Target → Option Uri
  | some scheme, some authority, target => some (.absolute scheme authority target.rooted)
  | none, none, target => some (.origin target)
  | _, _, _ => none

def text : Uri → String
  | .absolute scheme name target => scheme.text ++ "://" ++ name ++ target.text
  | .bare name => name
  | .origin target => target.text

/-- The part of an authority that names the host: after the user, before the port, with the brackets of a literal. -/
def hostOfAuthority (authority : List Char) : List Char :=
  match (authority.reverse.takeWhile (· != '@')).reverse with
  | '[' :: rest => '[' :: rest.takeWhile (· != ']') ++ [']']
  | rest => rest.takeWhile (· != ':')

def host? (u : Uri) : Option String :=
  u.authority?.map fun name => String.ofList (hostOfAuthority name.toList)

end Uri

end MailDiscovery
