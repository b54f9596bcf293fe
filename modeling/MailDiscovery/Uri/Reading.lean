import MailDiscovery.Text.Ascii
import MailDiscovery.Uri.Basic
import MailDiscovery.Uri.Grammar

namespace MailDiscovery

/-- Reads a path, a query if there is one, and drops a fragment unread. -/
def Target.ofChars? (cs : List Char) : Option Target :=
  let path := String.ofList (cs.takeWhile Uri.isPathChar)
  match cs.dropWhile Uri.isPathChar with
  | [] => some (.withPath path none)
  | '#' :: _ => some (.withPath path none)
  | '?' :: rest =>
    match rest.dropWhile Uri.isQueryChar with
    | [] => some (.withPath path (some (String.ofList rest)))
    | '#' :: _ => some (.withPath path (some (String.ofList (rest.takeWhile Uri.isQueryChar))))
    | _ => none
  | _ => none

def Target.ofText? (s : String) : Option Target :=
  ofChars? s.toList

namespace Uri

def longestScheme : Nat := 64

def longestText : Nat := 65534

def splitScheme? (cs : List Char) : Option (Option Scheme × List Char) :=
  if Text.hasPrefixIgnoringCase "http://".toList cs then some (some .http, cs.drop 7)
  else if Text.hasPrefixIgnoringCase "https://".toList cs then some (some .https, cs.drop 8)
  else match cs.dropWhile isSchemeChar with
    | ':' :: '/' :: '/' :: rest =>
      let name := cs.takeWhile isSchemeChar
      if longestScheme < name.length then none else some (some (.other (String.ofList name)), rest)
    | _ => some (none, cs)

def ofChars? (cs : List Char) : Option Uri := do
  let (scheme, rest) ← splitScheme? cs
  let authority := rest.takeWhile (!endsAuthority ·)
  let tail := rest.dropWhile (!endsAuthority ·)
  if authority.isEmpty || !isAuthority authority then none
  match scheme with
  | some scheme =>
    let target ← Target.ofChars? tail
    some (.absolute scheme (String.ofList authority) target.rooted)
  | none => if tail.isEmpty then some (.bare (String.ofList authority)) else none

def ofText? (s : String) : Option Uri :=
  if longestText < s.utf8ByteSize then none
  else match s.toList with
    | ['*'] => some (.origin ⟨"*", none⟩)
    | '/' :: rest => (Target.ofChars? ('/' :: rest)).map .origin
    | cs => ofChars? cs

/-- The identifier that a redirection from `base` to `location` leads to: a location that starts with a slash is a
target on the same authority, and any other has to name its host. -/
def resolve? (base : Uri) (location : ByteArray) : Option Uri := do
  let text ← String.fromUTF8? location
  if text.toList.head? = some '/' then
    ofParts? base.scheme? base.authority? (← Target.ofText? text)
  else
    let uri ← ofText? text
    if uri.host?.isSome then some uri else none

end Uri

end MailDiscovery
