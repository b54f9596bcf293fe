import MailDiscovery.Text.Alphanumeric
import MailDiscovery.Text.Blank

namespace MailDiscovery

inductive AddressError where
  | invalidCharacter
  | missingSeparator
  | localPartEmpty
  | localPartTooLong
  | domainEmpty
  | domainTooLong
  | subDomainEmpty
  | subDomainTooLong
  | missingEndBracket
  | missingDisplayName
  deriving DecidableEq, Repr

namespace MailAddress

def longestLocalPart : Nat := 64

def longestDomain : Nat := 254

def longestSubDomain : Nat := 63

end MailAddress

namespace AddressError

def message : AddressError → String
  | invalidCharacter => "Invalid character."
  | missingSeparator => "Missing separator character '@'."
  | localPartEmpty => "Local part is empty."
  | localPartTooLong => "Local part is too long. Length limit: 64"
  | domainEmpty => "Domain is empty."
  | domainTooLong => "Domain is too long. Length limit: 254"
  | subDomainEmpty => "A sub-domain is empty."
  | subDomainTooLong => "A sub-domain is too long. Length limit: 63"
  | missingEndBracket => "Terminating '>' is missing."
  | missingDisplayName => "Display name was not supplied, but email starts with '<'."

end AddressError

namespace MailAddress

/-- The code points from U+C280 to U+DFBF whose low byte is between 80 and BF. -/
def isOdd (c : Char) : Bool :=
  let n := c.toNat
  0xc2 ≤ n / 256 && n / 256 ≤ 0xdf && 0x80 ≤ n % 256 && n % 256 ≤ 0xbf

def isAtomChar (c : Char) : Bool :=
  Text.isAlphanumeric c || "!#$%&'*+-/=?^_\x60\x7b|\x7d~".toList.contains c || isOdd c

def isAtom (cs : List Char) : Bool :=
  !cs.isEmpty && cs.all isAtomChar

def isVisible (c : Char) : Bool :=
  0x21 ≤ c.toNat && c.toNat ≤ 0x7e

def isQuotedChar (c : Char) : Bool :=
  c == ' ' || c == '\t' || (isVisible c && c != '"' && c != '\\') || isOdd c

def isQuoted : List Char → Bool
  | [] => true
  | '\\' :: c :: cs => isVisible c && isQuoted cs
  | c :: cs => isQuotedChar c && isQuoted cs

def isLiteralChar (c : Char) : Bool :=
  (isVisible c && c != '[' && c != '\\' && c != ']') || isOdd c

def splitDots : List Char → List (List Char)
  | [] => [[]]
  | c :: cs =>
    if c = '.' then [] :: splitDots cs
    else match splitDots cs with
      | [] => [[c]]
      | piece :: pieces => (c :: piece) :: pieces

def byteLength (cs : List Char) : Nat :=
  (String.ofList cs).utf8ByteSize

def splitLast? (c : Char) (cs : List Char) : Option (List Char × List Char) :=
  match cs.reverse.dropWhile (· != c) with
  | [] => none
  | _ :: before => some (before.reverse, (cs.reverse.takeWhile (· != c)).reverse)

def splitName? : List Char → Option (List Char × List Char)
  | [] => none
  | c :: cs =>
    match splitName? cs with
    | some (before, after) => some (c :: before, after)
    | none =>
      match c, cs with
      | ' ', '<' :: after => some ([], after)
      | _, _ => none

def splitDisplay (cs : List Char) : Except AddressError (List Char × List Char) :=
  match splitName? cs with
  | none => .ok ([], cs)
  | some (before, after) =>
    match (Text.trim (String.ofList after)).toList.reverse with
    | '>' :: address => .ok ((Text.trim (String.ofList before)).toList, address.reverse)
    | _ => .error .missingEndBracket

def checkLocalPart (cs : List Char) : Except AddressError Unit :=
  if cs.isEmpty then .error .localPartEmpty
  else if longestLocalPart < byteLength cs then .error .localPartTooLong
  else if cs.head? = some '"' && cs.getLast? = some '"' then
    if cs.length ≤ 2 then .error .localPartEmpty
    else if isQuoted (cs.tail.dropLast) then .ok () else .error .invalidCharacter
  else if (splitDots cs).all isAtom then .ok () else .error .invalidCharacter

def checkSubDomain (cs : List Char) : Except AddressError Unit :=
  if cs.isEmpty then .error .subDomainEmpty
  else if !cs.head?.any Text.isAlphanumeric || !cs.getLast?.any Text.isAlphanumeric then
    .error .invalidCharacter
  else if longestSubDomain < byteLength cs then .error .subDomainTooLong
  else if isAtom cs then .ok () else .error .invalidCharacter

def checkDomain (cs : List Char) : Except AddressError Unit :=
  if cs.isEmpty then .error .domainEmpty
  else if longestDomain < byteLength cs then .error .domainTooLong
  else if cs.head? = some '[' && cs.getLast? = some ']' then
    if cs.tail.dropLast.all isLiteralChar then .ok () else .error .invalidCharacter
  else (splitDots cs).forM checkSubDomain

def domain (address : String) : Except AddressError String := do
  let (name, address) ← splitDisplay address.toList
  match splitLast? '@' address with
  | none => .error .missingSeparator
  | some (localPart, domain) =>
    if name.isEmpty && localPart.head? = some '<' then .error .missingDisplayName
    else
      checkLocalPart localPart
      checkDomain domain
      .ok (String.ofList domain)

end MailAddress

end MailDiscovery
