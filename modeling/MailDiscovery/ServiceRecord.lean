namespace MailDiscovery

structure ServiceRecord where
  priority : Nat
  weight : Nat
  port : Nat
  target : String
  deriving DecidableEq, Repr

namespace ServiceRecord

def expectedPort : Nat := 443

def isEligible (r : ServiceRecord) : Bool :=
  r.port == expectedPort && r.target != "" && r.target != "."

def isBetter (r s : ServiceRecord) : Bool :=
  r.priority < s.priority || (r.priority == s.priority && s.weight < r.weight)

def best? : List ServiceRecord → Option ServiceRecord
  | [] => none
  | r :: rs =>
    match best? rs with
    | none => some r
    | some s => if s.isBetter r then some s else some r

def host (r : ServiceRecord) : String :=
  String.ofList ((r.target.toList.reverse.dropWhile (· == '.')).reverse)

def select? (records : List ServiceRecord) : Option String :=
  (best? (records.filter isEligible)).map host

end ServiceRecord

inductive DomainNameError where
  | invalid
  | tooLong
  deriving DecidableEq, Repr

namespace DomainNameError

def message : DomainNameError → String
  | invalid => "the input is not a valid domain name"
  | tooLong => "the domain name is too long and cannot be queried"

end DomainNameError

namespace DomainName

def longestLabel : Nat := 63

def longestName : Nat := 255

/-- The octets of the labels `_autodiscover` and `_tcp` in a query. -/
def serviceLength : Nat := 19

structure Progress where
  octets : Nat := 0
  label : Nat := 0

namespace Progress

def push? (p : Progress) : Option Progress :=
  if longestName - 1 ≤ p.octets || longestLabel ≤ p.label then none
  else some ⟨if p.label = 0 then p.octets + 2 else p.octets + 1, p.label + 1⟩

end Progress

def isPrintable (c : Char) : Bool :=
  0x20 ≤ c.toNat && c.toNat ≤ 0x7e

/-- Reads labels that are separated by dots, where a backslash makes one octet of three digits or of any other
character after it. A label is not empty, and does not start like a binary one. -/
def read? (p : Progress) : List Char → Option Progress
  | [] => some p
  | '.' :: cs => if p.label = 0 then none else read? { p with label := 0 } cs
  | '\\' :: c :: cs =>
    if c.isDigit then
      match cs with
      | d :: e :: cs =>
        if d.isDigit && e.isDigit && (c.toNat - 48) * 100 + (d.toNat - 48) * 10 + (e.toNat - 48) ≤ 255 then
          p.push?.bind fun p => read? p cs
        else none
      | _ => none
    else if c = '[' && p.label = 0 then none
    else p.push?.bind fun p => read? p cs
  | c :: cs => if c = '\\' || !isPrintable c then none else p.push?.bind fun p => read? p cs

def length? (name : String) : Option Nat :=
  (read? {} name.toList).map (·.octets + 1)

def check (name : String) : Except DomainNameError Unit :=
  match length? name with
  | none => .error .invalid
  | some n => if longestName < n + serviceLength then .error .tooLong else .ok ()

end DomainName

end MailDiscovery
