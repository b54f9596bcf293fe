import MailDiscovery.Xml.Character

/-!
Character data between markup: references are replaced by their characters, and ends of lines become one line feed.
Character data inside attributes has spaces for all white space that is not written as a reference.
-/

namespace MailDiscovery.Xml

inductive Piece where
  | plain (c : Char)
  | reference (c : Char)
  deriving DecidableEq, Repr

def digitValue (c : Char) : Nat :=
  if c.isDigit then c.toNat - 48 else c.toLower.toNat - 87

def isHexDigit (c : Char) : Bool :=
  c.isDigit || ('a' ≤ c.toLower && c.toLower ≤ 'f')

/-- A number that is no code point stands for the replacement character; one of more than 32 bits for nothing. -/
def charOfDigits? (base : Nat) (digits : List Char) : Option Char :=
  let n := digits.foldl (fun n c => n * base + digitValue c) 0
  if digits.isEmpty || 0x100000000 ≤ n then none
  else
    let c := if n.isValidChar then Char.ofNat n else '\ufffd'
    if isChar c then some c else none

def predefined? : List Char → Option Char
  | ['q', 'u', 'o', 't'] => some '"'
  | ['a', 'm', 'p'] => some '&'
  | ['a', 'p', 'o', 's'] => some '\''
  | ['l', 't'] => some '<'
  | ['g', 't'] => some '>'
  | _ => none

def reference? : List Char → Option (Char × List Char)
  | '#' :: 'x' :: cs => finish (charOfDigits? 16 (cs.takeWhile isHexDigit)) (cs.dropWhile isHexDigit)
  | '#' :: cs => finish (charOfDigits? 10 (cs.takeWhile Char.isDigit)) (cs.dropWhile Char.isDigit)
  | cs => finish (predefined? (cs.takeWhile isNameChar)) (cs.dropWhile isNameChar)
where
  finish : Option Char → List Char → Option (Char × List Char)
    | some c, ';' :: rest => some (c, rest)
    | _, _ => none

theorem reference?_finish_eq_some {c? : Option Char} {cs rest : List Char} {c : Char}
    (h : reference?.finish c? cs = some (c, rest)) : c? = some c ∧ cs = ';' :: rest := by
  unfold reference?.finish at h
  split at h
  · simp_all
  · simp at h

theorem length_of_reference? {cs rest : List Char} {c : Char} (h : reference? cs = some (c, rest)) :
    rest.length < cs.length := by
  have of_dropWhile {c? : Option Char} {p : Char → Bool} {cs : List Char}
      (h : reference?.finish c? (cs.dropWhile p) = some (c, rest)) : rest.length < cs.length := by
    have hl := (List.dropWhile_sublist p : (cs.dropWhile p).Sublist cs).length_le
    rw [(reference?_finish_eq_some h).2, List.length_cons] at hl
    exact hl
  unfold reference? at h
  split at h
  · exact Nat.lt_add_right 2 (of_dropWhile h)
  · exact Nat.lt_add_right 1 (of_dropWhile h)
  · exact of_dropWhile h

def pieces? (cs : List Char) : Option (List Piece) :=
  match cs with
  | [] => some []
  | '&' :: cs =>
    match _ : reference? cs with
    | none => none
    | some (c, rest) => (pieces? rest).map (.reference c :: ·)
  | c :: cs => (pieces? cs).map (.plain c :: ·)
termination_by cs.length
decreasing_by
  · have := length_of_reference? ‹_›
    simp only [List.length_cons]
    omega
  · simp

/-- A carriage return counts as the end of a line if plain text follows it or nothing does; `afterReference` says that
a reference stands just before, which keeps a final carriage return as it is. -/
def joinLines (afterReference : Bool) : List Piece → List Char
  | [] => []
  | .reference c :: rest => c :: joinLines true rest
  | [.plain '\r'] => [if afterReference then '\r' else '\n']
  | .plain '\r' :: .reference c :: rest => '\r' :: c :: joinLines true rest
  | .plain '\r' :: .plain '\n' :: rest => '\n' :: joinLines false rest
  | .plain '\r' :: .plain c :: rest => '\n' :: joinLines false (.plain c :: rest)
  | .plain c :: rest => c :: joinLines false rest

def textOf? (raw : List Char) : Option (List Char) :=
  (pieces? raw).map (joinLines false)

def textOfSection (raw : List Char) : List Char :=
  joinLines false (raw.map .plain)

def flattenSpaces : List Piece → List Char
  | [] => []
  | .reference c :: rest => c :: flattenSpaces rest
  | .plain '\r' :: .plain '\n' :: rest => ' ' :: flattenSpaces rest
  | .plain c :: rest => (if isSpace c then ' ' else c) :: flattenSpaces rest

def valueOf? (raw : List Char) : Option (List Char) :=
  (pieces? raw).map flattenSpaces

end MailDiscovery.Xml
