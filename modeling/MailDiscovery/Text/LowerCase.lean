import MailDiscovery.Text.LowerCase.Table

/-!
Lower-casing of whole texts. A capital sigma becomes a final sigma at the end of a word, and the capital I with a dot
keeps its dot as a separate mark; every other character has one small letter.
-/

namespace MailDiscovery.Text

namespace LowerCase

def Run.small? (r : Run) (n : Nat) : Option Nat :=
  if r.first ≤ n ∧ n ≤ r.last ∧ (n - r.first) % r.step = 0 then some (r.image + (n - r.first)) else none

def smallLetters (c : Char) : List Char :=
  if c.toNat < 0x80 then [c.toLower]
  else if c = '\u0130' then ['i', '\u0307']
  else match runs.findSome? (·.small? c.toNat) with
    | some n => [Char.ofNat n]
    | none => [c]

def leadsToCased (cs : List Char) : Bool :=
  match cs.dropWhile caseIgnorableRanges.contains with
  | [] => false
  | c :: _ => casedRanges.contains c

def sigma (before after : List Char) : Char :=
  if leadsToCased before && !leadsToCased after then '\u03c2' else '\u03c3'

/-- `before` holds what precedes the text, nearest first. -/
def lowerAfter (before : List Char) : List Char → List Char
  | [] => []
  | c :: rest =>
    (if c = '\u03a3' then [sigma before rest] else smallLetters c) ++ lowerAfter (c :: before) rest

end LowerCase

def lower (s : String) : String :=
  String.ofList (LowerCase.lowerAfter [] s.toList)

end MailDiscovery.Text
