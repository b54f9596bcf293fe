namespace MailDiscovery.CommandLine

inductive Word where
  | divider
  | long (name : String) (value : Option String)
  /-- Letters behind a dash; the first ones are options, and the rest may be the value of the last. -/
  | short (letters : List Char)
  | plain
  deriving DecidableEq, Repr

namespace Word

def ofLong (cs : List Char) : Word :=
  long (String.ofList (cs.takeWhile (· != '='))) ((cs.dropWhile (· != '=')).tail?.map String.ofList)

def ofChars : List Char → Word
  | ['-', '-'] => divider
  | '-' :: '-' :: cs => ofLong cs
  | ['-'] => plain
  | '-' :: cs => short cs
  | _ => plain

def ofText (s : String) : Word :=
  ofChars s.toList

def attached : List Char → Option String
  | [] => none
  | '=' :: cs => some (String.ofList cs)
  | cs => some (String.ofList cs)

end Word

end MailDiscovery.CommandLine
