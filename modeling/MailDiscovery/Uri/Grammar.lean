namespace MailDiscovery.Uri

def isSchemeChar (c : Char) : Bool :=
  c.isAlphanum || ['+', '.', '~', '-'].contains c

def isPathChar (c : Char) : Bool :=
  let n := c.toNat
  n == 0x21 || n == 0x22 || (0x24 ≤ n && n ≤ 0x3b) || n == 0x3d || (0x40 ≤ n && n ≤ 0x5f) ||
    (0x61 ≤ n && n ≤ 0x7e)

def isQueryChar (c : Char) : Bool :=
  let n := c.toNat
  n == 0x21 || (0x24 ≤ n && n ≤ 0x3b) || n == 0x3d || (0x3f ≤ n && n ≤ 0x7e)

def endsAuthority (c : Char) : Bool :=
  c == '/' || c == '?' || c == '#'

def isAuthorityChar (c : Char) : Bool :=
  c.isAlphanum ||
    ['!', '$', '&', '\'', '(', ')', '*', '+', ',', '-', '.', ':', ';', '=', '@', '[', ']', '_', '~'].contains c

/-- What has been seen of an authority: the colons and percent signs since the last `@` or closing bracket, and
whether brackets were opened and closed. -/
structure AuthoritySeen where
  colons : Nat := 0
  percent : Bool := false
  opened : Bool := false
  closed : Bool := false

def AuthoritySeen.step (seen : AuthoritySeen) (c : Char) : Option AuthoritySeen :=
  if c = '%' then some { seen with percent := true }
  else if !isAuthorityChar c then none
  else if c = ':' then if 8 ≤ seen.colons then none else some { seen with colons := seen.colons + 1 }
  else if c = '[' then if seen.percent || seen.opened then none else some { seen with opened := true }
  else if c = ']' then
    if !seen.opened || seen.closed then none
    else some { seen with closed := true, colons := 0, percent := false }
  else if c = '@' then some { seen with colons := 0, percent := false }
  else some seen

/-- At most one pair of brackets, percent signs only inside them or before an `@`, at most one colon for the port, and
something after the user. -/
def isAuthority (cs : List Char) : Bool :=
  match cs.foldlM AuthoritySeen.step {} with
  | none => false
  | some seen =>
    seen.opened == seen.closed && seen.colons ≤ 1 && !seen.percent && cs.getLast? != some '@'

end MailDiscovery.Uri
