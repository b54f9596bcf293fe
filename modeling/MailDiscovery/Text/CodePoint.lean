namespace MailDiscovery.Text.CodePoint

/-- Ranges with both ends included. -/
abbrev Table := Array (Nat × Nat)

def Table.contains (t : Table) (c : Char) : Bool :=
  t.any fun r => r.1 ≤ c.toNat && c.toNat ≤ r.2

end MailDiscovery.Text.CodePoint
