namespace MailDiscovery.Text

def decimalValue (digits : List Char) : Nat :=
  digits.foldl (fun n c => n * 10 + (c.toNat - 48)) 0

def readNat16? (s : String) : Option Nat :=
  let digits := match s.toList with
    | '+' :: rest => rest
    | cs => cs
  if digits ≠ [] ∧ digits.all Char.isDigit ∧ decimalValue digits < 65536 then some (decimalValue digits)
  else none

def padded3 (n : Nat) : List Char :=
  [Nat.digitChar (n / 100), Nat.digitChar (n / 10 % 10), Nat.digitChar (n % 10)]

def fraction (n : Nat) : List Char :=
  if n = 0 then [] else '.' :: ((padded3 n).reverse.dropWhile (· = '0')).reverse

def duration (milliseconds : Nat) : String :=
  if 1000 ≤ milliseconds then
    toString (milliseconds / 1000) ++ String.ofList (fraction (milliseconds % 1000)) ++ "s"
  else if 0 < milliseconds then toString milliseconds ++ "ms"
  else "0ns"

end MailDiscovery.Text
