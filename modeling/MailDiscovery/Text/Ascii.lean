namespace MailDiscovery.Text

def asciiLower (s : String) : String :=
  String.ofList (s.toList.map Char.toLower)

def asciiUpper (s : String) : String :=
  String.ofList (s.toList.map Char.toUpper)

def sameLetters (s t : String) : Bool :=
  asciiLower s == asciiLower t

def hasPrefixIgnoringCase (start cs : List Char) : Bool :=
  (cs.take start.length).map Char.toLower == start

end MailDiscovery.Text
