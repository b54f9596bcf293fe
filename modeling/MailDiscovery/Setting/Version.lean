namespace MailDiscovery

inductive ServerVersion where
  | exchange2007Sp1
  | exchange2010
  | exchange2010Sp1
  | exchange2010Sp2
  | exchange2013
  | exchange2013Sp1
  deriving DecidableEq, Repr

namespace ServerVersion

def all : List ServerVersion :=
  [.exchange2007Sp1, .exchange2010, .exchange2010Sp1, .exchange2010Sp2, .exchange2013, .exchange2013Sp1]

def text : ServerVersion → String
  | exchange2007Sp1 => "Exchange2007_SP1"
  | exchange2010 => "Exchange2010"
  | exchange2010Sp1 => "Exchange2010_SP1"
  | exchange2010Sp2 => "Exchange2010_SP2"
  | exchange2013 => "Exchange2013"
  | exchange2013Sp1 => "Exchange2013_SP1"

/-- The name without separators, as descriptions of a configuration show it. -/
def identifier : ServerVersion → String
  | exchange2007Sp1 => "Exchange2007Sp1"
  | exchange2010 => "Exchange2010"
  | exchange2010Sp1 => "Exchange2010Sp1"
  | exchange2010Sp2 => "Exchange2010Sp2"
  | exchange2013 => "Exchange2013"
  | exchange2013Sp1 => "Exchange2013Sp1"

def ofText? (s : String) : Option ServerVersion :=
  all.find? (text · == s)

def rank : ServerVersion → Nat
  | exchange2007Sp1 => 0
  | exchange2010 => 1
  | exchange2010Sp1 => 2
  | exchange2010Sp2 => 3
  | exchange2013 => 4
  | exchange2013Sp1 => 5

def latest : ServerVersion := exchange2013Sp1

def firstWithSoap : ServerVersion := exchange2010

def firstWithPartnerTokens : ServerVersion := exchange2010Sp1

def reaches (minimum v : ServerVersion) : Bool :=
  minimum.rank ≤ v.rank

def supportsSoap (v : ServerVersion) : Bool :=
  firstWithSoap.reaches v

def supportsPartnerTokens (v : ServerVersion) : Bool :=
  firstWithPartnerTokens.reaches v

end ServerVersion

end MailDiscovery
