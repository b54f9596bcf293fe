namespace MailDiscovery

structure WebClientUrl where
  authenticationMethods : String
  url : String
  deriving DecidableEq, Repr

namespace WebClientUrl

def text (u : WebClientUrl) : String :=
  u.url ++ " (" ++ u.authenticationMethods ++ ")"

end WebClientUrl

structure Connection where
  encryptionMethod : Option String
  hostname : String
  port : Option Nat
  deriving DecidableEq, Repr

namespace Connection

def text (c : Connection) : String :=
  c.hostname ++ (c.port.elim "" fun port => ":" ++ toString port) ++
    c.encryptionMethod.elim "" fun method => " (" ++ method ++ ")"

end Connection

inductive SettingValue where
  | string (s : String)
  | webClientUrls (urls : List WebClientUrl)
  | connections (connections : List Connection)
  deriving DecidableEq, Repr

namespace SettingValue

def text : SettingValue → String
  | .string s => s
  | .webClientUrls urls => String.intercalate ", " (urls.map (·.text))
  | .connections cs => String.intercalate ", " (cs.map (·.text))

def string? : SettingValue → Option String
  | .string s => some s
  | _ => none

end SettingValue

end MailDiscovery
