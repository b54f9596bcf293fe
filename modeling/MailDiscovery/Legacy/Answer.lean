import MailDiscovery.Setting.Response

namespace MailDiscovery

structure LegacyError where
  time : Option String := none
  id : Option String := none
  code : Option String := none
  message : Option String := none
  debugData : Option String := none
  deriving DecidableEq, Repr

namespace LegacyError

def text (e : LegacyError) : String :=
  "service returned error " ++ e.code.getD "(no code)" ++ ": " ++ e.message.getD "(no message)"

end LegacyError

inductive LegacyAnswer where
  | settings (found : Settings UserSetting)
  | redirectUrl (url : String)
  | redirectAddress (address : String)
  | error (e : LegacyError)

namespace LegacyAnswer

def unavailable (name : UserSetting) : SettingError :=
  { code := .settingIsNotAvailable
    message := some (name.text ++ " is not available.")
    setting := name.text }

/-- Hands out what was found to one request after the other; what is handed out, or was never there, is reported as
not available. -/
def share (found : Settings UserSetting) (r : Response UserSetting) : List UserSetting → Response UserSetting
  | [] => r
  | name :: names =>
    match found.get? name with
    | some value => share (found.erase name) { r with settings := r.settings.insert name value } names
    | none => share found { r with errors := r.errors ++ [unavailable name] } names

def toResponse (identity : String) (requested : List UserSetting) : LegacyAnswer → Response UserSetting
  | settings found => share found { identity } requested
  | redirectUrl url => { identity, code := .redirectUrl, redirectTarget := some url }
  | redirectAddress address => { identity, code := .redirectAddress, redirectTarget := some address }
  | error e => { identity, code := .internalServerError, message := e.message }

end LegacyAnswer

end MailDiscovery
