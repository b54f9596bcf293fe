import MailDiscovery.Setting.Name
import MailDiscovery.Setting.Value
import MailDiscovery.Uri.Basic

namespace MailDiscovery

inductive ErrorCode where
  | noError
  | redirectAddress
  | redirectUrl
  | invalidUser
  | invalidRequest
  | invalidSetting
  | settingIsNotAvailable
  | serverBusy
  | invalidDomain
  | notFederated
  | internalServerError
  deriving DecidableEq, Repr

namespace ErrorCode

def all : List ErrorCode := [
  .noError, .redirectAddress, .redirectUrl, .invalidUser, .invalidRequest, .invalidSetting,
  .settingIsNotAvailable, .serverBusy, .invalidDomain, .notFederated, .internalServerError]

def text : ErrorCode → String
  | noError => "NoError"
  | redirectAddress => "RedirectAddress"
  | redirectUrl => "RedirectUrl"
  | invalidUser => "InvalidUser"
  | invalidRequest => "InvalidRequest"
  | invalidSetting => "InvalidSetting"
  | settingIsNotAvailable => "SettingIsNotAvailable"
  | serverBusy => "ServerBusy"
  | invalidDomain => "InvalidDomain"
  | notFederated => "NotFederated"
  | internalServerError => "InternalServerError"

def ofText (s : String) : ErrorCode :=
  (all.find? (text · == s)).getD .internalServerError

end ErrorCode

structure SettingError where
  code : ErrorCode
  message : Option String
  setting : String
  deriving DecidableEq, Repr

@[ext] structure Settings (ν : Type) where
  get? : ν → Option SettingValue

namespace Settings

variable {ν : Type}

def empty : Settings ν := ⟨fun _ => none⟩

def insert [DecidableEq ν] (s : Settings ν) (name : ν) (value : SettingValue) : Settings ν :=
  ⟨fun n => if n = name then some value else s.get? n⟩

def insertSome [DecidableEq ν] (s : Settings ν) (name : ν) : Option SettingValue → Settings ν
  | none => s
  | some value => s.insert name value

def erase [DecidableEq ν] (s : Settings ν) (name : ν) : Settings ν :=
  ⟨fun n => if n = name then none else s.get? n⟩

def toList [SettingName ν] (s : Settings ν) : List (ν × SettingValue) :=
  SettingName.all.filterMap fun n => (s.get? n).map fun value => (n, value)

end Settings

structure Response (ν : Type) where
  identity : String := ""
  code : ErrorCode := .noError
  message : Option String := none
  redirectTarget : Option String := none
  settings : Settings ν := ⟨fun _ => none⟩
  errors : List SettingError := []

namespace Response

def report {ν : Type} [SettingName ν] (r : Response ν) : String :=
  r.identity ++ " (" ++ r.code.text ++ ")\n" ++
    r.message.elim "" (fun message => "  Message: " ++ message ++ "\n") ++
    r.redirectTarget.elim "" (fun target => "  Redirect target: " ++ target ++ "\n") ++
    String.join (r.settings.toList.map fun s =>
      "  " ++ SettingName.text s.1 ++ ": " ++ s.2.text ++ "\n") ++
    String.join (r.errors.map fun e =>
      "  " ++ e.setting ++ " unavailable: " ++ e.code.text ++ "\n")

end Response

structure ServerInfo where
  majorVersion : Nat
  minorVersion : Nat
  majorBuild : Nat
  minorBuild : Nat
  version : Option String
  deriving DecidableEq, Repr

structure Collection (ν : Type) where
  code : ErrorCode := .noError
  message : Option String := none
  redirectUrl : Option Uri := none
  responses : List (Response ν) := []
  serverInfo : Option ServerInfo := none
  partnerToken : Option String := none
  partnerReference : Option String := none

namespace Collection

def redirection {ν : Type} (url : Uri) : Collection ν :=
  { code := .redirectUrl, redirectUrl := some url }

end Collection

end MailDiscovery
