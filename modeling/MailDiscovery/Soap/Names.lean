import MailDiscovery.Xml.Tree

namespace MailDiscovery.Soap

open Xml (ExpandedName)

def envelope11 : String := "http://schemas.xmlsoap.org/soap/envelope/"

def envelope12 : String := "http://www.w3.org/2003/05/soap-envelope"

def addressing : String := "http://www.w3.org/2005/08/addressing"

def autodiscover : String := "http://schemas.microsoft.com/exchange/2010/Autodiscover"

def name (base : String) : ExpandedName := ⟨some autodiscover, base⟩

def typeAttribute : ExpandedName := ⟨some Xml.schemaInstance, "type"⟩

inductive Action where
  | getUserSettings
  | getDomainSettings
  deriving DecidableEq, Repr

namespace Action

def text : Action → String
  | getUserSettings => "GetUserSettings"
  | getDomainSettings => "GetDomainSettings"

def uri (a : Action) : String :=
  autodiscover ++ "/Autodiscover/" ++ a.text

end Action

structure Layout where
  message : ExpandedName
  responses : ExpandedName
  response : ExpandedName
  settings : ExpandedName
  setting : ExpandedName
  errors : ExpandedName
  error : ExpandedName

namespace Layout

def users : Layout where
  message := name "GetUserSettingsResponseMessage"
  responses := name "UserResponses"
  response := name "UserResponse"
  settings := name "UserSettings"
  setting := name "UserSetting"
  errors := name "UserSettingErrors"
  error := name "UserSettingError"

def domains : Layout where
  message := name "GetDomainSettingsResponseMessage"
  responses := name "DomainResponses"
  response := name "DomainResponse"
  settings := name "DomainSettings"
  setting := name "DomainSetting"
  errors := name "DomainSettingErrors"
  error := name "DomainSettingError"

end Layout

end MailDiscovery.Soap
