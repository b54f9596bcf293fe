import MailDiscovery.Setting.Name
import MailDiscovery.Setting.Version
import MailDiscovery.Soap.Names
import MailDiscovery.Xml.Escape

namespace MailDiscovery.Soap

open Xml (simpleElement wrap)

def header (action : Action) (version : ServerVersion) (recipient : String) (security : Option String) : String :=
  simpleElement "a:RequestedServerVersion" version.text ++
    simpleElement "wsa:Action" action.uri ++
    simpleElement "wsa:To" recipient ++
    security.getD ""

def declarations : String :=
  "xmlns:a=\"" ++ autodiscover ++ "\" xmlns:wsa=\"" ++ addressing ++
    "\" xmlns:xsi=\"" ++ Xml.schemaInstance ++ "\" xmlns:soap=\"" ++ envelope11 ++ "\""

def envelope (header body : String) : String :=
  "<?xml version=\"1.0\" encoding=\"utf-8\"?>\n" ++
    "<soap:Envelope " ++ declarations ++ ">\n" ++
    wrap "soap:Header" header ++ "\n" ++
    wrap "soap:Body" body ++ "\n" ++
    "</soap:Envelope>"

def requestedSettings {ν : Type} [SettingName ν] (settings : List ν) : String :=
  wrap "a:RequestedSettings" (String.join (settings.map fun s => simpleElement "a:Setting" (SettingName.text s)))

def usersBody (addresses : List String) (settings : List UserSetting) : String :=
  wrap "a:GetUserSettingsRequestMessage" (wrap "a:Request" (
    wrap "a:Users" (String.join (addresses.map fun address =>
      wrap "a:User" (simpleElement "a:Mailbox" address))) ++
    requestedSettings settings))

def domainsBody (domains : List String) (settings : List DomainSetting) (version : Option ServerVersion) :
    String :=
  wrap "a:GetDomainSettingsRequestMessage" (wrap "a:Request" (
    wrap "a:Domains" (String.join (domains.map (simpleElement "a:Domain"))) ++
    requestedSettings settings ++
    version.elim "" fun v => simpleElement "a:RequestedVersion" v.text))

end MailDiscovery.Soap
