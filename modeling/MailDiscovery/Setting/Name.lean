namespace MailDiscovery

class SettingName (ν : Type) where
  all : List ν
  text : ν → String
  mem_all : ∀ n, n ∈ all

def SettingName.ofText? {ν : Type} [SettingName ν] (s : String) : Option ν :=
  (all : List ν).find? (text · == s)

inductive UserSetting where
  | userDisplayName
  | userDN
  | userDeploymentId
  | internalMailboxServer
  | internalRpcClientServer
  | internalMailboxServerDN
  | internalWebClientUrls
  | internalEwsUrl
  | internalEcpUrl
  | internalOABUrl
  | internalUMUrl
  | internalPop3Connections
  | internalImap4Connections
  | internalSmtpConnections
  | externalMailboxServer
  | externalMailboxServerRequiresSSL
  | externalMailboxServerAuthenticationMethods
  | externalWebClientUrls
  | externalEwsUrl
  | externalEcpUrl
  | externalOABUrl
  | externalUMUrl
  | externalPop3Connections
  | externalImap4Connections
  | externalSmtpConnections
  | externalEwsVersion
  | mailboxDN
  | publicFolderServer
  | activeDirectoryServer
  | casVersion
  | ewsSupportedSchemas
  | autoDiscoverSMTPAddress
  | groupingInformation
  deriving DecidableEq, Repr

namespace UserSetting

def all : List UserSetting := [
  .userDisplayName, .userDN, .userDeploymentId, .internalMailboxServer, .internalRpcClientServer,
  .internalMailboxServerDN, .internalWebClientUrls, .internalEwsUrl, .internalEcpUrl,
  .internalOABUrl, .internalUMUrl, .internalPop3Connections, .internalImap4Connections,
  .internalSmtpConnections, .externalMailboxServer, .externalMailboxServerRequiresSSL,
  .externalMailboxServerAuthenticationMethods, .externalWebClientUrls, .externalEwsUrl,
  .externalEcpUrl, .externalOABUrl, .externalUMUrl, .externalPop3Connections,
  .externalImap4Connections, .externalSmtpConnections, .externalEwsVersion, .mailboxDN,
  .publicFolderServer, .activeDirectoryServer, .casVersion, .ewsSupportedSchemas,
  .autoDiscoverSMTPAddress, .groupingInformation]

def text : UserSetting → String
  | .userDisplayName => "UserDisplayName"
  | .userDN => "UserDN"
  | .userDeploymentId => "UserDeploymentId"
  | .internalMailboxServer => "InternalMailboxServer"
  | .internalRpcClientServer => "InternalRpcClientServer"
  | .internalMailboxServerDN => "InternalMailboxServerDN"
  | .internalWebClientUrls => "InternalWebClientUrls"
  | .internalEwsUrl => "InternalEwsUrl"
  | .internalEcpUrl => "InternalEcpUrl"
  | .internalOABUrl => "InternalOABUrl"
  | .internalUMUrl => "InternalUMUrl"
  | .internalPop3Connections => "InternalPop3Connections"
  | .internalImap4Connections => "InternalImap4Connections"
  | .internalSmtpConnections => "InternalSmtpConnections"
  | .externalMailboxServer => "ExternalMailboxServer"
  | .externalMailboxServerRequiresSSL => "ExternalMailboxServerRequiresSSL"
  | .externalMailboxServerAuthenticationMethods => "ExternalMailboxServerAuthenticationMethods"
  | .externalWebClientUrls => "ExternalWebClientUrls"
  | .externalEwsUrl => "ExternalEwsUrl"
  | .externalEcpUrl => "ExternalEcpUrl"
  | .externalOABUrl => "ExternalOABUrl"
  | .externalUMUrl => "ExternalUMUrl"
  | .externalPop3Connections => "ExternalPop3Connections"
  | .externalImap4Connections => "ExternalImap4Connections"
  | .externalSmtpConnections => "ExternalSmtpConnections"
  | .externalEwsVersion => "ExternalEwsVersion"
  | .mailboxDN => "MailboxDN"
  | .publicFolderServer => "PublicFolderServer"
  | .activeDirectoryServer => "ActiveDirectoryServer"
  | .casVersion => "CasVersion"
  | .ewsSupportedSchemas => "EwsSupportedSchemas"
  | .autoDiscoverSMTPAddress => "AutoDiscoverSMTPAddress"
  | .groupingInformation => "GroupingInformation"

theorem mem_all (n : UserSetting) : n ∈ all := by
  cases n <;> decide

end UserSetting

inductive DomainSetting where
  | externalEwsUrl
  | externalEwsVersion
  deriving DecidableEq, Repr

namespace DomainSetting

def all : List DomainSetting := [
  .externalEwsUrl, .externalEwsVersion]

def text : DomainSetting → String
  | .externalEwsUrl => "ExternalEwsUrl"
  | .externalEwsVersion => "ExternalEwsVersion"

theorem mem_all (n : DomainSetting) : n ∈ all := by
  cases n <;> decide

end DomainSetting

instance : SettingName UserSetting where
  all := UserSetting.all
  text := UserSetting.text
  mem_all := UserSetting.mem_all

instance : SettingName DomainSetting where
  all := DomainSetting.all
  text := DomainSetting.text
  mem_all := DomainSetting.mem_all

end MailDiscovery
