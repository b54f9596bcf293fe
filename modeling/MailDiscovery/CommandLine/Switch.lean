import MailDiscovery.Setting.Name
import MailDiscovery.Setting.Version
import MailDiscovery.Uri.Reading

namespace MailDiscovery.CommandLine

inductive UsageError where
  | helpWanted
  | versionWanted
  | nothingGiven
  | commandNeeded
  | unknownCommand
  | unexpectedArgument
  | argumentNeeded
  | valueNeeded
  | notAChoice
  | malformedValue
  | conflict
  | needlessValue
  deriving DecidableEq, Repr

namespace UsageError

def message : UsageError → String
  | helpWanted | nothingGiven =>
    "usage: [options] user-settings <email> [--setting <name>]...\n" ++
      "       [options] domain-settings <domain>... [--setting <name>]..."
  | versionWanted => "0.1.0"
  | commandNeeded => "error: a command is needed"
  | unknownCommand => "error: unknown command"
  | unexpectedArgument => "error: unexpected argument"
  | argumentNeeded => "error: a required argument is missing"
  | valueNeeded => "error: an option lacks its value"
  | notAChoice => "error: a value is not one of the choices"
  | malformedValue => "error: a value is malformed"
  | conflict => "error: options exclude each other or are given twice"
  | needlessValue => "error: a flag takes no value"

end UsageError

inductive AuthMethod where
  | none
  | basic
  | oauth
  deriving DecidableEq, Repr

namespace AuthMethod

def all : List AuthMethod := [.none, .basic, .oauth]

def text : AuthMethod → String
  | none => "none"
  | basic => "basic"
  | oauth => "oauth"

end AuthMethod

inductive LogLevel where
  | error
  | warn
  | info
  | debug
  | trace
  deriving DecidableEq, Repr

namespace LogLevel

def all : List LogLevel := [.error, .warn, .info, .debug, .trace]

def text : LogLevel → String
  | error => "error"
  | warn => "warn"
  | info => "info"
  | debug => "debug"
  | trace => "trace"

end LogLevel

inductive Switch where
  | url
  | domain
  | serverVersion
  | auth
  | username
  | acceptRedirects
  | noDirectory
  | verbose
  | userSetting
  | domainSetting
  | help
  | version
  deriving DecidableEq, Repr

inductive Given where
  | url (u : Uri)
  | domain (name : String)
  | serverVersion (v : ServerVersion)
  | auth (method : AuthMethod)
  | username (name : String)
  | acceptRedirects
  | noDirectory
  | verbose (level : LogLevel)
  | userSetting (name : UserSetting)
  | domainSetting (name : DomainSetting)
  deriving DecidableEq, Repr

namespace Given

def switch : Given → Switch
  | url _ => .url
  | domain _ => .domain
  | serverVersion _ => .serverVersion
  | auth _ => .auth
  | username _ => .username
  | acceptRedirects => .acceptRedirects
  | noDirectory => .noDirectory
  | verbose _ => .verbose
  | userSetting _ => .userSetting
  | domainSetting _ => .domainSetting

end Given

inductive Effect where
  | value (read : String → Except UsageError Given)
  | flag (given : Given)
  | stop (e : UsageError)

namespace Switch

def longName : Switch → String
  | url => "url"
  | domain => "domain"
  | serverVersion => "server-version"
  | auth => "auth"
  | username => "username"
  | acceptRedirects => "accept-redirects"
  | noDirectory => "no-scp"
  | verbose => "verbose"
  | userSetting | domainSetting => "setting"
  | help => "help"
  | version => "version"

def letter? : Switch → Option Char
  | verbose => some 'v'
  | help => some 'h'
  | version => some 'V'
  | _ => none

def isRepeatable : Switch → Bool
  | userSetting | domainSetting => true
  | _ => false

def parsed {α : Type} (read? : String → Option α) (given : α → Given) (s : String) : Except UsageError Given :=
  (read? s).elim (.error .malformedValue) fun a => .ok (given a)

def chosen {α : Type} (all : List α) (text : α → String) (given : α → Given) (s : String) :
    Except UsageError Given :=
  (all.find? (text · == s)).elim (.error .notAChoice) fun a => .ok (given a)

def effect : Switch → Effect
  | url => .value (parsed Uri.ofText? .url)
  | domain => .value fun s => .ok (.domain s)
  | serverVersion => .value (parsed ServerVersion.ofText? .serverVersion)
  | auth => .value (chosen AuthMethod.all AuthMethod.text .auth)
  | username => .value fun s => .ok (.username s)
  | acceptRedirects => .flag .acceptRedirects
  | noDirectory => .flag .noDirectory
  | verbose => .value (chosen LogLevel.all LogLevel.text .verbose)
  | userSetting => .value (parsed SettingName.ofText? .userSetting)
  | domainSetting => .value (parsed SettingName.ofText? .domainSetting)
  | help => .stop .helpWanted
  | version => .stop .versionWanted

end Switch

end MailDiscovery.CommandLine
