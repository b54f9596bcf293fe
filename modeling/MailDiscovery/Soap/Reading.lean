import MailDiscovery.Setting.Response
import MailDiscovery.Soap.Names
import MailDiscovery.Text.Number
import MailDiscovery.Xml.Body

namespace MailDiscovery.Soap

open Xml (Node)

def isEnvelopeSpace (space : Option String) : Bool :=
  space == some envelope11 || space == some envelope12

def isPart (base : String) (n : Node) : Bool :=
  n.name?.any fun name => name.base == base && isEnvelopeSpace name.space

def part? (n : Node) (base : String) : Option Node :=
  n.children.find? (isPart base)

def text? (n : Node) (base : String) : Option String :=
  n.contentOf? (name base)

def number? (n : Node) (base : String) : Except ReadingError (Option Nat) :=
  match text? n base with
  | none => .ok none
  | some s =>
    match Text.readNat16? s with
    | none => .error (.invalid base s)
    | some value => .ok (some value)

def code (n : Node) : ErrorCode :=
  (text? n "ErrorCode").elim .noError .ofText

def serverInfo (n : Node) : Except ReadingError ServerInfo := do
  let majorVersion ← number? n "MajorVersion"
  let minorVersion ← number? n "MinorVersion"
  let majorBuild ← number? n "MajorBuildNumber"
  let minorBuild ← number? n "MinorBuildNumber"
  .ok {
    majorVersion := majorVersion.getD 0
    minorVersion := minorVersion.getD 0
    majorBuild := majorBuild.getD 0
    minorBuild := minorBuild.getD 0
    version := text? n "Version" }

/-- A fault says what went wrong in one of two ways, the older without a namespace. -/
def fault (n : Node) : ReadingError :=
  let content (n : Option Node) := (n.bind Node.content?).getD ""
  match n.children.find? (·.hasBase "faultcode") with
  | some code => .fault (content (some code)) (content (n.children.find? (·.hasBase "faultstring")))
  | none =>
    .fault (content ((part? n "Code").bind (part? · "Value")))
      (content ((part? n "Reason").bind (part? · "Text")))

def webClientUrl? (n : Node) : Option WebClientUrl :=
  (text? n "Url").map fun url => ⟨(text? n "AuthenticationMethods").getD "", url⟩

def webClientUrls (setting : Node) : List WebClientUrl :=
  match setting.child? (name "WebClientUrls") with
  | none => []
  | some urls => (urls.childrenNamed (name "WebClientUrl")).filterMap webClientUrl?

def connection (n : Node) : Except ReadingError Connection := do
  let port ← number? n "Port"
  let hostname ← Xml.require "Hostname" (text? n "Hostname")
  .ok { encryptionMethod := text? n "EncryptionMethod", hostname, port }

def connections (setting : Node) : Except ReadingError (List Connection) :=
  match setting.child? (name "ProtocolConnections") with
  | none => .ok []
  | some connections => (connections.childrenNamed (name "ProtocolConnection")).mapM connection

def kind? (setting : Node) : Option String :=
  (setting.attribute? typeAttribute).map fun t =>
    String.ofList (t.toList.reverse.takeWhile (· != ':')).reverse

def value? (setting : Node) : Except ReadingError (Option SettingValue) :=
  if kind? setting = some "WebClientUrlCollectionSetting" then
    .ok (some (.webClientUrls (webClientUrls setting)))
  else if kind? setting = some "ProtocolConnectionCollectionSetting" then
    (connections setting).map fun cs => some (.connections cs)
  else
    .ok ((setting.child? (name "Value")).map fun n => .string (n.content?.getD ""))

variable {ν : Type} [DecidableEq ν] [SettingName ν]

def addSetting (s : Settings ν) (setting : Node) : Except ReadingError (Settings ν) := do
  let name ← Xml.require "Name" (text? setting "Name")
  match SettingName.ofText? name with
  | none => .ok s
  | some name => (value? setting).map (s.insertSome name)

def settings (layout : Layout) (response : Node) : Except ReadingError (Settings ν) :=
  match response.child? layout.settings with
  | none => .ok .empty
  | some list => (list.childrenNamed layout.setting).foldlM addSetting .empty

def settingError (n : Node) : SettingError where
  code := code n
  message := text? n "ErrorMessage"
  setting := (text? n "SettingName").getD ""

def settingErrors (layout : Layout) (response : Node) : List SettingError :=
  match response.child? layout.errors with
  | none => []
  | some list => (list.childrenNamed layout.error).map settingError

def response (layout : Layout) (n : Node) : Except ReadingError (Response ν) := do
  let settings ← settings layout n
  .ok {
    code := code n
    message := text? n "ErrorMessage"
    redirectTarget := text? n "RedirectTarget"
    settings
    errors := settingErrors layout n }

def responses (layout : Layout) (n : Node) : Except ReadingError (List (Response ν)) :=
  match n.child? layout.responses with
  | none => .ok []
  | some list => (list.childrenNamed layout.response).mapM (response layout)

structure Heading where
  serverInfo : Option ServerInfo := none
  partnerToken : Option String := none
  partnerReference : Option String := none

def heading (root : Node) : Except ReadingError Heading :=
  match part? root "Header" with
  | none => .ok {}
  | some header => do
    let serverInfo ← match header.child? (name "ServerVersionInfo") with
      | none => .ok none
      | some info => (serverInfo info).map some
    .ok {
      serverInfo
      partnerToken := text? header "PartnerToken"
      partnerReference := text? header "PartnerTokenReference" }

def ofRoot (layout : Layout) (root : Node) : Except ReadingError (Collection ν) := do
  if !isPart "Envelope" root then .error (.missing "Envelope")
  else
    let heading ← heading root
    let body ← Xml.require "Body" (part? root "Body")
    match part? body "Fault" with
    | some n => .error (fault n)
    | none =>
      let message ← Xml.require "ResponseMessage" (body.child? layout.message)
      let answer ← Xml.require "Response" (message.child? (name "Response"))
      let responses ← responses layout answer
      .ok {
        code := code answer
        message := text? answer "ErrorMessage"
        responses
        serverInfo := heading.serverInfo
        partnerToken := heading.partnerToken
        partnerReference := heading.partnerReference }

def ofBody (layout : Layout) (body : ByteArray) : Except ReadingError (Collection ν) := do
  ofRoot layout (← Xml.rootOfBody body)

end MailDiscovery.Soap
