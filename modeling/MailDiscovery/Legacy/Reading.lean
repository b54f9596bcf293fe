import MailDiscovery.Legacy.Answer
import MailDiscovery.Xml.Body

/-!
Answers of legacy services. Element names are matched up to the case of their letters and in any namespace, but for
those of protocol blocks and web addresses, which are matched up to the namespace alone.
-/

namespace MailDiscovery.Legacy

open Xml (Node)

def userElements : List (String × UserSetting) := [
  ("DisplayName", .userDisplayName),
  ("LegacyDN", .userDN),
  ("DeploymentId", .userDeploymentId),
  ("AutoDiscoverSMTPAddress", .autoDiscoverSMTPAddress)]

inductive Block where
  | internal
  | external
  | web
  deriving DecidableEq, Repr

namespace Block

def ofType? (kind : String) : Option Block :=
  if Text.sameLetters kind "EXCH" then some .internal
  else if Text.sameLetters kind "EXPR" then some .external
  else if Text.sameLetters kind "WEB" then some .web
  else none

def elements : Block → List (String × UserSetting)
  | internal => [
    ("Server", .internalMailboxServer),
    ("ServerDN", .internalMailboxServerDN),
    ("MdbDN", .mailboxDN),
    ("PublicFolderServer", .publicFolderServer),
    ("AD", .activeDirectoryServer),
    ("EwsUrl", .internalEwsUrl),
    ("EcpUrl", .internalEcpUrl),
    ("UMUrl", .internalUMUrl),
    ("OABUrl", .internalOABUrl)]
  | external => [
    ("Server", .externalMailboxServer),
    ("AuthPackage", .externalMailboxServerAuthenticationMethods),
    ("EwsUrl", .externalEwsUrl),
    ("EcpUrl", .externalEcpUrl),
    ("UMUrl", .externalUMUrl),
    ("OABUrl", .externalOABUrl)]
  | web => []

end Block

def addElement (block : Node) (s : Settings UserSetting) (e : String × UserSetting) : Settings UserSetting :=
  s.insertSome e.2 ((block.contentLike? e.1).map .string)

def addElements (block : Node) (s : Settings UserSetting) (es : List (String × UserSetting)) :
    Settings UserSetting :=
  es.foldl (addElement block) s

def addEncryption (block : Node) (s : Settings UserSetting) : Settings UserSetting :=
  s.insertSome .externalMailboxServerRequiresSSL ((block.contentLike? "SSL").map fun ssl =>
    .string (if Text.sameLetters ssl "on" then "True" else "False"))

def webClientUrl? (n : Node) : Option WebClientUrl :=
  if n.hasBase "OWAUrl" then do
    let methods ← n.attribute? ⟨none, "AuthenticationMethod"⟩
    let url ← n.content?
    some ⟨methods, url⟩
  else none

def webClientUrls (n : Node) : List WebClientUrl :=
  n.children.filterMap webClientUrl?

def addWebClientUrls (block : Node) (s : Settings UserSetting) (e : String × UserSetting) :
    Settings UserSetting :=
  match ((block.childLike? e.1).map webClientUrls).getD [] with
  | [] => s
  | urls => s.insert e.2 (.webClientUrls urls)

def addBlock (s : Settings UserSetting) (block : Node) : Settings UserSetting :=
  match (block.contentLike? "Type").bind Block.ofType? with
  | none => s
  | some .internal => addElements block s Block.internal.elements
  | some .external => addEncryption block (addElements block s Block.external.elements)
  | some .web =>
    [("Internal", UserSetting.internalWebClientUrls), ("External", UserSetting.externalWebClientUrls)].foldl
      (addWebClientUrls block) s

def settings (response account : Node) : Settings UserSetting :=
  let ofUser := match response.childLike? "User" with
    | none => .empty
    | some user => addElements user .empty userElements
  (account.children.filter (·.hasBase "Protocol")).foldl addBlock ofUser

def error (n : Node) : LegacyError where
  time := n.attribute? ⟨none, "Time"⟩
  id := n.attribute? ⟨none, "Id"⟩
  code := n.contentLike? "ErrorCode"
  message := n.contentLike? "Message"
  debugData := n.contentLike? "DebugData"

def ofAccount (response account : Node) : Except ReadingError LegacyAnswer :=
  let action := Text.asciiLower ((account.contentLike? "Action").getD "settings")
  if action = "settings" then .ok (.settings (settings response account))
  else if action = "redirecturl" then
    (Xml.require "RedirectUrl" (account.contentLike? "RedirectUrl")).map .redirectUrl
  else if action = "redirectaddr" then
    (Xml.require "RedirectAddr" (account.contentLike? "RedirectAddr")).map .redirectAddress
  else .error (.invalid "Action" action)

def ofRoot (root : Node) : Except ReadingError LegacyAnswer := do
  if !root.resembles "Autodiscover" then .error (.missing "Autodiscover")
  else
    let response ← Xml.require "Response" (root.childLike? "Response")
    match response.childLike? "Error" with
    | some e => .ok (.error (error e))
    | none =>
      let account ← Xml.require "Account" (response.childLike? "Account")
      match account.childLike? "Error" with
      | some e => .ok (.error (error e))
      | none => ofAccount response account

def ofBody (body : ByteArray) : Except ReadingError LegacyAnswer := do
  ofRoot (← Xml.rootOfBody body)

end MailDiscovery.Legacy
