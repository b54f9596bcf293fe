import MailDiscovery.Service.BulkSettings

namespace MailDiscovery

structure PartnerAccess where
  credential : Credential
  url : Uri
  deriving DecidableEq

namespace PartnerAccess

def mailbox (domain : String) : String :=
  "SystemMailbox\x7be0dc1c29-89c3-4034-b678-e6c29d823ed9\x7d@" ++ domain

def token? (c : Collection UserSetting) : Option (String × String) :=
  match c.partnerToken, c.partnerReference, c.responses with
  | some token, some reference, first :: _ =>
    if first.code = .noError ∨ first.code = .redirectUrl then some (token, reference) else none
  | _, _, _ => none

end PartnerAccess

namespace Service

def checkPartner (s : Service) (domain : String) : Except Failure Unit := do
  s.checkVersion .partnerAccess
  if !s.client.credential.isX509 then .error (.misuse .certificateNeeded)
  else if s.url?.isNone then .error (.misuse .urlNeeded)
  else if Text.isBlankText domain then .error (.misuse .blankDomain)
  else .ok ()

def grant (s : Service) (token reference : String) : Except Failure PartnerAccess :=
  match s.url? with
  | none => .error (.misuse .urlUnknown)
  | some url =>
    let credential := .partnerToken token reference
    match credential.adjust? url with
    | none => .error .invalidRequest
    | some url => .ok ⟨credential, url⟩

def partnerAccess (s : Service) (domain : String) :
    Conversation (Except Failure (Option PartnerAccess) × Service) := do
  match s.checkPartner domain with
  | .error e => pure (.error e, s)
  | .ok () =>
    let address := PartnerAccess.mailbox domain
    match ← s.resolve (.users [address] [.externalEwsUrl]) domain (.start (some address) false) with
    | (.error _, _) => pure (.ok none, s)
    | (.ok (answer, s), _) =>
      match answer.users?.toOption.bind PartnerAccess.token? with
      | none => pure (.ok none, s)
      | some (token, reference) => pure ((s.grant token reference).map some, s)

end Service

end MailDiscovery
