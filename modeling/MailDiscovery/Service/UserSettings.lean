import MailDiscovery.Service.LegacyResolution

namespace MailDiscovery

namespace Redirection

def hop (r : Redirection) : Except Failure Redirection :=
  r.hop?.elim (.error .tooManyRedirections) .ok

theorem left_hop_lt {r s : Redirection} {followed : Nat} (h : (r.spend followed).hop = .ok s) :
    s.left < r.left := by
  apply Redirection.left_hop?_lt
  unfold hop at h
  cases hs : (r.spend followed).hop? with
  | none => simp [hs] at h
  | some t => simpa [hs] using h

end Redirection

namespace Response

def target {ν : Type} (r : Response ν) : Except Failure String :=
  r.redirectTarget.elim (.error (.mismatch .noRedirectTarget)) .ok

end Response

structure Turn where
  service : Service
  address : String
  redirection : Redirection

namespace Service

def turnToAddress (s : Service) (response : Response UserSetting) (r : Redirection) :
    Except Failure Turn := do
  let r ← r.hop
  let target ← response.target
  .ok ⟨s.reset, (r.visit target).2, (r.visit target).1⟩

def turnToUrl (s : Service) (address : String) (response : Response UserSetting) (r : Redirection) :
    Except Failure Turn := do
  let r ← r.hop
  let target ← response.target
  match Uri.ofText? target with
  | none => .error .invalidUrl
  | some url =>
    match s.client.credential.adjust? url with
    | none => .error .invalidRequest
    | some url => .ok ⟨← s.setUrl url, address, r⟩

def turn? (s : Service) (address : String) (response : Response UserSetting) (r : Redirection) :
    Option (Except Failure Turn) :=
  match response.code with
  | .redirectAddress => some (s.turnToAddress response r)
  | .redirectUrl => some (s.turnToUrl address response r)
  | _ => none

theorem left_turnToAddress_lt {s : Service} {response : Response UserSetting} {r : Redirection} {followed : Nat}
    {turn : Turn} (h : s.turnToAddress response (r.spend followed) = .ok turn) :
    turn.redirection.left < r.left := by
  obtain ⟨next, hop, h⟩ := Failure.of_bind_ok h
  obtain ⟨target, -, h⟩ := Failure.of_bind_ok h
  cases h
  simpa only [Redirection.left_visit] using Redirection.left_hop_lt hop

theorem left_turnToUrl_lt {s : Service} {address : String} {response : Response UserSetting} {r : Redirection}
    {followed : Nat} {turn : Turn} (h : s.turnToUrl address response (r.spend followed) = .ok turn) :
    turn.redirection.left < r.left := by
  obtain ⟨next, hop, h⟩ := Failure.of_bind_ok h
  obtain ⟨target, -, h⟩ := Failure.of_bind_ok h
  have hlt := Redirection.left_hop_lt hop
  split at h
  · cases h
  · split at h
    · cases h
    · obtain ⟨service, -, h⟩ := Failure.of_bind_ok h
      cases h
      exact hlt

theorem left_turn?_lt {s : Service} {address : String} {response : Response UserSetting} {r : Redirection}
    {followed : Nat} {turn : Turn} (h : s.turn? address response (r.spend followed) = some (.ok turn)) :
    turn.redirection.left < r.left := by
  unfold turn? at h
  split at h
  · exact left_turnToAddress_lt (Option.some.inj h)
  · exact left_turnToUrl_lt (Option.some.inj h)
  · cases h

def soleResponse (address : String) (answer : Answer) : Except Failure (Response UserSetting) := do
  let collection ← answer.users?
  collection.check
  (← collection.assign [address]).sole .noUserResponse

def soapUserSettings (s : Service) (address : String) (settings : List UserSetting) (r : Redirection) :
    Conversation (Except Failure (Response UserSetting) × Service) :=
  match MailAddress.domain address with
  | .error e => pure (.error (.invalidAddress e), s)
  | .ok domain => do
    match ← s.resolve (.users [address] settings) domain r with
    | (.error e, _) => pure (.error e, s)
    | (.ok (answer, s), followed) =>
      match soleResponse address answer with
      | .error e => pure (.error e, s)
      | .ok response =>
        match _h : s.turn? address response (r.spend followed) with
        | none => pure (.ok response, s)
        | some (.error e) => pure (.error e, s)
        | some (.ok turn) => turn.service.soapUserSettings turn.address settings turn.redirection
termination_by r.left
decreasing_by exact left_turn?_lt (by assumption)

def userSettings (s : Service) (address : String) (settings : List UserSetting) :
    Conversation (Except Failure (Response UserSetting) × Service) :=
  if Text.isBlankText address then pure (.error (.misuse .blankAddress), s)
  else if settings.isEmpty then pure (.error (.misuse .noSettings), s)
  else if s.client.config.version.supportsSoap then
    s.soapUserSettings address settings (.start (some address) s.client.config.directoryEnabled)
  else s.legacyUserSettings address settings

end Service

end MailDiscovery
