import MailDiscovery.Proofs.Run.Failure

namespace MailDiscovery

namespace Service

theorem soleResponse_users (address : String) (c : Collection UserSetting) :
    soleResponse address (.users c) =
      if c.code = .noError then
        match c.responses with
        | [response] => .ok { response with identity := address }
        | _ => .error (.mismatch .responseCount)
      else .error (.service c.code c.message) := by
  change (c.check >>= fun _ => c.assign [address] >>= (·.sole .noUserResponse)) = _
  unfold Collection.check
  split
  · rename_i hc
    match hr : c.responses with
    | [] => simp [Collection.assign, hc, hr, bind, Except.bind]
    | [response] =>
      simp [Collection.assign, Collection.sole, Collection.check, Collection.name, hc, hr, bind, Except.bind]
    | first :: second :: rest => simp [Collection.assign, hc, hr, bind, Except.bind]
  · rfl

theorem soleResponse_eq_ok {address : String} {c : Collection UserSetting} {response : Response UserSetting}
    (h : soleResponse address (.users c) = .ok response) :
    c.code = .noError ∧ ∃ first, c.responses = [first] ∧ response = { first with identity := address } := by
  rw [soleResponse_users] at h
  split at h
  · rename_i hc
    split at h <;> cases h
    rename_i first hr
    exact ⟨hc, first, hr, rfl⟩
  · cases h

/-- Where the response for an address leads to. The redirection is charged before its target is looked at. -/
inductive Turned (s : Service) (address : String) (response : Response UserSetting) (r : Redirection) :
    Except Failure Turn → Prop
  | exceeded (hl : r.left = 0) : Turned s address response r (.error .tooManyRedirections)
  | lost {e : Failure} (hl : r.left ≠ 0) (he : e.isPlain = true) : Turned s address response r (.error e)
  | toAddress {next : Redirection} {target : String} (hc : response.code = .redirectAddress)
      (hn : r.hop? = some next) (ht : response.redirectTarget = some target) :
      Turned s address response r (.ok ⟨s.reset, (next.visit target).2, (next.visit target).1⟩)
  | toUrl {next : Redirection} {target host : String} {url adjusted : Uri} (hc : response.code = .redirectUrl)
      (hn : r.hop? = some next) (ht : response.redirectTarget = some target) (hu : Uri.ofText? target = some url)
      (ha : s.client.credential.adjust? url = some adjusted) (hh : adjusted.host? = some host) :
      Turned s address response r (.ok ⟨{ s with locator := .url adjusted host }, address, next⟩)

theorem Turned.client {s : Service} {address : String} {response : Response UserSetting} {r : Redirection} {turn : Turn}
    (h : s.Turned address response r (.ok turn)) : turn.service.client = s.client := by
  cases h with
  | toAddress | toUrl => rfl

theorem Turned.isExternal {s : Service} {address : String} {response : Response UserSetting} {r : Redirection}
    {turn : Turn} (h : s.Turned address response r (.ok turn)) : turn.service.isExternal = s.isExternal := by
  cases h with
  | toAddress | toUrl => rfl

theorem turned_turnToAddress {s : Service} {response : Response UserSetting} (address : String) (r : Redirection)
    (hc : response.code = .redirectAddress) : s.Turned address response r (s.turnToAddress response r) := by
  unfold turnToAddress Redirection.hop
  cases hn : r.hop? with
  | none => exact .exceeded (Redirection.left_eq_zero_of_hop? hn)
  | some next =>
    cases ht : response.redirectTarget with
    | none =>
      simp only [Response.target, ht]
      exact .lost (by simp [Redirection.left_of_hop? hn]) rfl
    | some target =>
      simp only [Response.target, ht]
      exact .toAddress hc hn ht

theorem turned_turnToUrl {s : Service} {response : Response UserSetting} (address : String) (r : Redirection)
    (hc : response.code = .redirectUrl) : s.Turned address response r (s.turnToUrl address response r) := by
  unfold turnToUrl Redirection.hop
  cases hn : r.hop? with
  | none => exact .exceeded (Redirection.left_eq_zero_of_hop? hn)
  | some next =>
    have hl : r.left ≠ 0 := by simp [Redirection.left_of_hop? hn]
    cases ht : response.redirectTarget with
    | none =>
      simp only [Response.target, ht]
      exact .lost hl rfl
    | some target =>
      simp only [Response.target, ht, Option.elim, bind, Except.bind]
      split
      · exact .lost hl rfl
      rename_i url hu
      split
      · exact .lost hl rfl
      rename_i adjusted ha
      unfold setUrl Locator.ofUrl
      cases hh : adjusted.host? with
      | none => exact .lost hl rfl
      | some host => exact .toUrl hc hn ht hu ha hh

theorem turned_of_turn? {s : Service} {address : String} {response : Response UserSetting} {r : Redirection}
    {result : Except Failure Turn} (h : s.turn? address response r = some result) :
    (response.code = .redirectAddress ∨ response.code = .redirectUrl) ∧ s.Turned address response r result := by
  unfold turn? at h
  split at h
  · rename_i hc
    cases h
    exact ⟨.inl hc, turned_turnToAddress address r hc⟩
  · rename_i hc
    cases h
    exact ⟨.inr hc, turned_turnToUrl address r hc⟩
  · cases h

end Service

end MailDiscovery
