import MailDiscovery.Proofs.HopBudget.Resolution
import MailDiscovery.Proofs.Run.Turn

namespace MailDiscovery

def Ending.ofResult {α : Type} : Except Failure α → Ending
  | .ok _ => .settled
  | .error e => if e.isFatal then .exceeded else .settled

theorem Ending.ofResult_error {α : Type} {e : Failure} (h : e.isFatal = false) :
    ofResult (.error e : Except Failure α) = .settled :=
  if_neg (by simp [h])

theorem Answer.check_of_sendsOn {answer : Answer} (h : answer.sendsOn = true) : answer.check = .ok () := by
  cases answer with
  | legacy answer => rfl
  | users c =>
    simp only [sendsOn, Bool.and_eq_true, beq_iff_eq] at h
    exact if_pos h.1.1
  | domains c => cases h

namespace Service

variable {s t : Service} {env : Environment} {address : String} {settings : List UserSetting}

theorem sendsOn_of_soleResponse {c : Collection UserSetting} {response : Response UserSetting}
    (h : soleResponse address (.users c) = .ok response) : (Answer.users c).sendsOn = response.sendsOn := by
  obtain ⟨hc, first, hr, rfl⟩ := soleResponse_eq_ok h
  simp [Answer.sendsOn, hc, hr, Response.sendsOn]

theorem not_sendsOn_of_soleResponse {c : Collection UserSetting} {e : Failure}
    (h : soleResponse address (.users c) = .error e) :
    (Answer.users c).sendsOn = false := by
  rw [soleResponse_users] at h
  split at h
  · split at h <;> cases h
    rename_i hr
    match hrs : c.responses with
    | [] => simp [Answer.sendsOn, hrs]
    | [response] => exact absurd hrs (hr response)
    | first :: second :: rest => simp [Answer.sendsOn, hrs]
  · rename_i hc
    cases h
    simp [Answer.sendsOn, hc]

theorem sendsOn_of_turn? {response : Response UserSetting} {r : Redirection} {result : Except Failure Turn}
    (h : s.turn? address response r = some result) : response.sendsOn = true := by
  obtain ⟨hc | hc, -⟩ := turned_of_turn? h <;> simp [Response.sendsOn, hc]

theorem not_sendsOn_of_turn? {response : Response UserSetting} {r : Redirection}
    (h : s.turn? address response r = none) : response.sendsOn = false := by
  unfold turn? at h
  split at h
  · cases h
  · cases h
  · simp_all [Response.sendsOn]

theorem Turned.left_eq {response : Response UserSetting} {r : Redirection} {turn : Turn}
    (h : s.Turned address response r (.ok turn)) : r.left = turn.redirection.left + 1 := by
  cases h with
  | toAddress hc hn ht =>
    rw [Redirection.left_visit]
    exact Redirection.left_of_hop? hn
  | toUrl hc hn ht hu ha hh => exact Redirection.left_of_hop? hn

theorem Resolved.spent_sole {domain : String} {r : Redirection} {answer : Answer} {followed : Nat} {events : Record}
    (h : s.Resolved env (.users [address] settings) domain r (.ok (answer, t)) followed events) :
    Spent (Event.counts (.users [address] settings) Answer.sendsOn) r.left
      (if answer.sendsOn then .pending else .settled) followed events :=
  h.spent rfl fun _ => Answer.check_of_sendsOn

theorem Rounds.spent {r : Redirection} {result : Except Failure (Response UserSetting)} {events : Record}
    (h : Rounds env settings s address r result t events) :
    ∃ followed, Spent (Event.counts (.users [address] settings) Answer.sendsOn) r.left (.ofResult result)
      followed events := by
  induction h with
  | unaddressed ha => exact ⟨0, .of_not_counted (by simp)⟩
  | unresolved ha hr => exact ⟨_, hr.spent rfl fun _ => Answer.check_of_sendsOn⟩
  | refused ha hr hs =>
    obtain ⟨c, -, -, -, rfl, -⟩ := hr.users
    have hspent := hr.spent_sole
    rw [Ending.ofResult_error (Failure.isFatal_of_isPlain (isPlain_of_soleResponse hs))]
    exact ⟨_, by simpa [not_sendsOn_of_soleResponse hs] using hspent⟩
  | answered ha hr hs ht =>
    obtain ⟨c, -, -, -, rfl, -⟩ := hr.users
    have hspent := hr.spent_sole
    rw [sendsOn_of_soleResponse hs, not_sendsOn_of_turn? ht] at hspent
    exact ⟨_, hspent⟩
  | @stuck s t address domain r answer response e followed events ha hr hs ht =>
    obtain ⟨c, -, -, -, rfl, -⟩ := hr.users
    have hspent := hr.spent_sole
    rw [sendsOn_of_soleResponse hs, sendsOn_of_turn? ht] at hspent
    obtain ⟨-, hturn⟩ := turned_of_turn? ht
    cases hturn with
    | exceeded hl => exact ⟨0, hspent.exceed (Nat.sub_eq_zero_iff_le.1 hl)⟩
    | lost hl he =>
      rw [Ending.ofResult_error (Failure.isFatal_of_isPlain he)]
      exact ⟨_, hspent.settle (Nat.lt_of_sub_ne_zero hl)⟩
  | @turned s t final address domain r answer response turn followed events more result ha hr hs ht hn ih =>
    obtain ⟨c, -, -, -, rfl, -⟩ := hr.users
    have hspent := hr.spent_sole
    rw [sendsOn_of_soleResponse hs, sendsOn_of_turn? ht] at hspent
    have hleft := (turned_of_turn? ht).2.left_eq
    obtain ⟨further, ih⟩ := ih
    have hlt : followed < r.left := by
      simp only [Redirection.spend] at hleft
      omega
    have heq : turn.redirection.left = r.left - (followed + 1) := by
      simp only [Redirection.spend] at hleft
      omega
    -- What counts as a redirection does not depend on the address.
    rw [heq] at ih
    exact ⟨_, (hspent.settle hlt).append ih⟩

end Service

end MailDiscovery
