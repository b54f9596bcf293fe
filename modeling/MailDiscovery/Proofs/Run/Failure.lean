import MailDiscovery.Service.Call

namespace MailDiscovery

variable {e : Failure}

namespace Failure

/-- Neither the limit of redirections nor the end of a search. -/
def isPlain : Failure → Bool
  | tooManyRedirections | notLocated _ => false
  | _ => true

theorem isFatal_of_isPlain (h : e.isPlain = true) : e.isFatal = false := by
  cases e <;> first | rfl | cases h

theorem ne_notLocated_of_isPlain (h : e.isPlain = true) (last : Option Failure) : e ≠ .notLocated last := by
  rintro rfl
  cases h

theorem of_bind_error {α β : Type} {x : Except Failure α} {f : α → Except Failure β} (h : (x >>= f) = .error e) :
    x = .error e ∨ ∃ a, x = .ok a ∧ f a = .error e := by
  cases x with
  | error cause => exact .inl (by simpa [bind, Except.bind] using h)
  | ok a => exact .inr ⟨a, rfl, h⟩

end Failure

open Failure (of_bind_error)

theorem Client.isPlain_of_queryRequest {c : Client} {q : Query} {url : Uri} (h : c.queryRequest q url = .error e) :
    e.isPlain = true := by
  rcases of_bind_error h with ha | ⟨headers, -, h⟩
  · unfold Credential.authorization at ha
    split at ha
    · cases ha
    · split at ha <;> cases ha
      rfl
    · cases ha
  · split at h <;> cases h
    rfl

namespace Collection

variable {ν : Type} {c : Collection ν}

theorem isPlain_of_check (h : c.check = .error e) : e.isPlain = true := by
  unfold check at h
  split at h <;> cases h
  rfl

theorem isPlain_of_assign {identities : List String} (h : c.assign identities = .error e) : e.isPlain = true := by
  unfold assign at h
  split at h <;> cases h
  rfl

theorem isPlain_of_sole {missing : Mismatch} (h : c.sole missing = .error e) : e.isPlain = true := by
  rcases of_bind_error h with h | ⟨-, -, h⟩
  · exact isPlain_of_check h
  · split at h <;> cases h
    rfl

end Collection

namespace Answer

variable {answer : Answer}

theorem isPlain_of_check (h : answer.check = .error e) : e.isPlain = true := by
  cases answer with
  | legacy answer => cases h
  | users c => exact Collection.isPlain_of_check h
  | domains c => exact Collection.isPlain_of_check h

theorem isPlain_of_users? (h : answer.users? = .error e) : e.isPlain = true := by
  unfold users? at h
  split at h <;> cases h
  rfl

theorem isPlain_of_domains? (h : answer.domains? = .error e) : e.isPlain = true := by
  unfold domains? at h
  split at h <;> cases h
  rfl

end Answer

namespace Service

variable {s : Service}

theorem isPlain_of_checkVersion {operation : Operation} (h : s.checkVersion operation = .error e) :
    e.isPlain = true := by
  unfold checkVersion at h
  split at h <;> cases h
  rfl

theorem isPlain_of_checkUsers {addresses : List String} {settings : List UserSetting}
    (h : s.checkUsers addresses settings = .error e) : e.isPlain = true := by
  rcases of_bind_error h with h | ⟨-, -, h⟩
  · exact isPlain_of_checkVersion h
  · split at h
    · cases h
      rfl
    split at h
    · cases h
      rfl
    · cases hd : firstDomain? addresses <;> rw [hd] at h <;> cases h
      rfl

theorem isPlain_of_checkDomains {domains : List String} {settings : List DomainSetting}
    (h : s.checkDomains domains settings = .error e) : e.isPlain = true := by
  rcases of_bind_error h with h | ⟨-, -, h⟩
  · exact isPlain_of_checkVersion h
  · split at h
    · cases h
      rfl
    · split at h
      · cases h
        rfl
      split at h <;> cases h
      rfl

theorem isPlain_of_soleResponse {address : String} {answer : Answer} (h : soleResponse address answer = .error e) :
    e.isPlain = true := by
  rcases of_bind_error h with h | ⟨c, -, h⟩
  · exact Answer.isPlain_of_users? h
  rcases of_bind_error h with h | ⟨-, -, h⟩
  · exact Collection.isPlain_of_check h
  rcases of_bind_error h with h | ⟨c, -, h⟩
  · exact Collection.isPlain_of_assign h
  · exact Collection.isPlain_of_sole h

end Service

end MailDiscovery
