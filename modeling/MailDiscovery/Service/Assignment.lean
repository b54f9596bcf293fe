import MailDiscovery.Service.Resolution

namespace MailDiscovery

namespace Collection

variable {ν : Type}

def name : List (Response ν) → List String → List (Response ν)
  | response :: responses, identity :: identities => { response with identity } :: name responses identities
  | responses, _ => responses

def assign (c : Collection ν) (identities : List String) : Except Failure (Collection ν) :=
  if c.code = .noError ∧ c.responses.length ≠ identities.length then .error (.mismatch .responseCount)
  else .ok { c with responses := name c.responses identities }

def sole (c : Collection ν) (missing : Mismatch) : Except Failure (Response ν) := do
  c.check
  match c.responses with
  | [] => .error (.mismatch missing)
  | response :: _ => .ok response

end Collection

namespace Answer

def legacy? : Answer → Except Failure LegacyAnswer
  | .legacy answer => .ok answer
  | _ => .error (.mismatch .notLegacy)

def users? : Answer → Except Failure (Collection UserSetting)
  | .users c => .ok c
  | _ => .error (.mismatch .notUsers)

def domains? : Answer → Except Failure (Collection DomainSetting)
  | .domains c => .ok c
  | _ => .error (.mismatch .notDomains)

end Answer

end MailDiscovery
