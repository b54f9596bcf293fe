import MailDiscovery.Proofs.Coupling.Basic
import MailDiscovery.Service.Resolution

namespace MailDiscovery

open Conversation (Coupled coupled_pure)

namespace Client

def candidateOf (q : Query) (url : Uri) : Option Http.Response → Conversation (Option Uri)
  | none => pure none
  | some response =>
    if response.isRedirection then
      match redirectTarget? url response with
      | none => pure none
      | some target => if q.accepts target then approved target else pure none
    else pure none

theorem redirectCandidate_eq (c : Client) (q : Query) (domain : String) :
    c.redirectCandidate q domain =
      match WellKnown.legacyHttp? ("autodiscover." ++ domain) with
      | none => pure none
      | some url => c.probe url >>= candidateOf q url := by
  unfold redirectCandidate
  cases WellKnown.legacyHttp? ("autodiscover." ++ domain) with
  | none => rfl
  | some url => rfl

theorem coupled_candidateOf {S : Record → Record → Prop} {env env' : Environment}
    (h : ∀ url, Coupled S env env' (approved url) (approved url) Eq) (q : Query) (url : Uri)
    (reply : Option Http.Response) :
    Coupled S env env' (candidateOf q url reply) (candidateOf q url reply) Eq := by
  cases reply with
  | none => exact coupled_pure rfl
  | some response =>
    simp only [candidateOf]
    split
    · split
      · exact coupled_pure rfl
      split
      · exact h _
      · exact coupled_pure rfl
    · exact coupled_pure rfl

end Client

/-- Two clients, each in its environment, that cannot be told apart by what they send and hear. -/
structure Alike (S : Record → Record → Prop) (env env' : Environment) (c c' : Client) : Prop where
  config : c.config = c'.config
  flavour : c.credential.flavour = c'.credential.flavour
  lookUp (domain : String) :
    Coupled S env env' (Conversation.lookUp domain) (Conversation.lookUp domain) Eq
  query (q : Query) (url : Uri) : Coupled S env env' (c.query q url) (c'.query q url) Eq
  probe {host : String} {url : Uri} (hu : WellKnown.legacyHttps? host = some url) :
    Coupled S env env' (c.probe url) (c'.probe url) Eq
  redirection (q : Query) (domain : String) :
    Coupled S env env' (c.redirectCandidate q domain) (c'.redirectCandidate q domain) Eq
  records (domain : String) :
    Coupled S env env' (Client.recordCandidate domain) (Client.recordCandidate domain) Eq

namespace Alike

variable {S : Record → Record → Prop} {env env' : Environment} {c c' : Client}

theorem select?_eq (h : Alike S env env' c c') (host : String) (endpoints : EndpointSet) :
    c.credential.select? host endpoints = c'.credential.select? host endpoints := by
  unfold Credential.select? Credential.required
  rw [h.flavour]

theorem adjust?_eq (h : Alike S env env' c c') (url : Uri) :
    c.credential.adjust? url = c'.credential.adjust? url := by
  unfold Credential.adjust?
  rw [h.flavour]

theorem isX509_eq (h : Alike S env env' c c') : c.credential.isX509 = c'.credential.isX509 := by
  have hflavour := h.flavour
  cases hc : c.credential <;> cases hc' : c'.credential <;>
    simp [hc, hc', Credential.flavour, Credential.isX509] at hflavour ⊢

theorem capabilities (h : Alike S env env' c c') (left : Nat) (host : String) :
    Coupled S env env' (c.capabilities left host) (c'.capabilities left host) Eq := by
  rw [Client.capabilities, Client.capabilities]
  split
  · exact coupled_pure rfl
  rename_i url hu
  apply (h.probe hu).bind_eq
  rintro (_ | response)
  · exact coupled_pure rfl
  dsimp only
  split
  · split
    · exact coupled_pure rfl
    · cases left with
      | zero => exact coupled_pure rfl
      | succ left => exact capabilities h left _
  · exact coupled_pure rfl

theorem endpoint (h : Alike S env env' c c') (host : String) :
    Coupled S env env' (c.endpoint host) (c'.endpoint host) Eq := by
  unfold Client.endpoint
  apply (h.capabilities Redirection.limit host).bind_eq
  rintro (e | _ | ⟨found, endpoints⟩)
  · exact coupled_pure rfl
  · exact coupled_pure rfl
  · exact coupled_pure (congrArg Except.ok (h.select?_eq found endpoints))

theorem follow (h : Alike S env env' c c') (q : Query) (left : Nat) (url : Uri) :
    Coupled S env env' (c.follow q left url) (c'.follow q left url) Eq := by
  rw [Client.follow, Client.follow]
  apply (h.query q url).bind_eq
  rintro (e | answer)
  · exact coupled_pure rfl
  dsimp only
  split
  · cases left with
    | zero => exact coupled_pure rfl
    | succ left =>
      dsimp only
      split
      · exact coupled_pure rfl
      · apply (follow h q left _).bind_eq
        exact fun _ => coupled_pure rfl
  · exact coupled_pure rfl

theorem attempt (h : Alike S env env' c c') (q : Query) (left : Nat) (host : String) :
    Coupled S env env' (c.attempt q left host) (c'.attempt q left host) Eq := by
  unfold Client.attempt
  apply (h.endpoint host).bind_eq
  rintro (e | _ | url)
  · exact coupled_pure rfl
  · exact coupled_pure rfl
  · apply (h.follow q left url).bind_eq
    exact fun _ => coupled_pure rfl

theorem tryHosts (h : Alike S env env' c c') (q : Query) (left : Nat) (last : Option Failure)
    (candidates : List (Candidate String)) :
    Coupled S env env' (c.tryHosts q left last candidates) (c'.tryHosts q left last candidates) Eq := by
  induction candidates generalizing left last with
  | nil => exact coupled_pure rfl
  | cons candidate rest ih =>
    rw [Client.tryHosts, Client.tryHosts]
    apply (h.attempt q left candidate.target).bind_eq
    rintro ⟨e | served, followed⟩
    · dsimp only
      split
      · exact coupled_pure rfl
      · apply (ih _ _).bind_eq
        exact fun _ => coupled_pure rfl
    · exact coupled_pure rfl

theorem fallBack (h : Alike S env env' c c') (q : Query) (left : Nat) (origin : Origin)
    {candidate candidate' : Conversation (Option Uri)} (hc : Coupled S env env' candidate candidate' Eq)
    (state : Search Served × Nat) :
    Coupled S env env' (c.fallBack q left origin candidate state) (c'.fallBack q left origin candidate' state)
      Eq := by
  unfold Client.fallBack
  split
  · apply hc.bind_eq
    intro url
    apply (h.tryHosts q _ _ _).bind_eq
    exact fun _ => coupled_pure rfl
  · exact coupled_pure rfl

theorem directoryUrls (h : Alike S env env' c c') (r : Redirection) (domain : String) :
    Coupled S env env' (Client.directoryUrls r domain) (Client.directoryUrls r domain) Eq := by
  unfold Client.directoryUrls
  split
  · exact h.lookUp domain
  · exact coupled_pure rfl

theorem discover (h : Alike S env env' c c') (q : Query) (domain : String) (r : Redirection) :
    Coupled S env env' (c.discover q domain r) (c'.discover q domain r) Eq := by
  unfold Client.discover
  apply (h.directoryUrls r domain).bind_eq
  intro urls
  refine Conversation.Coupled.bind_eq ?_ (h.fallBack q r.left .records (h.records domain))
  refine Conversation.Coupled.bind_eq ?_ (h.fallBack q r.left .redirection (h.redirection q domain))
  exact h.tryHosts q r.left none _

end Alike

inductive Matched {α β : Type} (R : α → β → Prop) : Except Failure α → Except Failure β → Prop
  | error (e : Failure) : Matched R (.error e) (.error e)
  | ok {a : α} {b : β} (h : R a b) : Matched R (.ok a) (.ok b)

theorem Matched.refl {α : Type} (x : Except Failure α) : Matched Eq x x := by
  cases x with
  | error e => exact .error e
  | ok a => exact .ok rfl

theorem Matched.bind {α α' β β' : Type} {x : Except Failure α} {y : Except Failure α'} {f : α → Except Failure β}
    {g : α' → Except Failure β'} {R : α → α' → Prop} {R' : β → β' → Prop} (h : Matched R x y)
    (hf : ∀ a b, R a b → Matched R' (f a) (g b)) : Matched R' (x >>= f) (y >>= g) := by
  cases h with
  | error e => exact .error e
  | ok h => exact hf _ _ h

inductive Twins (c c' : Client) : Service → Service → Prop
  | mk (locator : Locator) (isExternal : Option Bool) : Twins c c' ⟨c, locator, isExternal⟩ ⟨c', locator, isExternal⟩

namespace Twins

variable {S : Record → Record → Prop} {env env' : Environment} {c c' : Client} {s s' : Service}

theorem adopt (h : Twins c c' s s') (url : Uri) : Twins c c' (s.adopt url) (s'.adopt url) := by
  cases h
  unfold Service.adopt
  split
  · exact .mk _ _
  · exact .mk _ _

theorem discovered (h : Twins c c' s s') (isExternal : Option Bool) :
    Twins c c' { s with isExternal } { s' with isExternal } := by
  cases h
  exact .mk _ _

def Answered (c c' : Client) : Except Failure (Answer × Service) × Nat → Except Failure (Answer × Service) × Nat → Prop
  | (result, followed), (result', followed') =>
    Matched (fun a b => a.1 = b.1 ∧ Twins c c' a.2 b.2) result result' ∧ followed = followed'

theorem resolve (ha : Alike S env env' c c') (h : Twins c c' s s') (q : Query) (domain : String)
    (r : Redirection) : Coupled S env env' (s.resolve q domain r) (s'.resolve q domain r) (Answered c c') := by
  have served (s s' : Service) (h : Twins c c' s s') (url : Uri) :
      Coupled S env env'
        (s.client.follow q r.left url >>= fun outcome =>
          pure (outcome.1.map fun served => (served.answer, s.adopt served.url), outcome.2))
        (s'.client.follow q r.left url >>= fun outcome =>
          pure (outcome.1.map fun served => (served.answer, s'.adopt served.url), outcome.2)) (Answered c c') := by
    have hfollow : Coupled S env env' (s.client.follow q r.left url) (s'.client.follow q r.left url) Eq := by
      cases h
      exact ha.follow q r.left url
    apply hfollow.bind_eq
    rintro ⟨e | served, followed⟩
    · exact coupled_pure ⟨.error e, rfl⟩
    · exact coupled_pure ⟨.ok ⟨rfl, h.adopt served.url⟩, rfl⟩
  have htwins := h
  obtain ⟨locator, isExternal⟩ := h
  unfold Service.resolve
  cases locator with
  | url url host => exact served _ _ htwins url
  | domain name =>
    apply (ha.endpoint name).bind_eq
    rintro (e | _ | url)
    · exact coupled_pure ⟨.error e, rfl⟩
    · exact coupled_pure ⟨.error _, rfl⟩
    · exact served _ _ htwins url
  | undetermined =>
    apply (ha.discover q domain r).bind_eq
    rintro ⟨⟨served, origin⟩ | e | last, followed⟩
    · exact coupled_pure ⟨.ok ⟨rfl, (htwins.adopt served.url).discovered _⟩, rfl⟩
    · exact coupled_pure ⟨.error e, rfl⟩
    · exact coupled_pure ⟨.error _, rfl⟩

end Twins

end MailDiscovery
