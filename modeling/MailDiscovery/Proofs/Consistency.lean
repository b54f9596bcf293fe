import MailDiscovery.Proofs.Run.Call
import MailDiscovery.Proofs.Run.Turn

namespace MailDiscovery.Service

variable {s t : Service} {env : Environment}

def Consistent (s : Service) : Prop :=
  ∀ url host, s.locator = .url url host → url.host? = some host

theorem Consistent.of_locator (hs : s.Consistent) (h : t.locator = s.locator) : t.Consistent :=
  fun url host ht => hs url host (h ▸ ht)

theorem consistent_reset (s : Service) : s.reset.Consistent := by
  intro url host h
  cases h

theorem consistent_setDomain (s : Service) (domain : String) : (s.setDomain domain).Consistent := by
  intro url host h
  cases h

theorem consistent_url {url : Uri} {host : String} (h : url.host? = some host) (ht : t.locator = .url url host) :
    t.Consistent := by
  intro other name heq
  rw [ht] at heq
  cases heq
  exact h

theorem consistent_setUrl {url : Uri} (h : s.setUrl url = .ok t) : t.Consistent := by
  unfold setUrl Locator.ofUrl at h
  cases hh : url.host? with
  | none =>
    rw [hh] at h
    cases h
  | some host =>
    rw [hh] at h
    cases h
    exact consistent_url hh rfl

theorem Consistent.adopt (hs : s.Consistent) (url : Uri) : (s.adopt url).Consistent := by
  unfold Service.adopt Locator.ofUrl
  cases hh : url.host? with
  | none => exact hs
  | some host => exact consistent_url hh rfl

theorem Resolved.consistent {q : Query} {domain : String} {r : Redirection} {answer : Answer} {followed : Nat}
    {events : Record} (h : s.Resolved env q domain r (.ok (answer, t)) followed events) (hs : s.Consistent) :
    t.Consistent := by
  cases h with
  | served hl hf => exact hs.adopt _
  | servedAt hl hg hf => exact hs.adopt _
  | found hl hd => exact hs.adopt _

theorem Turned.consistent {address : String} {response : Response UserSetting} {r : Redirection} {turn : Turn}
    (h : s.Turned address response r (.ok turn)) : turn.service.Consistent := by
  cases h with
  | toAddress hc hn ht => exact s.consistent_reset
  | toUrl hc hn ht hu ha hh => exact consistent_url hh rfl

theorem Rounds.consistent {settings : List UserSetting} {address : String} {r : Redirection}
    {result : Except Failure (Response UserSetting)} {events : Record}
    (h : Rounds env settings s address r result t events) (hs : s.Consistent) : t.Consistent := by
  induction h with
  | unaddressed ha => exact hs
  | unresolved ha hr => exact hs
  | refused ha hr ho => exact hr.consistent hs
  | answered ha hr ho ht => exact hr.consistent hs
  | stuck ha hr ho ht => exact hr.consistent hs
  | turned ha hr ho ht hn ih => exact ih (turned_of_turn? ht).2.consistent

theorem Collected.consistent {ν : Type} {q : Query} {select : Answer → Except Failure (Collection ν)}
    {identities : List String} {domain : String} {result : Except Failure (Collection ν)} {events : Record}
    (h : s.Collected env q select identities domain result t events) (hs : s.Consistent) : t.Consistent := by
  cases h with
  | unresolved hr => exact hs
  | resolved hr ho => exact hr.consistent hs

theorem AskedLegacy.locator {address : String} {settings : List UserSetting}
    {result : Except Failure (Response UserSetting)} {events : Record}
    (h : s.AskedLegacy env address settings result t events) : t.locator = s.locator ∧ t.client = s.client := by
  cases h with
  | unfound | found | unplaced | asked | unnamed | askedAt => exact ⟨rfl, rfl⟩

theorem Performed.consistent {call : Call} {result : Except Failure Reply} {events : Record}
    (h : s.Performed env call result t events) (hs : s.Consistent) : t.Consistent := by
  cases h with
  | blankAddress | noSettings | noUsers | noDomains | noDomain => exact hs
  | rounds hb hset hv hr => exact hr.consistent hs
  | legacy hb hset hv hr => exact hs.of_locator hr.locator.1
  | users hc hr | domains hc hr | domain hc hr => exact hr.consistent hs

theorem AskedPartner.consistent {domain : String} {result : Except Failure (Option PartnerAccess)} {events : Record}
    (h : s.AskedPartner env domain result t events) (hs : s.Consistent) : t.Consistent := by
  cases h with
  | rejected | unresolved => exact hs
  | ungranted hc hr | granted hc hr => exact hr.consistent hs

/-- Services that come of a client by what they are told and asked, in any order and any world. -/
inductive Reachable (c : Client) : Service → Prop
  | initial : Reachable c { client := c }
  | setUrl {s t : Service} {url : Uri} (hs : Reachable c s) (ht : s.setUrl url = .ok t) : Reachable c t
  | setDomain {s : Service} (hs : Reachable c s) (domain : String) : Reachable c (s.setDomain domain)
  | reset {s : Service} (hs : Reachable c s) : Reachable c s.reset
  | perform {s : Service} (hs : Reachable c s) (call : Call) (env : Environment) (log : Record) :
      Reachable c (s.perform call env log).1.2
  | partnerAccess {s : Service} (hs : Reachable c s) (domain : String) (env : Environment) (log : Record) :
      Reachable c (s.partnerAccess domain env log).1.2

theorem Reachable.consistent {c : Client} (h : Reachable c s) : s.Consistent := by
  induction h with
  | initial =>
    intro url host h
    cases h
  | setUrl hs ht => exact consistent_setUrl ht
  | setDomain hs domain => exact consistent_setDomain _ domain
  | reset hs => exact consistent_reset _
  | @perform s hs call env log ih =>
    obtain ⟨events, -, hrun⟩ := @meets_perform env s call log
    exact hrun.consistent ih
  | @partnerAccess s hs domain env log ih =>
    obtain ⟨events, -, hrun⟩ := @meets_partnerAccess env s domain log
    exact hrun.consistent ih

end MailDiscovery.Service
