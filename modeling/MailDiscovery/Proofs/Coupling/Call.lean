import MailDiscovery.Proofs.Coupling.Legacy
import MailDiscovery.Service.Call
import MailDiscovery.Service.PartnerAccess

namespace MailDiscovery.Twins

open Conversation (Coupled coupled_pure)

variable {S : Record → Record → Prop} {env env' : Environment} {c c' : Client} {s s' : Service}

def Turned (c c' : Client) (turn turn' : Turn) : Prop :=
  Twins c c' turn.service turn'.service ∧ turn.address = turn'.address ∧ turn.redirection = turn'.redirection

theorem setUrl (h : Twins c c' s s') (url : Uri) : Matched (Twins c c') (s.setUrl url) (s'.setUrl url) := by
  cases h
  unfold Service.setUrl
  cases Locator.ofUrl url with
  | error e => exact .error e
  | ok locator => exact .ok (.mk _ _)

theorem turnToAddress (h : Twins c c' s s') (response : Response UserSetting) (r : Redirection) :
    Matched (Turned c c') (s.turnToAddress response r) (s'.turnToAddress response r) := by
  unfold Service.turnToAddress
  apply (Matched.refl r.hop).bind
  rintro next _ rfl
  apply (Matched.refl response.target).bind
  rintro target _ rfl
  cases h
  exact .ok ⟨.mk _ _, rfl, rfl⟩

theorem turnToUrl (ha : Alike S env env' c c') (h : Twins c c' s s') (address : String)
    (response : Response UserSetting) (r : Redirection) :
    Matched (Turned c c') (s.turnToUrl address response r) (s'.turnToUrl address response r) := by
  have hadjust (url : Uri) : s.client.credential.adjust? url = s'.client.credential.adjust? url := by
    cases h
    exact ha.adjust?_eq url
  unfold Service.turnToUrl
  apply (Matched.refl r.hop).bind
  rintro next _ rfl
  apply (Matched.refl response.target).bind
  rintro target _ rfl
  split
  · exact .error _
  rw [hadjust]
  split
  · exact .error _
  apply (h.setUrl _).bind
  intro t t' ht
  exact .ok ⟨ht, rfl, rfl⟩

theorem turn? (ha : Alike S env env' c c') (h : Twins c c' s s') (address : String)
    (response : Response UserSetting) (r : Redirection) :
    Option.Rel (Matched (Turned c c')) (s.turn? address response r) (s'.turn? address response r) := by
  unfold Service.turn?
  split
  · exact .some (h.turnToAddress response r)
  · exact .some (h.turnToUrl ha address response r)
  · exact .none

theorem soapUserSettings {s s' : Service} (ha : Alike S env env' c c') (h : Twins c c' s s') (address : String)
    (settings : List UserSetting) (r : Redirection) :
    Coupled S env env' (s.soapUserSettings address settings r) (s'.soapUserSettings address settings r)
      (Replied c c') := by
  rw [Service.soapUserSettings, Service.soapUserSettings]
  split
  · exact coupled_pure ⟨rfl, h⟩
  rename_i domain _
  apply (h.resolve ha (.users [address] settings) domain r).bind
  rintro ⟨_, followed⟩ ⟨_, _⟩ ⟨hresult, rfl⟩
  cases hresult with
  | error e => exact coupled_pure ⟨rfl, h⟩
  | @ok a b hab =>
    obtain ⟨answer, t⟩ := a
    obtain ⟨_, t'⟩ := b
    obtain ⟨rfl, htwins⟩ := hab
    dsimp only
    split
    · exact coupled_pure ⟨rfl, htwins⟩
    rename_i response _
    -- Both services turn in the same way, so that there are as many rounds on either side.
    have hturn := htwins.turn? ha address response (r.spend followed)
    generalize ht : t.turn? address response (r.spend followed) = turn at hturn
    generalize t'.turn? address response (r.spend followed) = turn' at hturn
    cases hturn with
    | none => exact coupled_pure ⟨rfl, htwins⟩
    | some hturn =>
      cases hturn with
      | error e => exact coupled_pure ⟨rfl, htwins⟩
      | @ok turn turn' hturn =>
        obtain ⟨service, address, redirection⟩ := turn
        obtain ⟨service', _, _⟩ := turn'
        obtain ⟨htwins, rfl, rfl⟩ := hturn
        exact soapUserSettings ha htwins address settings redirection
termination_by r.left
decreasing_by exact Service.left_turn?_lt ht

theorem userSettings (ha : Alike S env env' c c') (h : Twins c c' s s') (address : String)
    (settings : List UserSetting) :
    Coupled S env env' (s.userSettings address settings) (s'.userSettings address settings) (Replied c c') := by
  have hconfig : s.client.config = s'.client.config := by
    cases h
    exact ha.config
  unfold Service.userSettings
  split
  · exact coupled_pure ⟨rfl, h⟩
  split
  · exact coupled_pure ⟨rfl, h⟩
  rw [hconfig]
  split
  · exact h.soapUserSettings ha address settings _
  · exact h.legacyUserSettings ha address settings

theorem collect {ν : Type} (ha : Alike S env env' c c') (h : Twins c c' s s') (q : Query)
    (select : Answer → Except Failure (Collection ν)) (identities : List String) (domain : String) :
    Coupled S env env' (s.collect q select identities domain) (s'.collect q select identities domain)
      (Replied c c') := by
  have hconfig : s.client.config = s'.client.config := by
    cases h
    exact ha.config
  unfold Service.collect
  rw [hconfig]
  apply (h.resolve ha q domain _).bind
  rintro ⟨_, followed⟩ ⟨_, _⟩ ⟨hresult, rfl⟩
  cases hresult with
  | error e => exact coupled_pure ⟨rfl, h⟩
  | @ok a b hab =>
    obtain ⟨answer, t⟩ := a
    obtain ⟨_, t'⟩ := b
    obtain ⟨rfl, htwins⟩ := hab
    exact coupled_pure ⟨rfl, htwins⟩

theorem checkVersion_eq (ha : Alike S env env' c c') (h : Twins c c' s s') (operation : Operation) :
    s.checkVersion operation = s'.checkVersion operation := by
  cases h
  unfold Service.checkVersion
  dsimp only
  rw [ha.config]

theorem usersSettings (ha : Alike S env env' c c') (h : Twins c c' s s') (addresses : List String)
    (settings : List UserSetting) :
    Coupled S env env' (s.usersSettings addresses settings) (s'.usersSettings addresses settings)
      (Replied c c') := by
  have hcheck : s.checkUsers addresses settings = s'.checkUsers addresses settings := by
    unfold Service.checkUsers
    rw [h.checkVersion_eq ha]
  unfold Service.usersSettings
  rw [hcheck]
  split
  · exact coupled_pure ⟨rfl, h⟩
  · exact h.collect ha _ _ _ _

theorem domainsSettings (ha : Alike S env env' c c') (h : Twins c c' s s') (names : List String)
    (requested : Option ServerVersion) (settings : List DomainSetting) :
    Coupled S env env' (s.domainsSettings names requested settings) (s'.domainsSettings names requested settings)
      (Replied c c') := by
  have hcheck : s.checkDomains names settings = s'.checkDomains names settings := by
    unfold Service.checkDomains
    rw [h.checkVersion_eq ha]
  unfold Service.domainsSettings
  rw [hcheck]
  split
  · exact coupled_pure ⟨rfl, h⟩
  · exact h.collect ha _ _ _ _

theorem domainSettings (ha : Alike S env env' c c') (h : Twins c c' s s') (name : String)
    (requested : Option ServerVersion) (settings : List DomainSetting) :
    Coupled S env env' (s.domainSettings name requested settings) (s'.domainSettings name requested settings)
      (Replied c c') := by
  unfold Service.domainSettings
  apply (h.domainsSettings ha [name] requested settings).bind
  rintro ⟨outcome, t⟩ ⟨_, t'⟩ ⟨rfl, htwins⟩
  exact coupled_pure ⟨rfl, htwins⟩

theorem perform (ha : Alike S env env' c c') (h : Twins c c' s s') (call : Call) :
    Coupled S env env' (s.perform call) (s'.perform call) (Replied c c') := by
  have replied {α β : Type} (f : α → β) {x y : Conversation (α × Service)}
      (hxy : Coupled S env env' x y (Replied c c')) :
      Coupled S env env' (do let (a, s) ← x; pure (f a, s)) (do let (a, s) ← y; pure (f a, s))
        (Replied c c') := by
    apply hxy.bind
    rintro ⟨a, s⟩ ⟨_, s'⟩ ⟨rfl, htwins⟩
    exact coupled_pure ⟨rfl, htwins⟩
  cases call with
  | user address settings => exact replied _ (h.userSettings ha address settings)
  | users addresses settings => exact replied _ (h.usersSettings ha addresses settings)
  | domains names requested settings => exact replied _ (h.domainsSettings ha names requested settings)
  | domain name requested settings => exact replied _ (h.domainSettings ha name requested settings)

theorem partnerAccess (ha : Alike S env env' c c') (h : Twins c c' s s') (domain : String) :
    Coupled S env env' (s.partnerAccess domain) (s'.partnerAccess domain) (Replied c c') := by
  have hcheck : s.checkPartner domain = s'.checkPartner domain := by
    have hurl : s.url? = s'.url? := by cases h; rfl
    have hx509 : s.client.credential.isX509 = s'.client.credential.isX509 := by
      cases h
      exact ha.isX509_eq
    unfold Service.checkPartner
    rw [h.checkVersion_eq ha, hurl, hx509]
  unfold Service.partnerAccess
  rw [hcheck]
  split
  · exact coupled_pure ⟨rfl, h⟩
  apply (h.resolve ha _ domain _).bind
  rintro ⟨_, followed⟩ ⟨_, _⟩ ⟨hresult, rfl⟩
  cases hresult with
  | error e => exact coupled_pure ⟨rfl, h⟩
  | @ok a b hab =>
    obtain ⟨answer, t⟩ := a
    obtain ⟨_, t'⟩ := b
    obtain ⟨rfl, htwins⟩ := hab
    dsimp only
    split
    · exact coupled_pure ⟨rfl, htwins⟩
    · refine coupled_pure ⟨?_, htwins⟩
      cases htwins
      rfl

end MailDiscovery.Twins
