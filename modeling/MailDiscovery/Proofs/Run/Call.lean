import MailDiscovery.Proofs.Run.Legacy
import MailDiscovery.Proofs.Run.Service
import MailDiscovery.Service.Call

namespace MailDiscovery.Service

open Conversation (Meets meets_pure meets_done)

variable {env : Environment} (s : Service)

inductive Performed (env : Environment) : Call → Except Failure Reply → Service → Record → Prop
  | blankAddress {address : String} {settings : List UserSetting} (hb : Text.isBlankText address = true) :
      Performed env (.user address settings) (.error (.misuse .blankAddress)) s []
  | noSettings {address : String} {settings : List UserSetting} (hb : Text.isBlankText address = false)
      (hs : settings.isEmpty = true) : Performed env (.user address settings) (.error (.misuse .noSettings)) s []
  | rounds {address : String} {settings : List UserSetting} {result : Except Failure (Response UserSetting)}
      {t : Service} {events : Record} (hb : Text.isBlankText address = false) (hs : settings.isEmpty = false)
      (hv : s.client.config.version.supportsSoap = true)
      (hr : Rounds env settings s address (.start (some address) s.client.config.directoryEnabled) result t events) :
      Performed env (.user address settings) (result.map .user) t events
  | legacy {address : String} {settings : List UserSetting} {result : Except Failure (Response UserSetting)}
      {t : Service} {events : Record} (hb : Text.isBlankText address = false) (hs : settings.isEmpty = false)
      (hv : s.client.config.version.supportsSoap = false) (hr : s.AskedLegacy env address settings result t events) :
      Performed env (.user address settings) (result.map .user) t events
  | noUsers {addresses : List String} {settings : List UserSetting} {e : Failure}
      (hc : s.checkUsers addresses settings = .error e) :
      Performed env (.users addresses settings) (.error e) s []
  | users {addresses : List String} {settings : List UserSetting} {domain : String}
      {result : Except Failure (Collection UserSetting)} {t : Service} {events : Record}
      (hc : s.checkUsers addresses settings = .ok domain)
      (hr : s.Collected env (.users addresses settings) Answer.users? addresses domain result t events) :
      Performed env (.users addresses settings) (result.map .users) t events
  | noDomains {domains : List String} {requested : Option ServerVersion} {settings : List DomainSetting}
      {e : Failure} (hc : s.checkDomains domains settings = .error e) :
      Performed env (.domains domains requested settings) (.error e) s []
  | domains {domains : List String} {requested : Option ServerVersion} {settings : List DomainSetting}
      {first : String} {result : Except Failure (Collection DomainSetting)} {t : Service} {events : Record}
      (hc : s.checkDomains domains settings = .ok first)
      (hr : s.Collected env (.domains domains settings requested) Answer.domains? domains first result t events) :
      Performed env (.domains domains requested settings) (result.map .domains) t events
  | noDomain {domain : String} {requested : Option ServerVersion} {settings : List DomainSetting}
      {e : Failure} (hc : s.checkDomains [domain] settings = .error e) :
      Performed env (.domain domain requested settings) (.error e) s []
  | domain {domain first : String} {requested : Option ServerVersion} {settings : List DomainSetting}
      {result : Except Failure (Collection DomainSetting)} {t : Service} {events : Record}
      (hc : s.checkDomains [domain] settings = .ok first)
      (hr : s.Collected env (.domains [domain] settings requested) Answer.domains? [domain] first result t events) :
      Performed env (.domain domain requested settings)
        ((result >>= (·.sole .noDomainResponse)).map .domain) t events

theorem meets_userSettings (address : String) (settings : List UserSetting) :
    Meets env (s.userSettings address settings) fun result events =>
      s.Performed env (.user address settings) (result.1.map .user) result.2 events := by
  unfold userSettings
  split
  · exact meets_pure (.blankAddress ‹_›)
  rename_i hb
  rw [Bool.not_eq_true] at hb
  split
  · exact meets_pure (.noSettings hb ‹_›)
  rename_i hs
  rw [Bool.not_eq_true] at hs
  split
  · rename_i hv
    exact (s.meets_soapUserSettings address settings _).mono fun _ _ hr => .rounds hb hs hv hr
  · rename_i hv
    rw [Bool.not_eq_true] at hv
    exact (s.meets_legacyUserSettings address settings).mono fun _ _ hr => .legacy hb hs hv hr

theorem meets_usersSettings (addresses : List String) (settings : List UserSetting) :
    Meets env (s.usersSettings addresses settings) fun result events =>
      s.Performed env (.users addresses settings) (result.1.map .users) result.2 events := by
  unfold usersSettings
  split
  · exact meets_pure (.noUsers ‹_›)
  · rename_i domain hc
    exact (s.meets_collect _ Answer.users? addresses domain).mono fun _ _ hr => .users hc hr

theorem meets_domainsSettings (names : List String) (requested : Option ServerVersion)
    (settings : List DomainSetting) :
    Meets env (s.domainsSettings names requested settings) fun result events =>
      s.Performed env (.domains names requested settings) (result.1.map .domains) result.2 events := by
  unfold domainsSettings
  split
  · exact meets_pure (.noDomains ‹_›)
  · rename_i first hc
    exact (s.meets_collect _ Answer.domains? names first).mono fun _ _ hr => .domains hc hr

theorem meets_domainSettings (name : String) (requested : Option ServerVersion) (settings : List DomainSetting) :
    Meets env (s.domainSettings name requested settings) fun result events =>
      s.Performed env (.domain name requested settings) (result.1.map .domain) result.2 events := by
  unfold domainSettings domainsSettings
  split
  · exact meets_pure (.noDomain ‹_›)
  · rename_i first hc
    apply (s.meets_collect _ Answer.domains? [name] first).bind
    rintro ⟨result, t⟩ events hr
    exact meets_done (.domain hc hr)

theorem meets_perform (call : Call) :
    Meets env (s.perform call) fun result events => s.Performed env call result.1 result.2 events := by
  cases call with
  | user address settings => exact (s.meets_userSettings address settings).bind fun _ _ h => meets_done h
  | users addresses settings => exact (s.meets_usersSettings addresses settings).bind fun _ _ h => meets_done h
  | domains names requested settings =>
    exact (s.meets_domainsSettings names requested settings).bind fun _ _ h => meets_done h
  | domain name requested settings =>
    exact (s.meets_domainSettings name requested settings).bind fun _ _ h => meets_done h

inductive AskedPartner (env : Environment) (domain : String) :
    Except Failure (Option PartnerAccess) → Service → Record → Prop
  | rejected {e : Failure} (hc : s.checkPartner domain = .error e) : AskedPartner env domain (.error e) s []
  | unresolved {e : Failure} {followed : Nat} {events : Record} (hc : s.checkPartner domain = .ok ())
      (hr : s.Resolved env (.users [PartnerAccess.mailbox domain] [.externalEwsUrl]) domain
        (.start (some (PartnerAccess.mailbox domain)) false) (.error e) followed events) :
      AskedPartner env domain (.ok none) s events
  | ungranted {t : Service} {answer : Answer} {followed : Nat} {events : Record}
      (hc : s.checkPartner domain = .ok ())
      (hr : s.Resolved env (.users [PartnerAccess.mailbox domain] [.externalEwsUrl]) domain
        (.start (some (PartnerAccess.mailbox domain)) false) (.ok (answer, t)) followed events)
      (ht : answer.users?.toOption.bind PartnerAccess.token? = none) : AskedPartner env domain (.ok none) t events
  | granted {t : Service} {answer : Answer} {token reference : String} {followed : Nat} {events : Record}
      (hc : s.checkPartner domain = .ok ())
      (hr : s.Resolved env (.users [PartnerAccess.mailbox domain] [.externalEwsUrl]) domain
        (.start (some (PartnerAccess.mailbox domain)) false) (.ok (answer, t)) followed events)
      (ht : answer.users?.toOption.bind PartnerAccess.token? = some (token, reference)) :
      AskedPartner env domain ((t.grant token reference).map some) t events

theorem meets_partnerAccess (domain : String) :
    Meets env (s.partnerAccess domain) fun result events =>
      s.AskedPartner env domain result.1 result.2 events := by
  unfold partnerAccess
  split
  · exact meets_pure (.rejected ‹_›)
  rename_i hc
  apply (s.meets_resolve _ domain _).bind
  rintro ⟨e | ⟨answer, t⟩, followed⟩ events hr
  · exact meets_done (.unresolved hc hr)
  dsimp only
  split
  · exact meets_done (.ungranted hc hr ‹_›)
  · exact meets_done (.granted hc hr ‹_›)

end MailDiscovery.Service
