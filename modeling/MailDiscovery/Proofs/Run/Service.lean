import MailDiscovery.Proofs.Run.Resolution
import MailDiscovery.Service.PartnerAccess
import MailDiscovery.Service.UserSettings

namespace MailDiscovery.Service

open Conversation (Meets meets_pure meets_done)

variable {env : Environment} (s : Service)

inductive Resolved (env : Environment) (q : Query) (domain : String) (r : Redirection) :
    Except Failure (Answer × Service) → Nat → Record → Prop
  | unserved {url : Uri} {host : String} {e : Failure} {followed : Nat} {events : Record}
      (hl : s.locator = .url url host) (hf : s.client.Followed q r.left url (.error e) followed events) :
      Resolved env q domain r (.error e) followed events
  | served {url : Uri} {host : String} {served : Served} {followed : Nat} {events : Record}
      (hl : s.locator = .url url host) (hf : s.client.Followed q r.left url (.ok served) followed events) :
      Resolved env q domain r (.ok (served.answer, s.adopt served.url)) followed events
  | ungated {name : String} {e : Failure} {events : Record} (hl : s.locator = .domain name)
      (hg : s.client.Gated name (.error e) events) : Resolved env q domain r (.error e) 0 events
  | unusable {name : String} {events : Record} (hl : s.locator = .domain name)
      (hg : s.client.Gated name (.ok none) events) :
      Resolved env q domain r (.error (.notLocated (some (.noUsableEndpoint name)))) 0 events
  | unservedAt {name : String} {url : Uri} {e : Failure} {followed : Nat} {events more : Record}
      (hl : s.locator = .domain name) (hg : s.client.Gated name (.ok (some url)) events)
      (hf : s.client.Followed q r.left url (.error e) followed more) :
      Resolved env q domain r (.error e) followed (events ++ more)
  | servedAt {name : String} {url : Uri} {served : Served} {followed : Nat} {events more : Record}
      (hl : s.locator = .domain name) (hg : s.client.Gated name (.ok (some url)) events)
      (hf : s.client.Followed q r.left url (.ok served) followed more) :
      Resolved env q domain r (.ok (served.answer, s.adopt served.url)) followed (events ++ more)
  | found {served : Served} {origin : Origin} {followed : Nat} {events : Record} (hl : s.locator = .undetermined)
      (hd : s.client.Discovered env q domain r (.found served origin) followed events) :
      Resolved env q domain r
        (.ok (served.answer, { s.adopt served.url with isExternal := some (origin != .directory) })) followed events
  | failed {e : Failure} {followed : Nat} {events : Record} (hl : s.locator = .undetermined)
      (hd : s.client.Discovered env q domain r (.failed e) followed events) :
      Resolved env q domain r (.error e) followed events
  | exhausted {last : Option Failure} {followed : Nat} {events : Record} (hl : s.locator = .undetermined)
      (hd : s.client.Discovered env q domain r (.exhausted last) followed events) :
      Resolved env q domain r (.error (.notLocated last)) followed events

theorem meets_resolve (q : Query) (domain : String) (r : Redirection) :
    Meets env (s.resolve q domain r) fun result events => s.Resolved env q domain r result.1 result.2 events := by
  unfold resolve
  split
  · rename_i url host hl
    apply (s.client.meets_follow q r.left url).bind
    rintro ⟨e | served, followed⟩ events hf
    · exact meets_done (.unserved hl hf)
    · exact meets_done (.served hl hf)
  · rename_i name hl
    apply (s.client.meets_endpoint name).bind
    rintro (e | _ | url) events hg
    · exact meets_done (.ungated hl hg)
    · exact meets_done (.unusable hl hg)
    apply (s.client.meets_follow q r.left url).bindAfter
    rintro ⟨e | served, followed⟩ more hf
    · exact meets_done (.unservedAt hl hg hf)
    · exact meets_done (.servedAt hl hg hf)
  · rename_i hl
    apply (s.client.meets_discover q domain r).bind
    rintro ⟨_ | _ | _, followed⟩ events hd
    · exact meets_done (.found hl hd)
    · exact meets_done (.failed hl hd)
    · exact meets_done (.exhausted hl hd)

inductive Rounds (env : Environment) (settings : List UserSetting) : Service → String → Redirection →
    Except Failure (Response UserSetting) → Service → Record → Prop
  | unaddressed {s : Service} {address : String} {r : Redirection} {e : AddressError}
      (ha : MailAddress.domain address = .error e) :
      Rounds env settings s address r (.error (.invalidAddress e)) s []
  | unresolved {s : Service} {address domain : String} {r : Redirection} {e : Failure} {followed : Nat}
      {events : Record} (ha : MailAddress.domain address = .ok domain)
      (hr : s.Resolved env (.users [address] settings) domain r (.error e) followed events) :
      Rounds env settings s address r (.error e) s events
  | refused {s t : Service} {address domain : String} {r : Redirection} {answer : Answer} {e : Failure}
      {followed : Nat} {events : Record} (ha : MailAddress.domain address = .ok domain)
      (hr : s.Resolved env (.users [address] settings) domain r (.ok (answer, t)) followed events)
      (hs : soleResponse address answer = .error e) : Rounds env settings s address r (.error e) t events
  | answered {s t : Service} {address domain : String} {r : Redirection} {answer : Answer}
      {response : Response UserSetting} {followed : Nat} {events : Record}
      (ha : MailAddress.domain address = .ok domain)
      (hr : s.Resolved env (.users [address] settings) domain r (.ok (answer, t)) followed events)
      (hs : soleResponse address answer = .ok response)
      (ht : t.turn? address response (r.spend followed) = none) :
      Rounds env settings s address r (.ok response) t events
  | stuck {s t : Service} {address domain : String} {r : Redirection} {answer : Answer}
      {response : Response UserSetting} {e : Failure} {followed : Nat} {events : Record}
      (ha : MailAddress.domain address = .ok domain)
      (hr : s.Resolved env (.users [address] settings) domain r (.ok (answer, t)) followed events)
      (hs : soleResponse address answer = .ok response)
      (ht : t.turn? address response (r.spend followed) = some (.error e)) :
      Rounds env settings s address r (.error e) t events
  | turned {s t final : Service} {address domain : String} {r : Redirection} {answer : Answer}
      {response : Response UserSetting} {turn : Turn} {followed : Nat} {events more : Record}
      {result : Except Failure (Response UserSetting)} (ha : MailAddress.domain address = .ok domain)
      (hr : s.Resolved env (.users [address] settings) domain r (.ok (answer, t)) followed events)
      (hs : soleResponse address answer = .ok response)
      (ht : t.turn? address response (r.spend followed) = some (.ok turn))
      (hn : Rounds env settings turn.service turn.address turn.redirection result final more) :
      Rounds env settings s address r result final (events ++ more)

theorem meets_soapUserSettings (s : Service) (address : String) (settings : List UserSetting) (r : Redirection) :
    Meets env (s.soapUserSettings address settings r) fun result events =>
      Rounds env settings s address r result.1 result.2 events := by
  rw [soapUserSettings]
  split
  · exact meets_pure (.unaddressed ‹_›)
  rename_i domain ha
  apply (s.meets_resolve (.users [address] settings) domain r).bind
  rintro ⟨e | ⟨answer, t⟩, followed⟩ events hr
  · exact meets_done (.unresolved ha hr)
  dsimp only
  split
  · exact meets_done (.refused ha hr ‹_›)
  rename_i response hs
  split
  · exact meets_done (.answered ha hr hs ‹_›)
  · exact meets_done (.stuck ha hr hs ‹_›)
  · rename_i turn ht
    exact (meets_soapUserSettings turn.service turn.address settings turn.redirection).mono
      fun _ _ hn => .turned ha hr hs ht hn
termination_by r.left
decreasing_by exact left_turn?_lt (by assumption)

inductive Collected {ν : Type} (env : Environment) (q : Query) (select : Answer → Except Failure (Collection ν))
    (identities : List String) (domain : String) : Except Failure (Collection ν) → Service → Record → Prop
  | unresolved {e : Failure} {followed : Nat} {events : Record}
      (hr : s.Resolved env q domain (.start none s.client.config.directoryEnabled) (.error e) followed events) :
      Collected env q select identities domain (.error e) s events
  | resolved {t : Service} {answer : Answer} {followed : Nat} {events : Record}
      {result : Except Failure (Collection ν)}
      (hr : s.Resolved env q domain (.start none s.client.config.directoryEnabled) (.ok (answer, t)) followed events)
      (hs : (select answer >>= (·.assign identities)) = result) :
      Collected env q select identities domain result t events

theorem meets_collect {ν : Type} (q : Query) (select : Answer → Except Failure (Collection ν))
    (identities : List String) (domain : String) :
    Meets env (s.collect q select identities domain) fun result events =>
      s.Collected env q select identities domain result.1 result.2 events := by
  unfold collect
  apply (s.meets_resolve q domain _).bind
  rintro ⟨e | ⟨answer, t⟩, followed⟩ events hr
  · exact meets_done (.unresolved hr)
  · exact meets_done (.resolved hr rfl)

end MailDiscovery.Service
