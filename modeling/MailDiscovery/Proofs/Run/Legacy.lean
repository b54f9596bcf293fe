import MailDiscovery.Proofs.Run.Resolution
import MailDiscovery.Service.LegacyResolution

namespace MailDiscovery

namespace Client

open Conversation (Meets meets_pure meets_done)

variable {env : Environment} (c : Client)

theorem legacy_of_readAnswer {address : String} {url : Uri} {response : Http.Response} {answer : Answer}
    (h : readAnswer (.legacy address) url response = .ok answer) : ∃ legacy, answer = .legacy legacy := by
  unfold readAnswer readRedirection at h
  split at h
  · split at h
    · cases h
    split at h
    · cases h
    split at h
    · cases h
      exact ⟨_, rfl⟩
    · cases h
  · split at h
    · rw [Query.read] at h
      cases hb : Legacy.ofBody response.body with
      | error e =>
        rw [hb] at h
        cases h
      | ok legacy =>
        rw [hb] at h
        cases h
        exact ⟨legacy, rfl⟩
    · cases h

inductive QueriedLegacy (address : String) (url : Uri) : Except Failure LegacyAnswer → Record → Prop
  | failed {e : Failure} {events : Record} (h : c.Queried (.legacy address) url (.error e) events) :
      QueriedLegacy address url (.error e) events
  | answered {answer : LegacyAnswer} {events : Record}
      (h : c.Queried (.legacy address) url (.ok (.legacy answer)) events) :
      QueriedLegacy address url (.ok answer) events

theorem meets_queryLegacy (address : String) (url : Uri) :
    Meets env (c.queryLegacy address url) (c.QueriedLegacy address url) := by
  unfold queryLegacy
  apply (c.meets_query (.legacy address) url).bind
  rintro (e | answer) events h
  · exact meets_done (.failed h)
  · obtain ⟨legacy, rfl⟩ : ∃ legacy, answer = .legacy legacy := by
      cases h with
      | heard _ hr => exact legacy_of_readAnswer hr
    exact meets_done (.answered h)

inductive TriedLegacy (address : String) :
    Nat → LegacyFailures → List (Candidate Uri) → LegacyStep → Nat → Record → Prop
  | exhausted {left : Nat} {failures : LegacyFailures} :
      TriedLegacy address left failures [] (.exhausted failures) 0 []
  | failed {left : Nat} {failures : LegacyFailures} {candidate : Candidate Uri} {rest : List (Candidate Uri)}
      {e : Failure} {events : Record} (h : c.QueriedLegacy address candidate.target (.error e) events)
      (he : e.isFatal = true) : TriedLegacy address left failures (candidate :: rest) (.failed e) 0 events
  | skipped {left followed : Nat} {failures : LegacyFailures} {candidate : Candidate Uri}
      {rest : List (Candidate Uri)} {e : Failure} {step : LegacyStep} {events more : Record}
      (h : c.QueriedLegacy address candidate.target (.error e) events) (he : e.isFatal = false)
      (hn : TriedLegacy address left { failures with last := some e } rest step followed more) :
      TriedLegacy address left failures (candidate :: rest) step followed (events ++ more)
  | found {left : Nat} {failures : LegacyFailures} {candidate : Candidate Uri} {rest : List (Candidate Uri)}
      {found : Settings UserSetting} {events : Record}
      (h : c.QueriedLegacy address candidate.target (.ok (.settings found)) events) :
      TriedLegacy address left failures (candidate :: rest) (.found found candidate.origin) 0 events
  | restarted {left : Nat} {failures : LegacyFailures} {candidate : Candidate Uri} {rest : List (Candidate Uri)}
      {target : String} {events : Record}
      (h : c.QueriedLegacy address candidate.target (.ok (.redirectAddress target)) events) :
      TriedLegacy address left failures (candidate :: rest) (.restart target) 0 events
  | kept {left followed : Nat} {failures : LegacyFailures} {candidate : Candidate Uri}
      {rest : List (Candidate Uri)} {e : LegacyError} {step : LegacyStep} {events more : Record}
      (h : c.QueriedLegacy address candidate.target (.ok (.error e)) events) (ho : candidate.origin = .directory)
      (hn : TriedLegacy address left (failures.keepFirst e) rest step followed more) :
      TriedLegacy address left failures (candidate :: rest) step followed (events ++ more)
  | refused {left : Nat} {failures : LegacyFailures} {candidate : Candidate Uri} {rest : List (Candidate Uri)}
      {e : LegacyError} {events : Record}
      (h : c.QueriedLegacy address candidate.target (.ok (.error e)) events) (ho : candidate.origin ≠ .directory) :
      TriedLegacy address left failures (candidate :: rest) (.failed (.legacyService e)) 0 events
  | exceeded {failures : LegacyFailures} {candidate : Candidate Uri} {rest : List (Candidate Uri)}
      {target : String} {events : Record}
      (h : c.QueriedLegacy address candidate.target (.ok (.redirectUrl target)) events) :
      TriedLegacy address 0 failures (candidate :: rest) (.failed .tooManyRedirections) 0 events
  | onward {left followed : Nat} {failures : LegacyFailures} {candidate : Candidate Uri}
      {rest : List (Candidate Uri)} {target : String} {url : Uri} {step : LegacyStep} {events more : Record}
      (h : c.QueriedLegacy address candidate.target (.ok (.redirectUrl target)) events)
      (ht : Uri.ofText? target = some url)
      (hn : TriedLegacy address left failures ({ candidate with target := url } :: rest) step followed more) :
      TriedLegacy address (left + 1) failures (candidate :: rest) step (followed + 1) (events ++ more)
  | lost {left followed : Nat} {failures : LegacyFailures} {candidate : Candidate Uri}
      {rest : List (Candidate Uri)} {target : String} {step : LegacyStep} {events more : Record}
      (h : c.QueriedLegacy address candidate.target (.ok (.redirectUrl target)) events)
      (ht : Uri.ofText? target = none) (hn : TriedLegacy address left failures rest step followed more) :
      TriedLegacy address (left + 1) failures (candidate :: rest) step (followed + 1) (events ++ more)

theorem meets_tryLegacy (address : String) (left : Nat) (failures : LegacyFailures)
    (candidates : List (Candidate Uri)) :
    Meets env (c.tryLegacy address left failures candidates) fun result events =>
      c.TriedLegacy address left failures candidates result.1 result.2 events := by
  cases candidates with
  | nil =>
    rw [tryLegacy]
    exact meets_pure .exhausted
  | cons candidate rest =>
    rw [tryLegacy]
    apply (c.meets_queryLegacy address candidate.target).bind
    rintro (e | found | target | target | e) events h
    · dsimp only
      split
      · exact meets_done (.failed h ‹_›)
      · rename_i he
        exact (meets_tryLegacy address left _ rest).mono fun _ _ hn => .skipped h (Bool.eq_false_iff.2 he) hn
    · exact meets_done (.found h)
    · cases left with
      | zero => exact meets_done (.exceeded h)
      | succ left =>
        dsimp only
        split
        · rename_i url ht
          apply (meets_tryLegacy address left failures _).bindAfter
          rintro ⟨step, followed⟩ more hn
          exact meets_done (.onward h ht hn)
        · rename_i ht
          apply (meets_tryLegacy address left failures rest).bindAfter
          rintro ⟨step, followed⟩ more hn
          exact meets_done (.lost h ht hn)
    · exact meets_done (.restarted h)
    · dsimp only
      split
      · rename_i ho
        exact (meets_tryLegacy address left _ rest).mono fun _ _ hn => .kept h ho hn
      · exact meets_done (.refused h ‹_›)
termination_by left + candidates.length

inductive FellBackLegacy (address : String) (left : Nat) (origin : Origin) (P : Option Uri → Record → Prop) :
    LegacyStep → Nat → LegacyStep → Nat → Record → Prop
  | settled {step : LegacyStep} {followed : Nat} (h : ∀ failures, step ≠ .exhausted failures) :
      FellBackLegacy address left origin P step followed step followed []
  | tried {failures : LegacyFailures} {url : Option Uri} {step : LegacyStep} {followed further : Nat}
      {events more : Record} (hp : P url events)
      (ht : c.TriedLegacy address (left - followed) failures (url.toList.map (⟨·, origin⟩)) step further more) :
      FellBackLegacy address left origin P (.exhausted failures) followed step (followed + further) (events ++ more)

theorem meets_fallBackLegacy (address : String) (left : Nat) (origin : Origin)
    {candidate : Conversation (Option Uri)} {P : Option Uri → Record → Prop} (hP : Meets env candidate P)
    (step : LegacyStep) (followed : Nat) :
    Meets env (c.fallBackLegacy address left origin candidate (step, followed)) fun result events =>
      c.FellBackLegacy address left origin P step followed result.1 result.2 events := by
  unfold fallBackLegacy
  split
  · rename_i heq
    cases heq
    apply hP.bind
    rintro url events hp
    apply (c.meets_tryLegacy address (left - followed) _ _).bindAfter
    rintro ⟨step, further⟩ more ht
    exact meets_done (.tried hp ht)
  · rename_i hne
    exact meets_pure (.settled fun failures h => hne failures followed (h ▸ rfl))

def knownUrls (listed : List String) (domain : String) : List (Candidate Uri) :=
  (listed.filterMap Uri.ofText?).map (⟨·, .directory⟩) ++
    ((WellKnown.hostGuesses domain).filterMap WellKnown.legacyHttps?).map (⟨·, .guess⟩)

inductive RoundLegacy (env : Environment) (address domain : String) (r : Redirection) :
    LegacyStep → Nat → Record → Prop
  | mk {listed : List String} {first second step : LegacyStep} {n₁ n₂ n : Nat} {es₀ es₁ es₂ es₃ : Record}
      (hl : Listed env r domain listed es₀)
      (ht : c.TriedLegacy address r.left {} (knownUrls listed domain) first n₁ es₁)
      (hr : c.FellBackLegacy address r.left .redirection (c.Pointed env (.legacy address) domain)
        first n₁ second n₂ es₂)
      (hs : c.FellBackLegacy address r.left .records (Located env domain) second n₂ step n es₃) :
      RoundLegacy env address domain r step n (es₀ ++ es₁ ++ es₂ ++ es₃)

theorem meets_legacyRound (address domain : String) (r : Redirection) :
    Meets env (c.legacyRound address domain r) fun result events =>
      c.RoundLegacy env address domain r result.1 result.2 events := by
  unfold legacyRound
  apply (meets_directoryUrls r domain).bind
  rintro listed es₀ hl
  rw [bind_assoc]
  apply (c.meets_tryLegacy address r.left {} _).bindAfter
  rintro ⟨first, n₁⟩ es₁ ht
  apply (c.meets_fallBackLegacy address r.left .redirection
    (c.meets_redirectCandidate (.legacy address) domain) first n₁).bindAfter
  rintro ⟨second, n₂⟩ es₂ hr
  apply (c.meets_fallBackLegacy address r.left .records (meets_recordCandidate domain) second n₂).mono
  rintro ⟨step, n⟩ es₃ hs
  exact .mk hl ht hr hs

inductive DiscoveredLegacy (env : Environment) :
    Redirection → String → Except Failure (Settings UserSetting × Origin) → Record → Prop
  | unaddressed {r : Redirection} {address : String} {e : AddressError}
      (ha : MailAddress.domain address = .error e) :
      DiscoveredLegacy env r address (.error (.invalidAddress e)) []
  | found {r : Redirection} {address domain : String} {found : Settings UserSetting} {origin : Origin}
      {followed : Nat} {events : Record} (ha : MailAddress.domain address = .ok domain)
      (hr : c.RoundLegacy env address domain r (.found found origin) followed events) :
      DiscoveredLegacy env r address (.ok (found, origin)) events
  | failed {r : Redirection} {address domain : String} {e : Failure} {followed : Nat} {events : Record}
      (ha : MailAddress.domain address = .ok domain)
      (hr : c.RoundLegacy env address domain r (.failed e) followed events) :
      DiscoveredLegacy env r address (.error e) events
  | exhausted {r : Redirection} {address domain : String} {failures : LegacyFailures} {followed : Nat}
      {events : Record} (ha : MailAddress.domain address = .ok domain)
      (hr : c.RoundLegacy env address domain r (.exhausted failures) followed events) :
      DiscoveredLegacy env r address (.error failures.verdict) events
  | exceeded {r : Redirection} {address domain target : String} {followed : Nat} {events : Record}
      (ha : MailAddress.domain address = .ok domain)
      (hr : c.RoundLegacy env address domain r (.restart target) followed events)
      (hh : (r.spend followed).hop? = none) :
      DiscoveredLegacy env r address (.error .tooManyRedirections) events
  | restarted {r next : Redirection} {address domain target : String} {followed : Nat} {events more : Record}
      {result : Except Failure (Settings UserSetting × Origin)} (ha : MailAddress.domain address = .ok domain)
      (hr : c.RoundLegacy env address domain r (.restart target) followed events)
      (hh : (r.spend followed).hop? = some next)
      (hn : DiscoveredLegacy env (next.visit target).1 (next.visit target).2 result more) :
      DiscoveredLegacy env r address result (events ++ more)

theorem meets_discoverLegacy (r : Redirection) (address : String) :
    Meets env (c.discoverLegacy r address) (c.DiscoveredLegacy env r address) := by
  rw [discoverLegacy]
  split
  · exact meets_pure (.unaddressed ‹_›)
  rename_i domain ha
  apply (c.meets_legacyRound address domain r).bind
  rintro ⟨found | target | e | failures, followed⟩ events hr
  · exact meets_done (.found ha hr)
  · dsimp only
    split
    · exact meets_done (.exceeded ha hr ‹_›)
    · rename_i next hh
      exact (meets_discoverLegacy (next.visit target).1 (next.visit target).2).mono
        fun _ _ hn => .restarted ha hr hh hn
  · exact meets_done (.failed ha hr)
  · exact meets_done (.exhausted ha hr)
termination_by r.left
decreasing_by
  rw [Redirection.left_visit]
  exact Redirection.left_hop?_lt (by assumption)

end Client

namespace Service

open Conversation (Meets meets_pure meets_done)

variable {env : Environment} (s : Service)

inductive AskedLegacy (env : Environment) (address : String) (settings : List UserSetting) :
    Except Failure (Response UserSetting) → Service → Record → Prop
  | unfound {e : Failure} {events : Record} (hl : s.locator = .undetermined)
      (hd : s.client.DiscoveredLegacy env (.start (some address) s.client.config.directoryEnabled) address
        (.error e) events) : AskedLegacy env address settings (.error e) s events
  | found {found : Settings UserSetting} {origin : Origin} {events : Record} (hl : s.locator = .undetermined)
      (hd : s.client.DiscoveredLegacy env (.start (some address) s.client.config.directoryEnabled) address
        (.ok (found, origin)) events) :
      AskedLegacy env address settings (.ok (LegacyAnswer.toResponse address settings (.settings found)))
        { s with isExternal := some (origin != .directory) } events
  | unplaced {url : Uri} {host : String} (hl : s.locator = .url url host) (hu : WellKnown.legacyOn? url = none) :
      AskedLegacy env address settings (.error .invalidRequest) s []
  | asked {url at_ : Uri} {host : String} {outcome : Except Failure LegacyAnswer} {events : Record}
      (hl : s.locator = .url url host) (hu : WellKnown.legacyOn? url = some at_)
      (hq : s.client.QueriedLegacy address at_ outcome events) :
      AskedLegacy env address settings (outcome.map (LegacyAnswer.toResponse address settings)) s events
  | unnamed {name : String} (hl : s.locator = .domain name) (hu : WellKnown.legacyHttps? name = none) :
      AskedLegacy env address settings (.error .invalidUrl) s []
  | askedAt {name : String} {url : Uri} {outcome : Except Failure LegacyAnswer} {events : Record}
      (hl : s.locator = .domain name) (hu : WellKnown.legacyHttps? name = some url)
      (hq : s.client.QueriedLegacy address url outcome events) :
      AskedLegacy env address settings (outcome.map (LegacyAnswer.toResponse address settings)) s events

theorem meets_legacyUserSettings (address : String) (settings : List UserSetting) :
    Meets env (s.legacyUserSettings address settings) fun result events =>
      s.AskedLegacy env address settings result.1 result.2 events := by
  unfold legacyUserSettings
  split
  · rename_i hl
    apply (s.client.meets_discoverLegacy _ address).bind
    rintro (e | ⟨found, origin⟩) events hd
    · exact meets_done (.unfound hl hd)
    · exact meets_done (.found hl hd)
  · rename_i url host hl
    split
    · exact meets_pure (.unplaced hl ‹_›)
    · rename_i at_ hu
      apply (s.client.meets_queryLegacy address at_).bind
      rintro outcome events hq
      exact meets_done (.asked hl hu hq)
  · rename_i name hl
    split
    · exact meets_pure (.unnamed hl ‹_›)
    · rename_i url hu
      apply (s.client.meets_queryLegacy address url).bind
      rintro outcome events hq
      exact meets_done (.askedAt hl hu hq)

end Service

end MailDiscovery
