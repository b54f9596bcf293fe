import MailDiscovery.Proofs.Consistency
import MailDiscovery.Proofs.Remembered
import MailDiscovery.Proofs.Search.Order

namespace MailDiscovery

open Conversation (bind_of_eq)
open Client (knownHosts hostOf)

variable {env : Environment} {log : Record}

namespace Client

variable {c : Client}

theorem RoundsLegacy.found {r : Redirection} {address : String} {rounds : List Round} {settings : Settings UserSetting}
    {origin : Origin} (h : c.RoundsLegacy env log r address rounds (.ok (settings, origin))) :
    ∃ earlier round before a, rounds = earlier ++ [round] ∧ round.attempts = before ++ [a] ∧
      a.outcome = .answered (.settings settings) ∧ a.candidate.origin = origin := by
  rcases h.conclusion with
    ⟨earlier, round, heq, ⟨before, a, own, hsplit, ha, hr⟩ | ⟨_, _, _, -, -, -, hr⟩ | ⟨_, -, hr⟩⟩ | hr | ⟨e, hr⟩
  · cases hr
    exact ⟨earlier, round, before, a, heq, hsplit, ha, rfl⟩
  · cases hr
  · cases hr
  · cases hr
  · cases hr

end Client

namespace Service

variable {s t : Service} {q : Query} {domain : String} {r : Redirection}

structure Spared (s : Service) (env : Environment) (log : Record) (q : Query) (domain : String) (r : Redirection)
    (e : Failure) (after : Record) : Prop where
  collect : r = .start none s.client.config.directoryEnabled → ∀ (ν : Type)
    (select : Answer → Except Failure (Collection ν)) (identities : List String),
    s.collect q select identities domain env log = ((.error e, s), after)
  soapUserSettings : ∀ address settings, q = .users [address] settings → MailAddress.domain address = .ok domain →
    s.soapUserSettings address settings r env log = ((.error e, s), after)
  partnerAccess : q = .users [PartnerAccess.mailbox domain] [.externalEwsUrl] →
    r = .start (some (PartnerAccess.mailbox domain)) false → s.checkPartner domain = .ok () →
    s.partnerAccess domain env log = ((.ok none, s), after)

theorem spared_of_resolve {e : Failure} {followed : Nat} {after : Record}
    (h : s.resolve q domain r env log = ((.error e, followed), after)) : s.Spared env log q domain r e after := by
  constructor
  case collect =>
    intro hr ν select identities
    subst hr
    rw [Service.collect, bind_of_eq h]
    rfl
  case soapUserSettings =>
    intro address settings hq hd
    subst hq
    rw [Service.soapUserSettings, hd]
    dsimp only
    rw [bind_of_eq h]
    rfl
  case partnerAccess =>
    intro hq hr hc
    subst hq hr
    rw [Service.partnerAccess, hc]
    dsimp only
    rw [bind_of_eq h]
    rfl

structure Adopted (s : Service) (env : Environment) (log : Record) (q : Query) (domain : String) (r : Redirection)
    (answer : Answer) (t : Service) (events : Record) : Prop where
  served : ∃ before request response host, events = before ++ [.exchange request (.ok response)] ∧
    request.method = .post ∧ response.isSuccess = true ∧ q.read response.body = .ok answer ∧
    request.url.host? = some host ∧ t.locator = .url request.url host
  client : t.client = s.client
  known : s.locator ≠ .undetermined → t.isExternal = s.isExternal
  discovered : s.locator = .undetermined → ∃ stages before a served,
    (s.client.hostSearch q).Searched env log r.left (s.client.hostSources q domain r) stages ∧
    s.client.Stocked env q domain r (fun listed => knownHosts listed domain) hostOf stages ∧
    events = Stage.record stages ∧ Stage.allAttempts stages = before ++ [a] ∧
    a.outcome = .ok served ∧ served.answer = answer ∧ t.isExternal = some (a.candidate.origin != .directory)

theorem adopted_of_resolve (hs : s.Consistent) (hq : q.isSoap = true) {answer : Answer} {followed : Nat}
    {events : Record} (h : s.resolve q domain r env log = ((.ok (answer, t), followed), log ++ events)) :
    s.Adopted env log q domain r answer t events := by
  have hresolved : s.Resolved env q domain r (.ok (answer, t)) followed events :=
    (s.meets_resolve q domain r).of_eq h
  obtain ⟨url, hc, hsettled⟩ := hresolved.concluded hq
  obtain ⟨host, hl⟩ := hsettled.locator
  have hhost : url.host? = some host := hresolved.consistent hs url host hl
  constructor
  case client => exact hsettled.client
  case known => exact hsettled.isExternal.resolve_left
  case served =>
    cases hc with
    | @served before request response _ hb hm ha =>
      obtain ⟨_, _, heq, -, hsuccess, hread⟩ := Event.read_of_answer? (Event.answer?_of_settling? ha)
      cases heq
      exact ⟨before, request, response, host, rfl, hm, hsuccess, hread, hhost, hl⟩
  case discovered =>
    intro hu
    obtain ⟨stages, hsearched, hrun⟩ := s.resolve_searched hu q domain r log
    rw [h, Prod.mk.injEq, Prod.mk.injEq, List.append_cancel_left_eq] at hrun
    obtain ⟨⟨hresult, -⟩, hevents⟩ := hrun
    generalize ho : (s.client.hostSearch q).outcome none (Stage.allAttempts stages) = outcome at hresult
    rcases outcome with last | e | ⟨served, origin⟩
    · cases hresult
    · cases hresult
    · cases hresult
      obtain ⟨before, a, after, hsplit, hconclusion⟩ := (s.client.hostSearch q).outcome_eq_ok ho
      obtain ⟨rfl, -⟩ := hsearched.firstSuccess.concluded hsplit hconclusion none
      rcases Client.hostSearch_cases hconclusion with ⟨_, houtcome, heq⟩ | heq
      · cases heq
        exact ⟨stages, before, a, served, hsearched, Client.hostSources_stocked hsearched, hevents, hsplit, houtcome,
          rfl, rfl⟩
      · cases heq

structure AdoptedLegacy (s : Service) (env : Environment) (log : Record) (address : String)
    (settings : List UserSetting) (result : Except Failure Reply) (t : Service) (events : Record) : Prop where
  locator : t.locator = s.locator
  client : t.client = s.client
  known : t.isExternal = s.isExternal ∨ s.locator = .undetermined ∧ ∃ reply, result = .ok reply
  discovered : s.locator = .undetermined → ∀ reply, result = .ok reply → ∃ rounds earlier round before a found,
    s.CalledLegacy env log address settings rounds result t ∧ events = Round.record rounds ∧
    rounds = earlier ++ [round] ∧ round.attempts = before ++ [a] ∧ a.outcome = .answered (.settings found) ∧
    t.isExternal = some (a.candidate.origin != .directory)

theorem adoptedLegacy_of_perform (hv : s.client.config.version.supportsSoap = false) {address : String}
    {settings : List UserSetting} {result : Except Failure Reply} {events : Record}
    (h : s.perform (.user address settings) env log = ((result, t), log ++ events)) :
    s.AdoptedLegacy env log address settings result t events := by
  have hperformed : s.Performed env (.user address settings) result t events :=
    (s.meets_perform (.user address settings)).of_eq h
  constructor
  case locator =>
    cases hperformed with
    | blankAddress | noSettings => rfl
    | rounds hb hset hsoap => simp [hv] at hsoap
    | legacy hb hset hsoap hr => exact hr.locator.1
  case client =>
    cases hperformed with
    | blankAddress | noSettings => rfl
    | rounds hb hset hsoap => simp [hv] at hsoap
    | legacy hb hset hsoap hr => exact hr.locator.2
  case known =>
    cases hperformed with
    | blankAddress | noSettings => exact .inl rfl
    | rounds hb hset hsoap => simp [hv] at hsoap
    | legacy hb hset hsoap hr =>
      cases hr with
      | found hl hd => exact .inr ⟨hl, _, rfl⟩
      | unfound | unplaced | asked | unnamed | askedAt => exact .inl rfl
  case discovered =>
    intro hu reply hreply
    obtain ⟨rounds, own, u, hcalled, hrun⟩ := s.perform_calledLegacy hu hv address settings env log
    rw [h, Prod.mk.injEq, Prod.mk.injEq, List.append_cancel_left_eq] at hrun
    obtain ⟨⟨rfl, rfl⟩, hevents⟩ := hrun
    have hcopy := hcalled
    cases hcalled with
    | blank | unasked | failed => cases hreply
    | found hrounds =>
      obtain ⟨earlier, round, before, a, heq, hsplit, houtcome, rfl⟩ := hrounds.found
      exact ⟨rounds, earlier, round, before, a, _, hcopy, hevents, heq, hsplit, houtcome, rfl⟩

theorem resolution_adopts (hs : s.Consistent) (env : Environment) (log : Record) :
    (∀ q domain r, q.isSoap = true →
      (∀ e followed after, s.resolve q domain r env log = ((.error e, followed), after) →
        s.Spared env log q domain r e after) ∧
      ∀ answer t followed after, s.resolve q domain r env log = ((.ok (answer, t), followed), after) →
        ∃ events, after = log ++ events ∧ s.Adopted env log q domain r answer t events) ∧
    (s.client.config.version.supportsSoap = false → ∀ address settings result t after,
      s.perform (.user address settings) env log = ((result, t), after) →
      ∃ events, after = log ++ events ∧ s.AdoptedLegacy env log address settings result t events) := by
  constructor
  · intro q domain r hq
    constructor
    · intro e followed after h
      exact spared_of_resolve h
    · intro answer t followed after h
      obtain ⟨events, hlog, -⟩ := s.meets_resolve q domain r log
      rw [h] at hlog
      change after = log ++ events at hlog
      subst hlog
      exact ⟨events, rfl, adopted_of_resolve hs hq h⟩
  · intro hv address settings result t after h
    obtain ⟨events, hlog, -⟩ := s.meets_perform (.user address settings) log
    rw [h] at hlog
    change after = log ++ events at hlog
    subst hlog
    exact ⟨events, rfl, adoptedLegacy_of_perform hv h⟩

def olderFormerService : Service :=
  { client := ⟨{ version := .exchange2007Sp1 }, .anonymous⟩, locator := .url formerUrl "mail.a.example" }

theorem resolution_adopts_former :
    olderFormerService.Consistent ∧ olderFormerService.client.config.version.supportsSoap = false ∧
      (∃ c after, olderFormerService.resolve (.users ["jane@a.example"] [.externalEwsUrl]) "a.example"
          (.start none true) (answering movedBody.toUTF8) [] =
            ((.ok (.users c, olderFormerService.adopt formerUrl), 0), after) ∧
        ∃ events, after = [] ++ events ∧
          olderFormerService.Adopted (answering movedBody.toUTF8) [] (.users ["jane@a.example"] [.externalEwsUrl])
            "a.example" (.start none true) (.users c) (olderFormerService.adopt formerUrl) events) ∧
      ∃ result t after, olderFormerService.perform (.user "jane@a.example" [.externalEwsUrl])
          (answering movedBody.toUTF8) [] = ((result, t), after) ∧
        ∃ events, after = [] ++ events ∧
          olderFormerService.AdoptedLegacy (answering movedBody.toUTF8) [] "jane@a.example" [.externalEwsUrl]
            result t events := by
  have hs : olderFormerService.Consistent := by
    intro url host h
    cases h
    rfl
  obtain ⟨c, hread, hc⟩ := movedBody_read
  have hanswer : Client.readAnswer (.users ["jane@a.example"] [.externalEwsUrl]) formerUrl
      ⟨200, [], movedBody.toUTF8⟩ = .ok (.users c) := by
    change ((Soap.ofBody .users movedBody.toUTF8).map Answer.users).mapError Failure.unreadable = _
    rw [hread]
    rfl
  have hverdict (target : String) : (Answer.users c).verdict ≠ .redirectUrl target := by
    unfold sendsToNobody at hc
    simp_all [Answer.verdict, Collection.verdict]
  obtain ⟨after, hquery⟩ : ∃ after, olderFormerService.client.query (.users ["jane@a.example"] [.externalEwsUrl])
      formerUrl (answering movedBody.toUTF8) [] = (.ok (.users c), after) := by
    rw [Client.query_of_transport rfl (answering_transport rfl), hanswer]
    exact ⟨_, rfl⟩
  have hresolve : olderFormerService.resolve (.users ["jane@a.example"] [.externalEwsUrl]) "a.example"
      (.start none true) (answering movedBody.toUTF8) [] =
        ((.ok (.users c, olderFormerService.adopt formerUrl), 0), after) :=
    resolve_of_query rfl hquery hverdict
  obtain ⟨hsoap, hlegacy⟩ := resolution_adopts hs (answering movedBody.toUTF8) []
  exact ⟨hs, rfl, ⟨c, after, hresolve, (hsoap _ _ _ rfl).2 _ _ _ _ hresolve⟩,
    _, _, _, rfl, hlegacy rfl "jane@a.example" [.externalEwsUrl] _ _ _ rfl⟩

end Service

end MailDiscovery
