import MailDiscovery.Proofs.Run.Basic
import MailDiscovery.Proofs.Run.Event
import MailDiscovery.Proofs.Run.Legacy
import MailDiscovery.Proofs.Run.Turn
import MailDiscovery.Service.Call

namespace MailDiscovery

theorem Xml.rootOfBody_of_document {s : String} {root : Xml.Node} (h : Xml.Node.ofDocument? s = some root) :
    rootOfBody s.toUTF8 = .ok root := by
  have htext : String.fromUTF8? s.toUTF8 = some s := by
    unfold String.fromUTF8?
    rw [String.toUTF8_eq_toByteArray, dif_pos s.isValidUTF8]
    rfl
  unfold rootOfBody
  rw [htext]
  dsimp only
  rw [h]

theorem Soap.ofBody_of_rootOfBody {ν : Type} [DecidableEq ν] [SettingName ν] {layout : Layout} {body : ByteArray}
    {root : Xml.Node} (h : Xml.rootOfBody body = .ok root) :
    (ofBody layout body : Except ReadingError (Collection ν)) = ofRoot layout root := by
  unfold ofBody
  rw [h]
  rfl

theorem Legacy.ofBody_of_document {s : String} {root : Xml.Node} (h : Xml.Node.ofDocument? s = some root) :
    ofBody s.toUTF8 = ofRoot root := by
  unfold ofBody
  rw [Xml.rootOfBody_of_document h]
  rfl

theorem exists_ok_of_toOption_any {ε α : Type} {x : Except ε α} {p : α → Bool} (h : x.toOption.any p = true) :
    ∃ a, x = .ok a ∧ p a = true := by
  cases x with
  | error e => cases h
  | ok a => exact ⟨a, rfl, h⟩

theorem Soap.exists_ofBody {ν : Type} [DecidableEq ν] [SettingName ν] {layout : Layout} {s : String}
    {p : Collection ν → Bool}
    (h : ((Xml.Node.ofDocument? s).any fun root => (ofRoot layout root).toOption.any p) = true) :
    ∃ c, ofBody layout s.toUTF8 = .ok c ∧ p c = true := by
  obtain ⟨root, hroot, hread⟩ := (Option.any_eq_true ..).1 h
  rw [ofBody_of_rootOfBody (Xml.rootOfBody_of_document hroot)]
  exact exists_ok_of_toOption_any hread

theorem Legacy.exists_ofBody {s : String} {p : LegacyAnswer → Bool}
    (h : ((Xml.Node.ofDocument? s).any fun root => (ofRoot root).toOption.any p) = true) :
    ∃ answer, ofBody s.toUTF8 = .ok answer ∧ p answer = true := by
  obtain ⟨root, hroot, hread⟩ := (Option.any_eq_true ..).1 h
  rw [ofBody_of_document hroot]
  exact exists_ok_of_toOption_any hread

variable {env : Environment} {log after : Record} {q : Query} {url : Uri} {answer : Answer}

open Conversation (bind_of_eq)

theorem Conversation.send_of_transport {request : Http.Request} {outcome : Except TransportError Http.Response}
    (h : env.transport log.requests request = outcome) :
    send request env log = (outcome, log ++ [.exchange request outcome]) := by
  unfold send
  rw [h]

open Conversation (send_of_transport)

namespace Client

variable {c : Client}

theorem query_of_transport {request : Http.Request} {response : Http.Response}
    (hr : c.queryRequest q url = .ok request) (ht : env.transport log.requests request = .ok response) :
    c.query q url env log = (readAnswer q url response, log ++ [.exchange request (.ok response)]) := by
  unfold query
  rw [hr]
  exact bind_of_eq (send_of_transport ht) _

theorem query_of_transport_error {request : Http.Request} {e : TransportError}
    (hr : c.queryRequest q url = .ok request) (ht : env.transport log.requests request = .error e) :
    c.query q url env log = (.error (.transport e), log ++ [.exchange request (.error e)]) := by
  unfold query
  rw [hr]
  exact bind_of_eq (send_of_transport ht) _

theorem of_query_ok (h : c.query q url env log = (.ok answer, after)) :
    ∃ request response, c.queryRequest q url = .ok request ∧ env.transport log.requests request = .ok response ∧
      readAnswer q url response = .ok answer ∧ after = log ++ [.exchange request (.ok response)] := by
  cases hr : c.queryRequest q url with
  | error e =>
    unfold query at h
    rw [hr] at h
    cases h
  | ok request =>
    cases ht : env.transport log.requests request with
    | error e =>
      rw [query_of_transport_error hr ht] at h
      cases h
    | ok response =>
      rw [query_of_transport hr ht, Prod.mk.injEq] at h
      exact ⟨request, response, rfl, ht, h.1, h.2.symm⟩

theorem probe_of_transport {request : Http.Request} {response : Http.Response}
    (hr : c.probeRequest? url = some request) (ht : env.transport log.requests request = .ok response) :
    c.probe url env log = (some response, log ++ [.exchange request (.ok response)]) := by
  unfold probe
  rw [hr]
  exact bind_of_eq (send_of_transport ht) _

theorem readAnswer_of_isSuccess {response : Http.Response} (hs : response.isSuccess = true) :
    readAnswer q url response = (q.read response.body).mapError .unreadable := by
  have hr : response.isRedirection = false := by
    cases hr : response.isRedirection with
    | false => rfl
    | true => simp [Http.Response.isSuccess_eq_false hr] at hs
  rw [readAnswer, if_neg (by simp [hr]), if_pos hs]

theorem queryLegacy_of_transport {address : String} {request : Http.Request} {response : Http.Response}
    {found : LegacyAnswer} (hr : c.queryRequest (.legacy address) url = .ok request)
    (ht : env.transport log.requests request = .ok response) (hs : response.isSuccess = true)
    (hb : Legacy.ofBody response.body = .ok found) :
    c.queryLegacy address url env log = (.ok found, log ++ [.exchange request (.ok response)]) := by
  have hread : readAnswer (.legacy address) url response = .ok (.legacy found) := by
    rw [readAnswer_of_isSuccess hs, Query.read, hb]
    rfl
  unfold queryLegacy
  rw [bind_of_eq (query_of_transport hr ht), hread]
  rfl

theorem queryLegacy_of_refusal {address : String} {request : Http.Request} {response : Http.Response}
    (hr : c.queryRequest (.legacy address) url = .ok request)
    (ht : env.transport log.requests request = .ok response) (hn : response.isRedirection = false)
    (hs : response.isSuccess = false) :
    c.queryLegacy address url env log =
      (.error (.unexpectedStatus response.status), log ++ [.exchange request (.ok response)]) := by
  have hread : readAnswer (.legacy address) url response = .error (.unexpectedStatus response.status) := by
    rw [readAnswer, if_neg (by simp [hn]), if_neg (by simp [hs])]
    rfl
  unfold queryLegacy
  rw [bind_of_eq (query_of_transport hr ht), hread]
  rfl

theorem follow_of_query {left : Nat} (hq : c.query q url env log = (.ok answer, after))
    (hv : ∀ target, answer.verdict ≠ .redirectUrl target) :
    c.follow q left url env log = ((.ok ⟨answer, url⟩, 0), after) := by
  rw [follow, bind_of_eq hq]
  dsimp only
  generalize answer.verdict = verdict at hv
  cases verdict with
  | redirectUrl target => exact absurd rfl (hv target)
  | success | redirectAddress | error => rfl

section Legacy

variable {address domain target : String} {left n : Nat} {failures : LegacyFailures} {candidate : Candidate Uri}
  {rest : List (Candidate Uri)} {found : Settings UserSetting} {origin : Origin} {step : LegacyStep} {listed : List String}
  {r next : Redirection} {middle : Record}

theorem tryLegacy_of_found
    (hq : c.queryLegacy address candidate.target env log = (.ok (.settings found), after)) :
    c.tryLegacy address left failures (candidate :: rest) env log = ((.found found candidate.origin, 0), after) := by
  rw [tryLegacy, bind_of_eq hq]
  rfl

theorem tryLegacy_of_restart
    (hq : c.queryLegacy address candidate.target env log = (.ok (.redirectAddress target), after)) :
    c.tryLegacy address left failures (candidate :: rest) env log = ((.restart target, 0), after) := by
  rw [tryLegacy, bind_of_eq hq]
  rfl

theorem tryLegacy_of_skipped {e : Failure}
    (hq : c.queryLegacy address candidate.target env log = (.error e, middle)) (he : e.isFatal = false)
    (hn : c.tryLegacy address left { failures with last := some e } rest env middle = ((step, n), after)) :
    c.tryLegacy address left failures (candidate :: rest) env log = ((step, n), after) := by
  rw [tryLegacy, bind_of_eq hq]
  dsimp only
  rw [if_neg (by simp [he])]
  exact hn

theorem tryLegacy_of_kept {e : LegacyError}
    (hq : c.queryLegacy address candidate.target env log = (.ok (.error e), middle))
    (ho : candidate.origin = .directory)
    (hn : c.tryLegacy address left (failures.keepFirst e) rest env middle = ((step, n), after)) :
    c.tryLegacy address left failures (candidate :: rest) env log = ((step, n), after) := by
  rw [tryLegacy, bind_of_eq hq]
  dsimp only
  rw [if_pos ho]
  exact hn

theorem fallBackLegacy_of_settled (h : ∀ failures, step ≠ .exhausted failures)
    (candidate : Conversation (Option Uri)) :
    c.fallBackLegacy address left origin candidate (step, n) = pure (step, n) := by
  cases step with
  | exhausted failures => exact absurd rfl (h failures)
  | found | restart | failed => rfl

theorem legacyRound_of_settled (hd : directoryUrls r domain env log = (listed, middle))
    (ht : c.tryLegacy address r.left {} (knownUrls listed domain) env middle = ((step, n), after))
    (h : ∀ failures, step ≠ .exhausted failures) : c.legacyRound address domain r env log = ((step, n), after) := by
  unfold legacyRound
  rw [bind_of_eq hd, bind_assoc]
  change (c.tryLegacy address r.left {} (knownUrls listed domain) >>= _) env middle = _
  rw [bind_of_eq ht, fallBackLegacy_of_settled h, pure_bind, fallBackLegacy_of_settled h]
  rfl

theorem tryLegacy_of_lost
    (hq : c.queryLegacy address candidate.target env log = (.ok (.redirectUrl target), middle))
    (ht : Uri.ofText? target = none) (hn : c.tryLegacy address left failures rest env middle = ((step, n), after)) :
    c.tryLegacy address (left + 1) failures (candidate :: rest) env log = ((step, n + 1), after) := by
  rw [tryLegacy, bind_of_eq hq]
  dsimp only
  rw [ht]
  exact bind_of_eq hn _

theorem fallBackLegacy_of_none {find : Conversation (Option Uri)} (hf : find env log = (none, after)) :
    c.fallBackLegacy address left origin find (.exhausted failures, n) env log = ((.exhausted failures, n), after) := by
  unfold fallBackLegacy
  dsimp only
  rw [bind_of_eq hf, Option.toList_none, List.map_nil, tryLegacy]
  rfl

theorem redirectCandidate_of_transport {request : Http.Request} {response : Http.Response}
    (hu : WellKnown.legacyHttp? ("autodiscover." ++ domain) = some url) (hr : c.probeRequest? url = some request)
    (ht : env.transport log.requests request = .ok response) (hn : response.isRedirection = false) :
    c.redirectCandidate q domain env log = (none, log ++ [.exchange request (.ok response)]) := by
  unfold redirectCandidate
  rw [hu]
  dsimp only
  rw [bind_of_eq (probe_of_transport hr ht)]
  simp only [hn]
  rfl

theorem recordCandidate_of_none (h : env.serviceHost domain = none) :
    recordCandidate domain env log = (none, log ++ [.records domain]) := by
  have hlocate : Conversation.locate domain env log = (none, log ++ [.records domain]) := by
    unfold Conversation.locate
    rw [h]
  unfold recordCandidate
  rw [bind_of_eq hlocate]
  rfl

theorem legacyRound_of_exhausted {asked : Record} (hd : directoryUrls r domain env log = (listed, middle))
    (ht : c.tryLegacy address r.left {} (knownUrls listed domain) env middle = ((.exhausted failures, n), asked))
    {probed : Record} (hp : c.redirectCandidate (.legacy address) domain env asked = (none, probed))
    (hs : recordCandidate domain env probed = (none, after)) :
    c.legacyRound address domain r env log = ((.exhausted failures, n), after) := by
  unfold legacyRound
  rw [bind_of_eq hd, bind_assoc]
  change (c.tryLegacy address r.left {} (knownUrls listed domain) >>= _) env middle = _
  rw [bind_of_eq ht, bind_of_eq (fallBackLegacy_of_none hp)]
  exact fallBackLegacy_of_none hs

theorem discoverLegacy_of_exhausted (ha : MailAddress.domain address = .ok domain)
    (hr : c.legacyRound address domain r env log = ((.exhausted failures, n), after)) :
    c.discoverLegacy r address env log = (.error failures.verdict, after) := by
  rw [discoverLegacy, ha]
  dsimp only
  rw [bind_of_eq hr]
  rfl

theorem discoverLegacy_of_found (ha : MailAddress.domain address = .ok domain)
    (hr : c.legacyRound address domain r env log = ((.found found origin, n), after)) :
    c.discoverLegacy r address env log = (.ok (found, origin), after) := by
  rw [discoverLegacy, ha]
  dsimp only
  rw [bind_of_eq hr]
  rfl

theorem discoverLegacy_of_restart (ha : MailAddress.domain address = .ok domain)
    (hr : c.legacyRound address domain r env log = ((.restart target, n), middle))
    (hh : (r.spend n).hop? = some next) :
    c.discoverLegacy r address env log = c.discoverLegacy (next.visit target).1 (next.visit target).2 env middle := by
  rw [discoverLegacy, ha]
  dsimp only
  rw [bind_of_eq hr]
  dsimp only
  generalize (r.spend n).hop? = hop at hh
  subst hh
  rfl

end Legacy

end Client

namespace Service

variable {s : Service}

theorem resolve_of_query {host domain : String} {r : Redirection} (hl : s.locator = .url url host)
    (hq : s.client.query q url env log = (.ok answer, after)) (hv : ∀ target, answer.verdict ≠ .redirectUrl target) :
    s.resolve q domain r env log = ((.ok (answer, s.adopt url), 0), after) := by
  unfold resolve
  rw [hl]
  exact bind_of_eq (Client.follow_of_query hq hv) _

theorem collect_of_query {ν : Type} {host domain : String} {select : Answer → Except Failure (Collection ν)}
    {identities : List String} (hl : s.locator = .url url host)
    (hq : s.client.query q url env log = (.ok answer, after)) (hv : ∀ target, answer.verdict ≠ .redirectUrl target) :
    s.collect q select identities domain env log =
      ((select answer >>= (·.assign identities), s.adopt url), after) := by
  unfold collect
  rw [bind_of_eq (resolve_of_query hl hq hv)]
  rfl

theorem resolve_of_query_error {host domain : String} {r : Redirection} {e : Failure} (hl : s.locator = .url url host)
    (hq : s.client.query q url env log = (.error e, after)) :
    s.resolve q domain r env log = ((.error e, 0), after) := by
  have hfollow : s.client.follow q r.left url env log = ((.error e, 0), after) := by
    rw [Client.follow, bind_of_eq hq]
    rfl
  unfold resolve
  rw [hl]
  exact bind_of_eq hfollow _

theorem collect_of_query_error {ν : Type} {host domain : String} {select : Answer → Except Failure (Collection ν)}
    {identities : List String} {e : Failure} (hl : s.locator = .url url host)
    (hq : s.client.query q url env log = (.error e, after)) :
    s.collect q select identities domain env log = ((.error e, s), after) := by
  unfold collect
  rw [bind_of_eq (resolve_of_query_error hl hq)]
  rfl

theorem soapUserSettings_of_query_error {host address domain : String} {settings : List UserSetting} {r : Redirection}
    {e : Failure} (ha : MailAddress.domain address = .ok domain) (hl : s.locator = .url url host)
    (hq : s.client.query (.users [address] settings) url env log = (.error e, after)) :
    s.soapUserSettings address settings r env log = ((.error e, s), after) := by
  rw [soapUserSettings, ha]
  dsimp only
  rw [bind_of_eq (resolve_of_query_error hl hq)]
  rfl

theorem soapUserSettings_of_turn {t : Service} {address domain : String} {settings : List UserSetting}
    {r : Redirection} {followed : Nat} {response : Response UserSetting} {turn : Turn}
    (ha : MailAddress.domain address = .ok domain)
    (hr : s.resolve (.users [address] settings) domain r env log = ((.ok (answer, t), followed), after))
    (hs : soleResponse address answer = .ok response)
    (ht : t.turn? address response (r.spend followed) = some (.ok turn)) :
    s.soapUserSettings address settings r env log =
      turn.service.soapUserSettings turn.address settings turn.redirection env after := by
  rw [soapUserSettings, ha]
  dsimp only
  rw [bind_of_eq hr]
  dsimp only
  rw [hs]
  dsimp only
  generalize t.turn? address response (r.spend followed) = result at ht
  subst ht
  rfl

theorem legacyUserSettings_of_queryLegacy {asked : Uri} {host address : String} {settings : List UserSetting}
    {outcome : Except Failure LegacyAnswer} (hl : s.locator = .url url host) (hu : WellKnown.legacyOn? url = some asked)
    (hq : s.client.queryLegacy address asked env log = (outcome, after)) :
    s.legacyUserSettings address settings env log =
      ((outcome.map (LegacyAnswer.toResponse address settings), s), after) := by
  unfold legacyUserSettings
  rw [hl]
  dsimp only
  rw [hu]
  exact bind_of_eq hq _

theorem legacyUserSettings_of_discoverLegacy {address : String} {settings : List UserSetting}
    {found : Settings UserSetting} {origin : Origin} (hl : s.locator = .undetermined)
    (hd : s.client.discoverLegacy (.start (some address) s.client.config.directoryEnabled) address env log =
      (.ok (found, origin), after)) :
    s.legacyUserSettings address settings env log =
      ((.ok (LegacyAnswer.toResponse address settings (.settings found)),
        { s with isExternal := some (origin != .directory) }), after) := by
  unfold legacyUserSettings
  rw [hl]
  exact bind_of_eq hd _

theorem legacyUserSettings_of_discoverLegacy_error {address : String} {settings : List UserSetting} {e : Failure}
    (hl : s.locator = .undetermined)
    (hd : s.client.discoverLegacy (.start (some address) s.client.config.directoryEnabled) address env log =
      (.error e, after)) : s.legacyUserSettings address settings env log = ((.error e, s), after) := by
  unfold legacyUserSettings
  rw [hl]
  exact bind_of_eq hd _

theorem perform_of_userSettings {t : Service} {address : String} {settings : List UserSetting}
    {result : Except Failure (Response UserSetting)}
    (h : s.userSettings address settings env log = ((result, t), after)) :
    s.perform (.user address settings) env log = ((result.map .user, t), after) := by
  unfold perform
  exact bind_of_eq h _

theorem perform_of_soapUserSettings {t : Service} {address : String} {settings : List UserSetting}
    {result : Except Failure (Response UserSetting)} (hv : s.client.config.version.supportsSoap = true)
    (hb : Text.isBlankText address = false) (hs : settings.isEmpty = false)
    (h : s.soapUserSettings address settings (.start (some address) s.client.config.directoryEnabled) env log =
      ((result, t), after)) :
    s.perform (.user address settings) env log = ((result.map .user, t), after) := by
  apply perform_of_userSettings
  unfold userSettings
  rwa [if_neg (by simp [hb]), if_neg (by simp [hs]), if_pos hv]

theorem perform_of_legacyUserSettings {t : Service} {address : String} {settings : List UserSetting}
    {result : Except Failure (Response UserSetting)} (hv : s.client.config.version.supportsSoap = false)
    (hb : Text.isBlankText address = false) (hs : settings.isEmpty = false)
    (h : s.legacyUserSettings address settings env log = ((result, t), after)) :
    s.perform (.user address settings) env log = ((result.map .user, t), after) := by
  apply perform_of_userSettings
  unfold userSettings
  rwa [if_neg (by simp [hb]), if_neg (by simp [hs]), if_neg (by simp [hv])]

def olderService : Service where
  client := ⟨{ version := .exchange2007Sp1 }, .basic "jane" (some ⟨"secret"⟩)⟩

def firstGuess : Uri :=
  .absolute .https "a.example" ⟨"/autodiscover/autodiscover.xml", none⟩

def besideGuess : Uri :=
  .absolute .https "autodiscover.a.example" ⟨"/autodiscover/autodiscover.xml", none⟩

end Service

end MailDiscovery
