import MailDiscovery.Proofs.DirectoryErrors
import MailDiscovery.Proofs.HandedBack
import MailDiscovery.Proofs.Search.Hosts

namespace MailDiscovery

open Conversation (Meets bind_of_eq)

variable {env : Environment} {log : Record} {last : Option Failure}

def LegacyOutcome.failure? : LegacyOutcome → Option Failure
  | failed e => some e
  | _ => none

namespace Client

variable {c : Client} {q : Query}

theorem Followed.ne_notLocated {left followed : Nat} {url : Uri} {outcome : Except Failure Served} {events : Record}
    (h : c.Followed q left url outcome followed events) : outcome ≠ .error (.notLocated last) := by
  induction h with
  | failed h =>
    intro heq
    cases heq
    exact Failure.ne_notLocated_of_isPlain h.of_error.1 last rfl
  | served h hv | exceeded h hv | lost h hv ht => simp
  | onward h hv ht hn ih => exact ih

theorem Gated.ne_notLocated {host : String} {result : Except Failure (Option Uri)} {events : Record}
    (h : c.Gated host result events) : result ≠ .error (.notLocated last) := by
  have surveyed {left : Nat} {host : String} {result : Except Failure (Option (String × EndpointSet))}
      {events : Record} (h : c.Surveyed left host result events) : result ≠ .error (.notLocated last) := by
    induction h with
    | onward hu hp hr ht hn ih => exact ih
    | nowhere | silent | lost | exceeded | bare | answered => simp
  cases h with
  | failed h =>
    intro heq
    cases heq
    exact surveyed h rfl
  | unanswered h | answered h => simp

theorem hostSearch_of_none {a : Attempt String (Except Failure Served)} (h : (c.hostSearch q).conclusionOf? a = none) :
    ∃ e, a.outcome = .error e := by
  unfold Discipline.conclusionOf? hostSearch at h
  dsimp only at h
  split at h
  · cases h
  · exact ⟨_, ‹_›⟩

theorem exists_last_attempt {domain : String} {r : Redirection} {left : Nat}
    {stages : List (Stage String (Except Failure Served))}
    (hs : (c.hostSearch q).Searched env log left (c.hostSources q domain r) stages)
    (hall : (c.hostSearch q).Exhausted stages) :
    ∃ before a e, Stage.allAttempts stages = before ++ [a] ∧ a.outcome = .error e := by
  obtain ⟨stage, more, rfl, -⟩ := hs.first
  have hcandidates : stage.candidates ≠ [] := by
    obtain ⟨-, hknown⟩ := (hostSources_stocked hs).listed stage rfl
    simp [hknown, knownHosts, WellKnown.hostGuesses]
  have hne : Stage.allAttempts (stage :: more) ≠ [] := by
    intro hnil
    have hmap := hall.1
    rw [hnil, Stage.allCandidates_cons] at hmap
    exact hcandidates (List.append_eq_nil_iff.1 hmap.symm).1
  obtain ⟨before, a, heq⟩ := (List.eq_nil_or_concat _).resolve_left hne
  rw [List.concat_eq_append] at heq
  obtain ⟨e, he⟩ := hostSearch_of_none (hall.2 a (by simp [heq]))
  exact ⟨before, a, e, heq, he⟩

theorem last_foldl_note {address : String} (attempts : List (Attempt Uri LegacyOutcome)) (failures : LegacyFailures) :
    (attempts.foldl (fun failures a => (c.slotSearch address).note failures a.candidate a.outcome) failures).last =
      (attempts.filterMap (·.outcome.failure?)).getLast?.or failures.last := by
  induction attempts generalizing failures with
  | nil => rfl
  | cons a attempts ih =>
    have hnote : ((c.slotSearch address).note failures a.candidate a.outcome).last =
        a.outcome.failure?.or failures.last := by
      unfold slotSearch LegacyOutcome.failure?
      dsimp only
      split <;> simp_all [LegacyFailures.keepFirst]
    rw [List.foldl_cons, ih, hnote, List.filterMap_cons]
    cases a.outcome.failure? with
    | none => rfl
    | some e => cases hl : (attempts.filterMap (·.outcome.failure?)).getLast? <;> simp [List.getLast?_cons, hl]

/-- A last round in which every candidate was tried and each of them failed or was sent to what is no URL. The last that
failed is to blame. -/
structure UnlocatedLegacy (c : Client) (round : Round) (last : Option Failure) : Prop where
  length : round.stages.length = 3
  exhausted : (c.slotSearch round.address).Exhausted round.stages
  failed : ∀ a ∈ round.attempts, (∃ e, a.outcome = .failed e) ∨ ∃ target, a.outcome = .lost target
  last_eq : last = (round.attempts.filterMap (·.outcome.failure?)).getLast?

variable {r : Redirection} {address : String} {rounds : List Round}
  {result : Except Failure (Settings UserSetting × Origin)}

theorem FollowedLegacy.answer_ne {left followed : Nat} {url : Uri} {outcome : LegacyOutcome} {events : Record}
    (h : c.FollowedLegacy address left url outcome followed events) (target : String) :
    outcome ≠ .answered (.redirectUrl target) := by
  induction h with
  | answered h ha => simpa using ha target
  | onward h ht hn ih => exact ih
  | failed | exceeded | lost => simp

theorem RoundsLegacy.failed_or_lost (h : c.RoundsLegacy env log r address rounds result) {round : Round}
    (hround : round ∈ rounds) {a : Attempt Uri LegacyOutcome} (ha : a ∈ round.attempts)
    (hc : (c.slotSearch round.address).conclusionOf? a = none) (hd : a.directoryError? = none) :
    (∃ e, a.outcome = .failed e) ∨ ∃ target, a.outcome = .lost target := by
  obtain ⟨log, r, domain, -, hs⟩ := h.searched hround
  obtain ⟨stage, hstage, ha⟩ := List.mem_flatMap.1 ha
  obtain ⟨log, left, hmade⟩ := hs.made hstage ha
  have hfollowed := (c.meets_followLegacy round.address left a.candidate.target).of_eq hmade
  cases ho : a.outcome with
  | failed e => exact .inl ⟨e, rfl⟩
  | lost target => exact .inr ⟨target, rfl⟩
  | exceeded => simp [Discipline.conclusionOf?, slotSearch, ho] at hc
  | answered answer =>
    cases answer with
    | settings found | redirectAddress target => simp [Discipline.conclusionOf?, slotSearch, ho] at hc
    | redirectUrl target =>
      rw [ho] at hfollowed
      exact absurd rfl (hfollowed.answer_ne target)
    | error e =>
      simp [Discipline.conclusionOf?, slotSearch, ho] at hc
      simp [Attempt.directoryError?, Attempt.serviceError?, ho, hc] at hd

theorem RoundsLegacy.unlocated (h : c.RoundsLegacy env log r address rounds result)
    (hresult : result = .error (.notLocated last)) :
    ∃ earlier round, rounds = earlier ++ [round] ∧ c.UnlocatedLegacy round last := by
  subst hresult
  obtain ⟨earlier, round, rfl, hlength, hall, hnone⟩ := h.errorsRanked.unlocated.1 ⟨last, rfl⟩
  have hround : round ∈ earlier ++ [round] := by simp
  refine ⟨earlier, round, rfl, hlength, hall, fun a ha => ?_, ?_⟩
  · exact h.failed_or_lost hround ha (hall.2 a ha) (List.findSome?_eq_none_iff.1 hnone a ha)
  · obtain ⟨-, hnoted⟩ := h.noted rfl hall
    rw [Except.error.injEq] at hnoted
    rcases LegacyFailures.verdict_cases hnoted.symm with ⟨hverdict, -⟩ | ⟨_, hverdict, -⟩ <;> cases hverdict
    rw [notes, last_foldl_note, Option.or_none]

end Client

namespace Service

variable {s : Service} {q : Query} {domain : String} {r : Redirection}

inductive Unlocated (s : Service) (env : Environment) (log : Record) (q : Query) (domain : String) (r : Redirection) :
    Failure → Record → Prop
  | searched {stages : List (Stage String (Except Failure Served))}
      {before : List (Attempt String (Except Failure Served))} {a : Attempt String (Except Failure Served)}
      {e : Failure} (hl : s.locator = .undetermined)
      (hs : (s.client.hostSearch q).Searched env log r.left (s.client.hostSources q domain r) stages)
      (hlength : stages.length = 3) (hall : (s.client.hostSearch q).Exhausted stages)
      (hlast : Stage.allAttempts stages = before ++ [a]) (he : a.outcome = .error e) :
      Unlocated s env log q domain r e (Stage.record stages)
  | unusable {name : String} {events : Record} (hl : s.locator = .domain name)
      (hg : s.client.Gated name (.ok none) events) : Unlocated s env log q domain r (.noUsableEndpoint name) events

theorem unlocated_of_searched {followed : Nat} {events : Record} (hl : s.locator = .undetermined)
    (h : s.resolve q domain r env log = ((.error (.notLocated last), followed), log ++ events)) :
    ∃ e, last = some e ∧ s.Unlocated env log q domain r e events := by
  obtain ⟨stages, hs, hrun⟩ := s.resolve_searched hl q domain r log
  rw [h, Prod.mk.injEq, Prod.mk.injEq, List.append_cancel_left_eq] at hrun
  obtain ⟨⟨hresult, -⟩, rfl⟩ := hrun
  cases ho : (s.client.hostSearch q).outcome none (Stage.allAttempts stages) with
  | ok result =>
    rw [ho] at hresult
    obtain ⟨before, a, after, -, hc⟩ := (s.client.hostSearch q).outcome_eq_ok ho
    rcases Client.hostSearch_cases hc with ⟨served, -, rfl⟩ | rfl <;> cases hresult
  | error noted =>
    rw [ho] at hresult
    cases hresult
    obtain ⟨hnone, hnoted⟩ := (s.client.hostSearch q).outcome_eq_error ho
    obtain ⟨hlength, hall⟩ := hs.firstSuccess.complete hnone
    obtain ⟨before, a, e, hlast, he⟩ := Client.exists_last_attempt hs hall
    refine ⟨e, ?_, .searched hl hs hlength hall hlast he⟩
    rw [hnoted, hlast, List.foldl_append, List.foldl_cons, List.foldl_nil, he]
    rfl

theorem unlocated_of_resolve {followed : Nat} {events : Record}
    (h : s.resolve q domain r env log = ((.error (.notLocated last), followed), log ++ events)) :
    ∃ e, last = some e ∧ s.Unlocated env log q domain r e events := by
  cases hl : s.locator with
  | undetermined => exact unlocated_of_searched hl h
  | url url host | domain name =>
    have hr : s.Resolved env q domain r (.error (.notLocated last)) followed events :=
      (s.meets_resolve q domain r).of_eq h
    cases hr with
    | unserved _ hf => exact absurd rfl hf.ne_notLocated
    | ungated _ hg => exact absurd rfl hg.ne_notLocated
    | unusable hname hg => exact ⟨_, rfl, .unusable hname hg⟩
    | unservedAt _ hg hf => exact absurd rfl hf.ne_notLocated
    | failed hu _ | exhausted hu _ => simp [hl] at hu

inductive RoundsUnlocated (env : Environment) (settings : List UserSetting) :
    Record → Service → String → Redirection → Failure → Record → Prop
  | last {log events : Record} {s : Service} {address domain : String} {r : Redirection} {e : Failure}
      (ha : MailAddress.domain address = .ok domain)
      (hu : s.Unlocated env log (.users [address] settings) domain r e events) :
      RoundsUnlocated env settings log s address r e events
  | turned {log events more : Record} {s t : Service} {address domain : String} {r : Redirection} {answer : Answer}
      {response : Response UserSetting} {turn : Turn} {followed : Nat} {e : Failure}
      (ha : MailAddress.domain address = .ok domain)
      (hr : s.resolve (.users [address] settings) domain r env log = ((.ok (answer, t), followed), log ++ events))
      (hs : soleResponse address answer = .ok response)
      (ht : t.turn? address response (r.spend followed) = some (.ok turn))
      (hn : RoundsUnlocated env settings (log ++ events) turn.service turn.address turn.redirection e more) :
      RoundsUnlocated env settings log s address r e (events ++ more)

theorem ne_notLocated_of_turn? {t : Service} {address : String} {response : Response UserSetting}
    {result : Except Failure Turn} (h : t.turn? address response r = some result) :
    result ≠ .error (.notLocated last) := by
  rintro rfl
  cases (turned_of_turn? h).2 with
  | lost hl he => exact Failure.ne_notLocated_of_isPlain he last rfl

theorem soapUserSettings_unlocated (s : Service) (address : String) (settings : List UserSetting) (r : Redirection)
    (log : Record) (h : (s.soapUserSettings address settings r env log).1.1 = .error (.notLocated last)) :
    ∃ e events, last = some e ∧ (s.soapUserSettings address settings r env log).2 = log ++ events ∧
      RoundsUnlocated env settings log s address r e events := by
  rw [soapUserSettings] at h ⊢
  cases ha : MailAddress.domain address with
  | error e =>
    rw [ha] at h
    cases h
  | ok domain =>
    simp only [ha] at h ⊢
    obtain ⟨⟨x, followed⟩, events, hrun, -⟩ := Meets.run (s.meets_resolve (.users [address] settings) domain r) log
    rw [bind_of_eq hrun] at h ⊢
    cases x with
    | error e =>
      cases h
      obtain ⟨e, rfl, hu⟩ := unlocated_of_resolve hrun
      exact ⟨e, events, rfl, rfl, .last ha hu⟩
    | ok p =>
      obtain ⟨answer, t⟩ := p
      dsimp only at h ⊢
      cases hs : soleResponse address answer with
      | error e =>
        rw [hs] at h
        cases h
        exact absurd rfl (Failure.ne_notLocated_of_isPlain (isPlain_of_soleResponse hs) last)
      | ok response =>
        simp only [hs] at h ⊢
        generalize ht : t.turn? address response (r.spend followed) = result at h ⊢
        cases result with
        | none => cases h
        | some outcome =>
          cases outcome with
          | error e =>
            cases h
            exact absurd rfl (ne_notLocated_of_turn? ht)
          | ok turn =>
            obtain ⟨e, more, rfl, hmore, hn⟩ := soapUserSettings_unlocated turn.service turn.address settings
              turn.redirection (log ++ events) h
            exact ⟨e, events ++ more, rfl, hmore.trans (List.append_assoc ..), .turned ha hrun hs ht hn⟩
termination_by r.left
decreasing_by exact left_turn?_lt (by assumption)

theorem collect_unlocated {ν : Type} {select : Answer → Except Failure (Collection ν)} {identities : List String}
    (hs : ∀ answer e, select answer = .error e → e.isPlain = true)
    (h : (s.collect q select identities domain env log).1.1 = .error (.notLocated last)) :
    ∃ e events, last = some e ∧ (s.collect q select identities domain env log).2 = log ++ events ∧
      s.Unlocated env log q domain (.start none s.client.config.directoryEnabled) e events := by
  obtain ⟨⟨x, followed⟩, events, hrun, -⟩ :=
    Meets.run (s.meets_resolve q domain (.start none s.client.config.directoryEnabled)) log
  unfold collect at h ⊢
  rw [bind_of_eq hrun] at h ⊢
  cases x with
  | error e =>
    cases h
    obtain ⟨e, rfl, hu⟩ := unlocated_of_resolve hrun
    exact ⟨e, events, rfl, rfl, hu⟩
  | ok p =>
    have hplain : (Failure.notLocated last).isPlain = true := by
      rcases Failure.of_bind_error h with h | ⟨c, -, h⟩
      · exact hs _ _ h
      · exact Collection.isPlain_of_assign h
    exact absurd rfl (Failure.ne_notLocated_of_isPlain hplain last)

theorem usersSettings_unlocated {addresses : List String} {settings : List UserSetting}
    (h : (s.usersSettings addresses settings env log).1.1 = .error (.notLocated last)) :
    ∃ domain e events, s.checkUsers addresses settings = .ok domain ∧ last = some e ∧
      (s.usersSettings addresses settings env log).2 = log ++ events ∧
      s.Unlocated env log (.users addresses settings) domain (.start none s.client.config.directoryEnabled) e events := by
  unfold usersSettings at h ⊢
  cases hc : s.checkUsers addresses settings with
  | error e =>
    rw [hc] at h
    cases h
    exact absurd rfl (Failure.ne_notLocated_of_isPlain (isPlain_of_checkUsers hc) last)
  | ok domain =>
    simp only [hc] at h ⊢
    obtain ⟨e, events, hlast, hlog, hu⟩ := collect_unlocated (fun _ _ => Answer.isPlain_of_users?) h
    exact ⟨domain, e, events, rfl, hlast, hlog, hu⟩

theorem domainsSettings_unlocated {names : List String} {requested : Option ServerVersion}
    {settings : List DomainSetting} (h : (s.domainsSettings names requested settings env log).1.1 =
      .error (.notLocated last)) :
    ∃ first e events, s.checkDomains names settings = .ok first ∧ last = some e ∧
      (s.domainsSettings names requested settings env log).2 = log ++ events ∧
      s.Unlocated env log (.domains names settings requested) first (.start none s.client.config.directoryEnabled) e
        events := by
  unfold domainsSettings at h ⊢
  cases hc : s.checkDomains names settings with
  | error e =>
    rw [hc] at h
    cases h
    exact absurd rfl (Failure.ne_notLocated_of_isPlain (isPlain_of_checkDomains hc) last)
  | ok first =>
    simp only [hc] at h ⊢
    obtain ⟨e, events, hlast, hlog, hu⟩ := collect_unlocated (fun _ _ => Answer.isPlain_of_domains?) h
    exact ⟨first, e, events, rfl, hlast, hlog, hu⟩

inductive Blames (s : Service) (env : Environment) (log : Record) : Call → Option Failure → Record → Prop
  | user {address : String} {settings : List UserSetting} {e : Failure} {events : Record}
      (hv : s.client.config.version.supportsSoap = true)
      (h : RoundsUnlocated env settings log s address (.start (some address) s.client.config.directoryEnabled) e
        events) : Blames s env log (.user address settings) (some e) events
  | legacyUser {address : String} {settings : List UserSetting} {earlier : List Round} {round : Round}
      {last : Option Failure} (hv : s.client.config.version.supportsSoap = false) (hl : s.locator = .undetermined)
      (hr : s.client.RoundsLegacy env log (.start (some address) s.client.config.directoryEnabled) address
        (earlier ++ [round]) (.error (.notLocated last)))
      (h : s.client.UnlocatedLegacy round last) :
      Blames s env log (.user address settings) last (Round.record (earlier ++ [round]))
  | users {addresses : List String} {settings : List UserSetting} {domain : String} {e : Failure} {events : Record}
      (hc : s.checkUsers addresses settings = .ok domain)
      (h : s.Unlocated env log (.users addresses settings) domain (.start none s.client.config.directoryEnabled) e
        events) : Blames s env log (.users addresses settings) (some e) events
  | domains {domains : List String} {requested : Option ServerVersion} {settings : List DomainSetting}
      {first : String} {e : Failure} {events : Record} (hc : s.checkDomains domains settings = .ok first)
      (h : s.Unlocated env log (.domains domains settings requested) first
        (.start none s.client.config.directoryEnabled) e events) :
      Blames s env log (.domains domains requested settings) (some e) events
  | domain {domain first : String} {requested : Option ServerVersion} {settings : List DomainSetting}
      {e : Failure} {events : Record} (hc : s.checkDomains [domain] settings = .ok first)
      (h : s.Unlocated env log (.domains [domain] settings requested) first
        (.start none s.client.config.directoryEnabled) e events) :
      Blames s env log (.domain domain requested settings) (some e) events

theorem eq_error_of_map {α β : Type} {result : Except Failure α} {f : α → β} {e : Failure}
    (h : result.map f = .error e) : result = .error e := by
  cases result with
  | error cause => simpa [Except.map] using h
  | ok a => cases h

theorem AskedLegacy.unlocated {t : Service} {address : String} {settings : List UserSetting}
    {result : Except Failure (Response UserSetting)} {events : Record}
    (h : s.AskedLegacy env address settings result t events) (hresult : result = .error (.notLocated last)) :
    s.locator = .undetermined := by
  have queried {url : Uri} {outcome : Except Failure LegacyAnswer} {events : Record}
      (hq : s.client.QueriedLegacy address url outcome events) : outcome ≠ .error (.notLocated last) := by
    cases hq with
    | failed hq =>
      intro heq
      cases heq
      exact Failure.ne_notLocated_of_isPlain hq.of_error.1 last rfl
    | answered hq => simp
  cases h with
  | unfound hl hd | found hl hd => exact hl
  | unplaced | unnamed => cases hresult
  | asked hl hu hq | askedAt hl hu hq => exact absurd (eq_error_of_map hresult) (queried hq)

theorem unlocated_call_blames {call : Call} (h : (s.perform call env log).1.1 = .error (.notLocated last)) :
    ∃ events, (s.perform call env log).2 = log ++ events ∧ s.Blames env log call last events := by
  cases call with
  | user address settings =>
    have huser : (s.userSettings address settings env log).1.1 = .error (.notLocated last) := eq_error_of_map h
    unfold userSettings at huser
    split at huser
    · cases huser
    rename_i hb
    split at huser
    · cases huser
    rename_i hs
    split at huser
    · rename_i hv
      obtain ⟨e, events, rfl, hlog, hu⟩ := soapUserSettings_unlocated s address settings _ log huser
      refine ⟨events, ?_, .user hv hu⟩
      change (s.userSettings address settings env log).2 = _
      rw [userSettings, if_neg hb, if_neg hs, if_pos hv, hlog]
    · rename_i hv
      rw [Bool.not_eq_true] at hv
      obtain ⟨_, -, hasked⟩ := s.meets_legacyUserSettings address settings log
      have hl := hasked.unlocated huser
      obtain ⟨rounds, result, t, hcalled, hrun⟩ := s.perform_calledLegacy hl hv address settings env log
      rw [hrun] at h ⊢
      cases hcalled with
      | blank | unasked | found => cases h
      | failed hrounds =>
        cases h
        obtain ⟨earlier, round, rfl, hu⟩ := hrounds.unlocated rfl
        exact ⟨_, rfl, .legacyUser hv hl hrounds hu⟩
  | users addresses settings =>
    obtain ⟨domain, e, events, hc, rfl, hlog, hu⟩ := usersSettings_unlocated (eq_error_of_map h)
    exact ⟨events, hlog, .users hc hu⟩
  | domains names requested settings =>
    obtain ⟨first, e, events, hc, rfl, hlog, hu⟩ := domainsSettings_unlocated (eq_error_of_map h)
    exact ⟨events, hlog, .domains hc hu⟩
  | domain name requested settings =>
    rcases Failure.of_bind_error (eq_error_of_map h) with h | ⟨c, -, h⟩
    · obtain ⟨first, e, events, hc, rfl, hlog, hu⟩ := domainsSettings_unlocated h
      exact ⟨events, hlog, .domain hc hu⟩
    · exact absurd rfl (Failure.ne_notLocated_of_isPlain (Collection.isPlain_of_sole h) last)

def nowhereText : String := "not a url"

def nowhereBody : String :=
  "<Autodiscover><Response><Account><Action>redirectUrl</Action><RedirectUrl>" ++ nowhereText ++
    "</RedirectUrl></Account></Response></Autodiscover>"

def misdirecting : Environment where
  transport _ _ := .ok ⟨200, [], nowhereBody.toUTF8⟩
  directory _ := []
  serviceHost _ := none
  approves _ := false

theorem nowhereBody_read : Legacy.ofBody nowhereBody.toUTF8 = .ok (.redirectUrl nowhereText) := by
  have hread : ((Xml.Node.ofDocument? nowhereBody).any fun root =>
      (Legacy.ofRoot root).toOption.any (·.sendsOn? == some (.redirectUrl, nowhereText))) = true := by
    unfold Xml.Node.ofDocument? nowhereBody nowhereText
    simp only [String.toList_append]
    decide +kernel
  obtain ⟨answer, hanswer, hsends⟩ := ofBody_of_sendsOn? hread
  rw [hanswer, LegacyAnswer.eq_redirectUrl_of_sendsOn? hsends]

theorem legacyRound_misdirecting :
    ∃ events, olderService.client.legacyRound "jane@a.example" "a.example" (.start (some "jane@a.example") true)
      misdirecting [] = ((.exhausted {}, 2), events) := by
  have hknown : Client.knownUrls [] "a.example" = [⟨firstGuess, .guess⟩, ⟨besideGuess, .guess⟩] := by decide +kernel
  have hnowhere : Uri.ofText? nowhereText = none := by decide +kernel
  have queried (url : Uri) (log : Record) : ∃ after,
      olderService.client.queryLegacy "jane@a.example" url misdirecting log = (.ok (.redirectUrl nowhereText), after) :=
    ⟨_, Client.queryLegacy_of_transport rfl rfl rfl nowhereBody_read⟩
  have hlisted : Client.directoryUrls (.start (some "jane@a.example") true) "a.example" misdirecting [] =
      ([], [.directory "a.example"]) := by
    rfl
  obtain ⟨first, hfirst⟩ := queried firstGuess [.directory "a.example"]
  obtain ⟨second, hsecond⟩ := queried besideGuess first
  have htried : olderService.client.tryLegacy "jane@a.example" 10 {} (Client.knownUrls [] "a.example") misdirecting
      [.directory "a.example"] = ((.exhausted {}, 2), second) := by
    rw [hknown]
    refine Client.tryLegacy_of_lost hfirst hnowhere (Client.tryLegacy_of_lost hsecond hnowhere ?_)
    rw [Client.tryLegacy]
    rfl
  have hplain : ∃ url, WellKnown.legacyHttp? ("autodiscover." ++ "a.example") = some url :=
    Option.isSome_iff_exists.1 (by decide +kernel)
  obtain ⟨url, hurl⟩ := hplain
  exact ⟨_, Client.legacyRound_of_exhausted hlisted htried
    (Client.redirectCandidate_of_transport hurl rfl rfl rfl) (Client.recordCandidate_of_none rfl)⟩

theorem olderService_misdirecting {events : Record}
    (h : olderService.client.legacyRound "jane@a.example" "a.example" (.start (some "jane@a.example") true)
      misdirecting [] = ((.exhausted {}, 2), events)) :
    olderService.perform (.user "jane@a.example" [.userDisplayName]) misdirecting [] =
      ((.error (.notLocated none), olderService), events) := by
  have hdomain : MailAddress.domain "jane@a.example" = .ok "a.example" := by rfl
  have hdiscover := Client.discoverLegacy_of_exhausted hdomain h
  exact perform_of_legacyUserSettings rfl (by decide +kernel) rfl
    (legacyUserSettings_of_discoverLegacy_error rfl hdiscover)

theorem cause_may_be_missing :
    ¬ ∀ (s t : Service) (address : String) (settings : List UserSetting) (env : Environment) (log : Record)
        (earlier : List Round) (round : Round),
      s.CalledLegacy env log address settings (earlier ++ [round]) (.error (.notLocated none)) t →
      s.perform (.user address settings) env log =
        ((.error (.notLocated none), t), log ++ Round.record (earlier ++ [round])) →
      round.attempts = [] := by
  intro h
  obtain ⟨events, hround⟩ := legacyRound_misdirecting
  have hperform := olderService_misdirecting hround
  obtain ⟨stages, hs, hrun⟩ := @Client.legacyRound_searched misdirecting olderService.client "jane@a.example"
    "a.example" (.start (some "jane@a.example") true) []
  rw [hround, Prod.mk.injEq, Prod.mk.injEq] at hrun
  obtain ⟨⟨hstep, hspent⟩, rfl⟩ := hrun
  have hended : olderService.client.RoundsLegacy misdirecting [] (.start (some "jane@a.example") true) "jane@a.example"
      [⟨"jane@a.example", stages⟩] (.error (.notLocated none)) := by
    have hdomain : MailAddress.domain "jane@a.example" = .ok "a.example" := by rfl
    refine .ended hdomain hs ?_
    rw [Client.step, Round.attempts, ← hstep]
    rfl
  have hrecord : Round.record [⟨"jane@a.example", stages⟩] = Stage.record stages := by simp [Round.record]
  have hnone := h olderService olderService "jane@a.example" [.userDisplayName] misdirecting [] []
    ⟨"jane@a.example", stages⟩ (.failed hended) (by rw [List.nil_append [(⟨"jane@a.example", stages⟩ : Round)], hrecord, hperform])
  -- Both candidates cost a redirection, so that there were some.
  rw [Round.attempts] at hnone
  rw [hnone] at hspent
  cases hspent

theorem unlocated_call_blames_misdirecting :
    (olderService.perform (.user "jane@a.example" [.userDisplayName]) misdirecting []).1.1 =
        .error (.notLocated none) ∧
      ∃ events, (olderService.perform (.user "jane@a.example" [.userDisplayName]) misdirecting []).2 = [] ++ events ∧
        olderService.Blames misdirecting [] (.user "jane@a.example" [.userDisplayName]) none events := by
  obtain ⟨events, hround⟩ := legacyRound_misdirecting
  have hresult : (olderService.perform (.user "jane@a.example" [.userDisplayName]) misdirecting []).1.1 =
      .error (.notLocated none) := by rw [olderService_misdirecting hround]
  exact ⟨hresult, unlocated_call_blames hresult⟩

end Service

end MailDiscovery
