import MailDiscovery.Proofs.Run.Forward
import MailDiscovery.Proofs.Search.Order

namespace MailDiscovery

variable {env : Environment}

namespace Attempt

def serviceError? (a : Attempt Uri LegacyOutcome) : Option LegacyError :=
  match a.outcome with
  | .answered (.error e) => some e
  | _ => none

def directoryError? (a : Attempt Uri LegacyOutcome) : Option LegacyError :=
  a.serviceError?.filter fun _ => a.candidate.origin = .directory

theorem outcome_of_serviceError? {a : Attempt Uri LegacyOutcome} {e : LegacyError} (h : a.serviceError? = some e) :
    a.outcome = .answered (.error e) := by
  unfold serviceError? at h
  split at h
  · cases h
    assumption
  · cases h

end Attempt

namespace Client

variable {c : Client}

theorem QueriedLegacy.heard_iff {address : String} {url : Uri} {result : Except Failure LegacyAnswer} {events : Record}
    (h : c.QueriedLegacy address url result events) {answer : LegacyAnswer}
    (ha : ∀ target, answer ≠ .redirectUrl target) :
    (∃ event ∈ events, event.answer? (.legacy address) = some (.legacy answer)) ↔ result = .ok answer := by
  cases h with
  | failed h =>
    constructor
    · rintro ⟨event, he, hheard⟩
      rw [(h.of_error.2 event he).2] at hheard
      cases hheard
    · intro hr
      cases hr
  | @answered got events h =>
    obtain ⟨request, response, rfl, -, -, ⟨target, hr, hgot⟩ | hgot⟩ := h.of_ok
    · have hquiet := Event.answer?_of_redirection? hr
      have hne : got ≠ answer := by
        rintro rfl
        rw [Query.redirection, Answer.legacy.injEq] at hgot
        exact ha _ hgot
      simp [hquiet, hne]
    · simp [hgot]

theorem FollowedLegacy.heard_iff {address : String} {left followed : Nat} {url : Uri} {outcome : LegacyOutcome}
    {events : Record} (h : c.FollowedLegacy address left url outcome followed events) {answer : LegacyAnswer}
    (ha : ∀ target, answer ≠ .redirectUrl target) :
    (∃ event ∈ events, event.answer? (.legacy address) = some (.legacy answer)) ↔ outcome = .answered answer := by
  have silent {url : Uri} {target : String} {events : Record}
      (h : c.QueriedLegacy address url (.ok (.redirectUrl target)) events) :
      ¬∃ event ∈ events, event.answer? (.legacy address) = some (.legacy answer) := by
    rw [h.heard_iff ha, Except.ok.injEq]
    exact fun heq => ha target heq.symm
  induction h with
  | failed h => simp [h.heard_iff ha]
  | answered h hown => simp [h.heard_iff ha]
  | exceeded h => simp [silent h]
  | lost h ht => simp [silent h]
  | onward h ht hn ih =>
    refine Iff.trans ?_ ih
    constructor
    · rintro ⟨event, he, hheard⟩
      rcases List.mem_append.1 he with he | he
      · exact absurd ⟨event, he, hheard⟩ (silent h)
      · exact ⟨event, he, hheard⟩
    · rintro ⟨event, he, hheard⟩
      exact ⟨event, List.mem_append_right _ he, hheard⟩

theorem slotSearch_of_serviceError? {address : String} {a : Attempt Uri LegacyOutcome} {e : LegacyError}
    (h : a.serviceError? = some e) :
    (c.slotSearch address).conclusionOf? a =
      if a.candidate.origin = .directory then none else some (.failed (.legacyService e)) := by
  rw [Discipline.conclusionOf?, a.outcome_of_serviceError? h]
  rfl

theorem directory_foldl_note {address : String} {attempts : List (Attempt Uri LegacyOutcome)}
    (h : ∀ a ∈ attempts, (c.slotSearch address).conclusionOf? a = none) (failures : LegacyFailures) :
    (attempts.foldl (fun failures a => (c.slotSearch address).note failures a.candidate a.outcome) failures).directory =
      failures.directory.or (attempts.findSome? Attempt.directoryError?) := by
  induction attempts generalizing failures with
  | nil => simp
  | cons a attempts ih =>
    have hstep : ((c.slotSearch address).note failures a.candidate a.outcome).directory =
        failures.directory.or a.directoryError? := by
      cases he : a.serviceError? with
      | some e =>
        have hnone := h a List.mem_cons_self
        rw [slotSearch_of_serviceError? he] at hnone
        have horigin : a.candidate.origin = .directory := by simpa using hnone
        rw [a.outcome_of_serviceError? he, Attempt.directoryError?, he]
        simp [slotSearch, LegacyFailures.keepFirst, Option.filter, horigin]
      | none =>
        have hnote : ((c.slotSearch address).note failures a.candidate a.outcome).directory = failures.directory := by
          unfold Attempt.serviceError? at he
          unfold slotSearch
          dsimp only
          split
          · simp_all
          · rfl
          · rfl
        rw [hnote, Attempt.directoryError?, he]
        simp
    rw [List.foldl_cons, ih fun b hb => h b (List.mem_cons_of_mem _ hb), hstep, List.findSome?_cons]
    cases a.directoryError? <;> simp

structure ErrorsRanked {β : Type} (c : Client) (rounds : List Round) (result : Except Failure β) : Prop where
  /-- Attempts come to what is said on record, and to nothing that is not. -/
  heard : ∀ round ∈ rounds, ∀ a ∈ round.attempts, ∀ answer : LegacyAnswer, (∀ target, answer ≠ .redirectUrl target) →
    ((∃ event ∈ a.events, event.answer? (.legacy round.address) = some (.legacy answer)) ↔
      a.outcome = .answered answer)
  refused : ∀ earlier round later before a after e, rounds = earlier ++ round :: later →
    round.attempts = before ++ a :: after → a.serviceError? = some e → a.candidate.origin ≠ .directory →
    later = [] ∧ after = [] ∧ result = .error (.legacyService e)
  deferred : ∀ round ∈ rounds, ∀ before a after e, round.attempts = before ++ a :: after →
    a.directoryError? = some e →
    after.head?.map Attempt.candidate = (Stage.allCandidates round.stages)[before.length + 1]? ∧
      (after = [] → round.stages.length = 3)
  blamed : ∀ e, result = .error (.legacyService e) → ∃ earlier round, rounds = earlier ++ [round] ∧
    ∃ a ∈ round.attempts, a.serviceError? = some e ∧ a.candidate.origin ≠ .directory
  kept : ∀ e, result = .error (.directoryService e) ↔ ∃ earlier round, rounds = earlier ++ [round] ∧
    round.stages.length = 3 ∧ (c.slotSearch round.address).Exhausted round.stages ∧
    round.attempts.findSome? Attempt.directoryError? = some e
  unlocated : (∃ last, result = .error (.notLocated last)) ↔ ∃ earlier round, rounds = earlier ++ [round] ∧
    round.stages.length = 3 ∧ (c.slotSearch round.address).Exhausted round.stages ∧
    round.attempts.findSome? Attempt.directoryError? = none
  succeeded : ∀ round ∈ rounds, ∀ a ∈ round.attempts, ∀ found, a.outcome = .answered (.settings found) →
    ∃ reply, result = .ok reply

theorem ErrorsRanked.map {β γ : Type} {rounds : List Round} {result : Except Failure β}
    (h : c.ErrorsRanked rounds result) (f : β → γ) : c.ErrorsRanked rounds (result.map f) := by
  have failed (e : Failure) : result.map f = .error e ↔ result = .error e := by
    cases result <;> simp [Except.map]
  constructor
  case heard => exact h.heard
  case deferred => exact h.deferred
  case refused =>
    intro earlier round later before a after e heq ha he ho
    rw [failed]
    exact h.refused earlier round later before a after e heq ha he ho
  case blamed =>
    intro e he
    exact h.blamed e ((failed _).1 he)
  case kept =>
    intro e
    rw [failed]
    exact h.kept e
  case unlocated =>
    simp only [failed]
    exact h.unlocated
  case succeeded =>
    intro round hround a ha found ho
    obtain ⟨reply, hresult⟩ := h.succeeded round hround a ha found ho
    exact ⟨f reply, by rw [hresult, Except.map]⟩

variable {log : Record} {r : Redirection} {address : String} {rounds : List Round}
  {result : Except Failure (Settings UserSetting × Origin)}

def notes (c : Client) (round : Round) : LegacyFailures :=
  round.attempts.foldl (fun failures a => (c.slotSearch round.address).note failures a.candidate a.outcome) {}

theorem RoundsLegacy.noted (h : c.RoundsLegacy env log r address rounds result) {earlier : List Round} {round : Round}
    (heq : rounds = earlier ++ [round]) (hall : (c.slotSearch round.address).Exhausted round.stages) :
    (c.notes round).directory = round.attempts.findSome? Attempt.directoryError? ∧
      result = .error (c.notes round).verdict := by
  refine ⟨directory_foldl_note hall.2 {}, ?_⟩
  obtain ⟨failures, ho⟩ : ∃ failures, (c.slotSearch round.address).outcome {} round.attempts = .error failures :=
    (c.slotSearch round.address).outcome_error_iff.2 hall.2
  obtain rfl : failures = c.notes round := ((c.slotSearch round.address).outcome_eq_error ho).2
  have hr : (c.step round).result? = some (.error (c.notes round).verdict) := by
    rw [step, ho]
    rfl
  exact (h.result_of_step heq hr).2

theorem RoundsLegacy.blamed (h : c.RoundsLegacy env log r address rounds result) {e : LegacyError}
    (hresult : result = .error (.legacyService e)) :
    ∃ earlier round, rounds = earlier ++ [round] ∧
      ∃ a ∈ round.attempts, a.serviceError? = some e ∧ a.candidate.origin ≠ .directory := by
  subst hresult
  rcases h.conclusion with
    ⟨earlier, round, heq, ⟨_, _, _, -, -, hr⟩ | ⟨before, a, cause, hsplit, ha, horigin, hr⟩ | ⟨failures, -, hr⟩⟩ | hr |
      ⟨cause, hr⟩
  · cases hr
  · cases hr
    exact ⟨earlier, round, heq, a, by simp [hsplit], by rw [Attempt.serviceError?, ha], horigin⟩
  · rw [Except.error.injEq] at hr
    rcases LegacyFailures.verdict_cases hr.symm with ⟨hv, -⟩ | ⟨_, hv, -⟩ <;> cases hv
  · cases hr
  · cases hr

theorem RoundsLegacy.errorsRanked (h : c.RoundsLegacy env log r address rounds result) :
    c.ErrorsRanked rounds result := by
  constructor
  case heard =>
    intro round hround a ha answer hanswer
    obtain ⟨log, r, domain, -, hs⟩ := h.searched hround
    obtain ⟨stage, hstage, ha⟩ := List.mem_flatMap.1 ha
    obtain ⟨log, left, hmade⟩ := hs.made hstage ha
    have hfollowed := (c.meets_followLegacy round.address left a.candidate.target).of_eq hmade
    exact hfollowed.heard_iff hanswer
  case refused =>
    intro earlier round later before a after e heq hsplit he ho
    have hround : round ∈ rounds := by simp [heq]
    have hc : (c.slotSearch round.address).conclusionOf? a = some (.failed (.legacyService e)) := by
      rw [slotSearch_of_serviceError? he, if_neg ho]
    obtain ⟨hafter, houtcome⟩ := (h.firstSuccess hround).concluded hsplit hc {}
    have hr : (c.step round).result? = some (.error (.legacyService e)) := by
      rw [step, Round.attempts, houtcome]
      rfl
    obtain ⟨hlater, hresult⟩ := h.result_of_step heq hr
    exact ⟨hlater, hafter, hresult⟩
  case deferred =>
    intro round hround before a after e hsplit he
    obtain ⟨he, ho⟩ := Option.filter_eq_some_iff.1 he
    have hc : (c.slotSearch round.address).conclusionOf? a = none := by
      rw [slotSearch_of_serviceError? he, if_pos (by simpa using ho)]
    exact (h.firstSuccess hround).next hsplit hc
  case blamed =>
    intro e hresult
    exact h.blamed hresult
  case kept =>
    intro e
    constructor
    · intro hresult
      obtain ⟨earlier, round, heq, hlength, hall⟩ := h.unlocated_iff.1 ⟨⟨none, some e⟩, hresult⟩
      obtain ⟨hdirectory, hnoted⟩ := h.noted heq hall
      rw [hresult, Except.error.injEq] at hnoted
      rcases LegacyFailures.verdict_cases hnoted.symm with ⟨hv, -⟩ | ⟨_, hv, hcause⟩
      · cases hv
      · cases hv
        exact ⟨earlier, round, heq, hlength, hall, hdirectory ▸ hcause⟩
    · rintro ⟨earlier, round, heq, -, hall, he⟩
      obtain ⟨hdirectory, hnoted⟩ := h.noted heq hall
      rw [hnoted, LegacyFailures.verdict, hdirectory, he]
  case unlocated =>
    constructor
    · rintro ⟨last, hresult⟩
      obtain ⟨earlier, round, heq, hlength, hall⟩ := h.unlocated_iff.1 ⟨⟨last, none⟩, hresult⟩
      obtain ⟨hdirectory, hnoted⟩ := h.noted heq hall
      rw [hresult, Except.error.injEq] at hnoted
      rcases LegacyFailures.verdict_cases hnoted.symm with ⟨-, hnone⟩ | ⟨_, hv, -⟩
      · exact ⟨earlier, round, heq, hlength, hall, hdirectory ▸ hnone⟩
      · cases hv
    · rintro ⟨earlier, round, heq, -, hall, hnone⟩
      obtain ⟨hdirectory, hnoted⟩ := h.noted heq hall
      rw [hnoted, LegacyFailures.verdict, hdirectory, hnone]
      exact ⟨(c.notes round).last, rfl⟩
  case succeeded =>
    intro round hround a ha found ho
    exact ⟨_, (h.slotsInOrder hround).succeeded a ha found ho⟩

end Client

namespace Service

theorem CalledLegacy.errorsRanked {s t : Service} {log : Record} {address : String} {settings : List UserSetting}
    {rounds : List Round} {result : Except Failure Reply}
    (h : s.CalledLegacy env log address settings rounds result t) : s.client.ErrorsRanked rounds result := by
  let reply (p : Settings UserSetting × Origin) : Reply :=
    .user (LegacyAnswer.toResponse address settings (.settings p.1))
  cases h with
  | blank hb | unasked hs =>
    refine ⟨by simp, ?_, by simp, by simp, ?_, by simp, by simp⟩
    · intro earlier round later before a after e heq
      simp at heq
    · simp
  | failed h => exact h.errorsRanked.map reply
  | found h => exact h.errorsRanked.map reply

/-- The first error from the directory's services counts only if nothing else comes of the last address; an error from
another service counts at once. -/
theorem legacy_errors_ranked {s : Service} (hl : s.locator = .undetermined)
    (hv : s.client.config.version.supportsSoap = false) (address : String) (settings : List UserSetting)
    (env : Environment) (log : Record) :
    ∃ rounds result t, s.CalledLegacy env log address settings rounds result t ∧
      s.perform (.user address settings) env log = ((result, t), log ++ Round.record rounds) ∧
      s.client.ErrorsRanked rounds result := by
  obtain ⟨rounds, result, t, h, hrun⟩ := s.perform_calledLegacy hl hv address settings env log
  exact ⟨rounds, result, t, h, hrun, h.errorsRanked⟩

def listedText : String :=
  "https://listed.example/autodiscover/autodiscover.xml"

def listedUrl : Uri :=
  .absolute .https "listed.example" ⟨"/autodiscover/autodiscover.xml", none⟩

def unknownUser : LegacyError :=
  { code := some "500", message := some "The user is not known." }

def unknownBody : String :=
  "<Autodiscover><Response><Error><ErrorCode>500</ErrorCode><Message>The user is not known.</Message></Error>" ++
    "</Response></Autodiscover>"

def listing : Environment where
  transport _ request :=
    if request.url = listedUrl then .ok ⟨200, [], unknownBody.toUTF8⟩ else .ok ⟨404, [], ⟨#[]⟩⟩
  directory _ := [listedText]
  serviceHost _ := none
  approves _ := false

theorem listing_listed {sent : List Http.Request} {request : Http.Request} (h : request.url = listedUrl) :
    listing.transport sent request = .ok ⟨200, [], unknownBody.toUTF8⟩ :=
  if_pos h

theorem listing_other {sent : List Http.Request} {request : Http.Request} (h : request.url ≠ listedUrl) :
    listing.transport sent request = .ok ⟨404, [], ⟨#[]⟩⟩ :=
  if_neg h

def reportsUnknown : LegacyAnswer → Bool
  | .error e => e == unknownUser
  | _ => false

theorem unknownBody_read : Legacy.ofBody unknownBody.toUTF8 = .ok (.error unknownUser) := by
  have hread : ((Xml.Node.ofDocument? unknownBody).any fun root =>
      (Legacy.ofRoot root).toOption.any reportsUnknown) = true := by
    unfold Xml.Node.ofDocument? unknownBody
    simp only [String.toList_append]
    decide +kernel
  obtain ⟨answer, hanswer, hreports⟩ := Legacy.exists_ofBody hread
  rw [hanswer]
  unfold reportsUnknown at hreports
  split at hreports
  · rw [beq_iff_eq] at hreports
    rw [hreports]
  · cases hreports

theorem legacyRound_listing :
    ∃ last events, olderService.client.legacyRound "jane@a.example" "a.example" (.start (some "jane@a.example") true)
      listing [] = ((.exhausted ⟨last, some unknownUser⟩, 0), events) := by
  have hknown : Client.knownUrls [listedText] "a.example" =
      [⟨listedUrl, .directory⟩, ⟨firstGuess, .guess⟩, ⟨besideGuess, .guess⟩] := by decide +kernel
  have hlisted : Client.directoryUrls (.start (some "jane@a.example") true) "a.example" listing [] =
      ([listedText], [.directory "a.example"]) := by
    rfl
  have refused {url : Uri} (hu : url ≠ listedUrl) (log : Record) : ∃ after,
      olderService.client.queryLegacy "jane@a.example" url listing log = (.error (.unexpectedStatus 404), after) :=
    ⟨_, Client.queryLegacy_of_refusal rfl (listing_other hu) rfl rfl⟩
  obtain ⟨first, hfirst⟩ : ∃ first, olderService.client.queryLegacy "jane@a.example" listedUrl listing
      [.directory "a.example"] = (.ok (.error unknownUser), first) :=
    ⟨_, Client.queryLegacy_of_transport rfl (listing_listed rfl) rfl unknownBody_read⟩
  obtain ⟨second, hsecond⟩ := refused (by decide : firstGuess ≠ listedUrl) first
  obtain ⟨third, hthird⟩ := refused (by decide : besideGuess ≠ listedUrl) second
  have htried : olderService.client.tryLegacy "jane@a.example" 10 {} (Client.knownUrls [listedText] "a.example") listing
      [.directory "a.example"] = ((.exhausted ⟨some (.unexpectedStatus 404), some unknownUser⟩, 0), third) := by
    rw [hknown]
    refine Client.tryLegacy_of_kept hfirst rfl (Client.tryLegacy_of_skipped hsecond rfl ?_)
    refine Client.tryLegacy_of_skipped hthird rfl ?_
    rw [Client.tryLegacy]
    rfl
  obtain ⟨url, hurl⟩ : ∃ url, WellKnown.legacyHttp? ("autodiscover." ++ "a.example") = some url :=
    Option.isSome_iff_exists.1 (by decide +kernel)
  have hplain : url ≠ listedUrl := by
    rintro rfl
    exact absurd hurl (by decide +kernel)
  exact ⟨_, _, Client.legacyRound_of_exhausted hlisted htried
    (Client.redirectCandidate_of_transport hurl rfl (listing_other hplain) rfl) (Client.recordCandidate_of_none rfl)⟩

theorem olderService_listing :
    ∃ events, olderService.perform (.user "jane@a.example" [.userDisplayName]) listing [] =
      ((.error (.directoryService unknownUser), olderService), events) := by
  obtain ⟨last, events, hround⟩ := legacyRound_listing
  have hdomain : MailAddress.domain "jane@a.example" = .ok "a.example" := by rfl
  exact ⟨events, perform_of_legacyUserSettings rfl (by decide +kernel) rfl
    (legacyUserSettings_of_discoverLegacy_error rfl (Client.discoverLegacy_of_exhausted hdomain hround))⟩

theorem legacy_errors_ranked_listing :
    olderService.locator = .undetermined ∧ olderService.client.config.version.supportsSoap = false ∧
      ∃ rounds result t,
        olderService.CalledLegacy listing [] "jane@a.example" [.userDisplayName] rounds result t ∧
        olderService.perform (.user "jane@a.example" [.userDisplayName]) listing [] =
          ((result, t), Round.record rounds) ∧
        olderService.client.ErrorsRanked rounds result ∧ result = .error (.directoryService unknownUser) := by
  obtain ⟨rounds, result, t, hcalled, hrun, hranked⟩ :=
    @legacy_errors_ranked olderService rfl rfl "jane@a.example" [.userDisplayName] listing []
  obtain ⟨events, hperform⟩ := olderService_listing
  refine ⟨rfl, rfl, rounds, result, t, hcalled, hrun, hranked, ?_⟩
  rw [hperform, Prod.mk.injEq, Prod.mk.injEq] at hrun
  exact hrun.1.1.symm

end Service

end MailDiscovery
