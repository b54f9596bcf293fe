import MailDiscovery.Proofs.LegacyRedirection

namespace MailDiscovery

namespace LegacyAnswer

variable {answer : LegacyAnswer} {code : ErrorCode} {target identity : String} {requested : List UserSetting}

def sendsOn? : LegacyAnswer → Option (ErrorCode × String)
  | redirectUrl url => some (.redirectUrl, url)
  | redirectAddress address => some (.redirectAddress, address)
  | settings _ | error _ => none

theorem eq_redirectUrl_of_sendsOn? (h : answer.sendsOn? = some (.redirectUrl, target)) :
    answer = .redirectUrl target := by
  cases answer <;> simp_all [sendsOn?]

theorem eq_redirectAddress_of_sendsOn? (h : answer.sendsOn? = some (.redirectAddress, target)) :
    answer = .redirectAddress target := by
  cases answer <;> simp_all [sendsOn?]

theorem share_frame (found : Settings UserSetting) (r : Response UserSetting) (names : List UserSetting) :
    (share found r names).identity = r.identity ∧ (share found r names).code = r.code := by
  induction names generalizing found r with
  | nil => exact ⟨rfl, rfl⟩
  | cons name names ih =>
    rw [share]
    split
    · exact ih _ _
    · exact ih _ _

theorem identity_toResponse (answer : LegacyAnswer) (identity : String) (requested : List UserSetting) :
    (answer.toResponse identity requested).identity = identity := by
  cases answer with
  | settings found => exact (share_frame found _ requested).1
  | redirectUrl | redirectAddress | error => rfl

theorem toResponse_of_sendsOn? (h : answer.sendsOn? = some (code, target)) :
    (answer.toResponse identity requested).code = code ∧
      (answer.toResponse identity requested).redirectTarget = some target := by
  cases answer with
  | redirectUrl url | redirectAddress address =>
    cases h
    exact ⟨rfl, rfl⟩
  | settings | error => cases h

theorem sendsOn?_of_toResponse
    (h : (answer.toResponse identity requested).code = .redirectUrl ∨
      (answer.toResponse identity requested).code = .redirectAddress) :
    ∃ target, answer.sendsOn? = some ((answer.toResponse identity requested).code, target) := by
  cases answer with
  | redirectUrl target | redirectAddress target => exact ⟨target, rfl⟩
  | settings found =>
    have hcode : (toResponse identity requested (.settings found)).code = .noError :=
      (share_frame found _ requested).2
    simp [hcode] at h
  | error e => simp [toResponse] at h

end LegacyAnswer

namespace Service

variable {s t : Service} {env : Environment} {address target : String} {settings : List UserSetting}
  {events : Record} {code : ErrorCode} {response : Response UserSetting}

/-- The only server that was asked is a legacy service at a known place, and sends the call elsewhere. -/
structure SentOn (s : Service) (address : String) (events : Record) (code : ErrorCode) (target : String) : Prop where
  version : s.client.config.version.supportsSoap = false
  placed : s.locator ≠ .undetermined
  answered : ∃ request reply answer, events = [.exchange request (.ok reply)] ∧ request.method = .post ∧
    Client.readAnswer (.legacy address) request.url reply = .ok (.legacy answer) ∧ answer.sendsOn? = some (code, target)

theorem turn?_eq_none {r : Redirection} (h : s.turn? address response r = none) :
    response.code ≠ .redirectUrl ∧ response.code ≠ .redirectAddress := by
  unfold turn? at h
  split at h
  · cases h
  · cases h
  · rename_i haddress hurl
    exact ⟨hurl, haddress⟩

theorem Rounds.code_ne {r : Redirection} {result : Except Failure (Response UserSetting)}
    (h : Rounds env settings s address r result t events) (hresult : result = .ok response) :
    response.code ≠ .redirectUrl ∧ response.code ≠ .redirectAddress := by
  induction h with
  | answered ha hr hs ht =>
    -- The round that gave the result did not turn, as it would have at either code.
    cases hresult
    exact turn?_eq_none ht
  | turned ha hr hs ht hn ih => exact ih hresult
  | unaddressed | unresolved | refused | stuck => cases hresult

theorem of_queriedLegacy {c : Client} {url : Uri} {answer : LegacyAnswer}
    (h : c.QueriedLegacy address url (.ok answer) events) :
    ∃ request reply, events = [.exchange request (.ok reply)] ∧ request.method = .post ∧
      Client.readAnswer (.legacy address) request.url reply = .ok (.legacy answer) := by
  cases h with
  | answered h =>
    cases h with
    | heard hr hread =>
      obtain ⟨hm, rfl⟩ := Client.of_queryRequest hr
      exact ⟨_, _, rfl, hm, hread⟩

theorem queriedLegacy_eq {c : Client} {url : Uri} {outcome : Except Failure LegacyAnswer} {request : Http.Request}
    {reply : Http.Response} {answer : LegacyAnswer}
    (h : c.QueriedLegacy address url outcome [.exchange request (.ok reply)])
    (hread : Client.readAnswer (.legacy address) request.url reply = .ok (.legacy answer)) :
    outcome = .ok answer := by
  have heard {result : Except Failure Answer}
      (h : c.Queried (.legacy address) url result [.exchange request (.ok reply)]) :
      result = .ok (.legacy answer) := by
    cases h with
    | heard hr hother =>
      obtain ⟨-, rfl⟩ := Client.of_queryRequest hr
      exact hother.symm.trans hread
  cases h with
  | failed h => cases heard h
  | answered h =>
    cases heard h
    rfl

structure HandsBack (s : Service) (address : String) (result : Except Failure (Response UserSetting))
    (events : Record) : Prop where
  only : ∀ response, result = .ok response → response.code = .redirectUrl ∨ response.code = .redirectAddress →
    ∃ target, s.SentOn address events response.code target
  always : ∀ code target, s.SentOn address events code target →
    ∃ response, result = .ok response ∧ response.code = code ∧ response.redirectTarget = some target

theorem handsBack_nil (s : Service) (address : String) (e : Failure) : s.HandsBack address (.error e) [] where
  only _ hresponse := by cases hresponse
  always _ _ hsent := by
    obtain ⟨_, _, _, hevents, -⟩ := hsent.answered
    cases hevents

theorem handsBack_of_queriedLegacy {url : Uri} {outcome : Except Failure LegacyAnswer}
    (hv : s.client.config.version.supportsSoap = false) (hl : s.locator ≠ .undetermined)
    (h : s.client.QueriedLegacy address url outcome events) :
    s.HandsBack address (outcome.map (LegacyAnswer.toResponse address settings)) events where
  only response hresponse hcode := by
    cases outcome with
    | error e => cases hresponse
    | ok answer =>
      cases hresponse
      obtain ⟨request, reply, hevents, hm, hread⟩ := of_queriedLegacy h
      obtain ⟨target, hsends⟩ := LegacyAnswer.sendsOn?_of_toResponse hcode
      exact ⟨target, hv, hl, request, reply, answer, hevents, hm, hread, hsends⟩
  always code target hsent := by
    obtain ⟨request, reply, answer, rfl, -, hread, hsends⟩ := hsent.answered
    rw [queriedLegacy_eq h hread]
    exact ⟨_, rfl, LegacyAnswer.toResponse_of_sendsOn? hsends⟩

theorem AskedLegacy.handsBack {result : Except Failure (Response UserSetting)}
    (hv : s.client.config.version.supportsSoap = false) (h : s.AskedLegacy env address settings result t events) :
    s.HandsBack address result events := by
  cases h with
  | unfound hl hd =>
    refine ⟨fun _ hresponse => ?_, fun _ _ hsent => absurd hl hsent.placed⟩
    cases hresponse
  | found hl hd =>
    refine ⟨fun response hresponse hcode => ?_, fun _ _ hsent => absurd hl hsent.placed⟩
    cases hresponse
    obtain ⟨target, hsends⟩ := LegacyAnswer.sendsOn?_of_toResponse hcode
    cases hsends
  | unplaced hl hu | unnamed hl hu => exact s.handsBack_nil address _
  | asked hl hu hq | askedAt hl hu hq => exact handsBack_of_queriedLegacy hv (by simp [hl]) hq

theorem Performed.handsBack {outcome : Except Failure Reply}
    (h : s.Performed env (.user address settings) outcome t events) :
    ∃ result : Except Failure (Response UserSetting), outcome = result.map .user ∧
      s.HandsBack address result events := by
  cases h with
  | blankAddress hb => exact ⟨.error (.misuse .blankAddress), rfl, s.handsBack_nil address _⟩
  | noSettings hb hs => exact ⟨.error (.misuse .noSettings), rfl, s.handsBack_nil address _⟩
  | rounds hb hs hv hr =>
    refine ⟨_, rfl, ?_, ?_⟩
    · intro response hresponse hcode
      obtain ⟨hurl, haddress⟩ := hr.code_ne hresponse
      exact absurd hcode (not_or.2 ⟨hurl, haddress⟩)
    · intro code target hsent
      have hversion := hsent.version
      rw [hv] at hversion
      cases hversion
  | legacy hb hs hv hr => exact ⟨_, rfl, hr.handsBack hv⟩

theorem redirections_followed_or_handed_back (s : Service) (address : String) (settings : List UserSetting)
    (env : Environment) (log : Record) :
    ∃ events, (s.perform (.user address settings) env log).2 = log ++ events ∧
      ∃ result : Except Failure (Response UserSetting),
        (s.perform (.user address settings) env log).1.1 = result.map .user ∧ s.HandsBack address result events := by
  obtain ⟨events, hlog, hrun⟩ := s.meets_perform (.user address settings) log
  exact ⟨events, hlog, hrun.handsBack⟩

def secondText : String :=
  "https://b.example/autodiscover/autodiscover.xml"

def secondGuess : Uri :=
  .absolute .https "b.example" ⟨"/autodiscover/autodiscover.xml", none⟩

def foundBody : String :=
  "<Autodiscover><Response><User><DisplayName>Jane</DisplayName></User><Account><Action>settings</Action></Account>" ++
    "</Response></Autodiscover>"

def forwarding (body : ByteArray) : Environment where
  transport _ request :=
    if request.url = firstGuess then .ok ⟨200, [], body⟩
    else if request.url = secondGuess then .ok ⟨200, [], foundBody.toUTF8⟩
    else .error (.timedOut request.timeout)
  directory _ := []
  serviceHost _ := none
  approves _ := false

theorem forwarding_first {body : ByteArray} {sent : List Http.Request} {request : Http.Request}
    (h : request.url = firstGuess) : (forwarding body).transport sent request = .ok ⟨200, [], body⟩ :=
  if_pos h

def urlBody : String :=
  "<Autodiscover><Response><Account><Action>redirectUrl</Action><RedirectUrl>" ++ secondText ++
    "</RedirectUrl></Account></Response></Autodiscover>"

theorem ofBody_of_sendsOn? {s target : String} {code : ErrorCode}
    (h : ((Xml.Node.ofDocument? s).any fun root =>
      (Legacy.ofRoot root).toOption.any (·.sendsOn? == some (code, target))) = true) :
    ∃ answer, Legacy.ofBody s.toUTF8 = .ok answer ∧ answer.sendsOn? = some (code, target) := by
  obtain ⟨answer, hanswer, hsends⟩ := Legacy.exists_ofBody h
  exact ⟨answer, hanswer, beq_iff_eq.1 hsends⟩

theorem urlBody_read : Legacy.ofBody urlBody.toUTF8 = .ok (.redirectUrl secondText) := by
  have hread : ((Xml.Node.ofDocument? urlBody).any fun root =>
      (Legacy.ofRoot root).toOption.any (·.sendsOn? == some (.redirectUrl, secondText))) = true := by
    unfold Xml.Node.ofDocument? urlBody secondText
    simp only [String.toList_append]
    decide +kernel
  obtain ⟨answer, hanswer, hsends⟩ := ofBody_of_sendsOn? hread
  rw [hanswer, LegacyAnswer.eq_redirectUrl_of_sendsOn? hsends]

def placedService : Service :=
  { olderService with locator := .url firstGuess "a.example" }

theorem perform_placed {body : ByteArray} {answer : LegacyAnswer} (hb : Legacy.ofBody body = .ok answer) :
    (placedService.perform (.user "jane@a.example" [.userDisplayName]) (forwarding body) []).1.1 =
      .ok (.user (answer.toResponse "jane@a.example" [.userDisplayName])) := by
  obtain ⟨request, hr, hu⟩ : ∃ request,
      placedService.client.queryRequest (.legacy "jane@a.example") firstGuess = .ok request ∧
        request.url = firstGuess :=
    ⟨_, rfl, rfl⟩
  have hplace : WellKnown.legacyOn? firstGuess = some firstGuess := by decide +kernel
  have hquery : placedService.client.queryLegacy "jane@a.example" firstGuess (forwarding body) [] =
      (.ok answer, [.exchange request (.ok ⟨200, [], body⟩)]) :=
    Client.queryLegacy_of_transport hr (forwarding_first hu) rfl hb
  have hlegacy : placedService.legacyUserSettings "jane@a.example" [.userDisplayName] (forwarding body) [] =
      ((.ok (answer.toResponse "jane@a.example" [.userDisplayName]), placedService),
        [.exchange request (.ok ⟨200, [], body⟩)]) :=
    legacyUserSettings_of_queryLegacy rfl hplace hquery
  rw [perform_of_legacyUserSettings rfl (by decide +kernel) rfl hlegacy]
  rfl

theorem redirection_may_be_handed_back :
    ¬ ∀ (s : Service) (address : String) (settings : List UserSetting) (env : Environment) (log : Record)
        (response : Response UserSetting),
      (s.perform (.user address settings) env log).1.1 = .ok (.user response) →
      response.code ≠ .redirectUrl ∧ response.code ≠ .redirectAddress := by
  intro h
  obtain ⟨hurl, -⟩ := h placedService "jane@a.example" [.userDisplayName] _ [] _ (perform_placed urlBody_read)
  exact hurl rfl

end Service

end MailDiscovery
