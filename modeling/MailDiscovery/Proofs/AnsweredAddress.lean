import MailDiscovery.Proofs.DirectoryLookups.Rounds
import MailDiscovery.Proofs.HandedBack
import MailDiscovery.Proofs.Markup.CharacterData

namespace MailDiscovery

theorem Legacy.request_injective {s t : String} (h : request s = request t) : s = t := by
  unfold request at h
  iterate 5 rw [String.append_left_inj] at h
  rw [String.append_right_inj] at h
  exact Xml.simpleElement_injective h

theorem Soap.envelope_injective {header body body' : String} (h : envelope header body = envelope header body') :
    body = body' := by
  unfold envelope at h
  iterate 2 rw [String.append_left_inj] at h
  rw [String.append_right_inj] at h
  exact Xml.wrap_injective h

theorem Soap.usersBody_injective {s t : String} {settings : List UserSetting}
    (h : usersBody [s] settings = usersBody [t] settings) : s = t := by
  have hrequest := Xml.wrap_injective (Xml.wrap_injective h)
  rw [String.append_left_inj] at hrequest
  have husers := Xml.wrap_injective hrequest
  rw [List.map_singleton, List.map_singleton, String.join_cons, String.join_cons, String.append_left_inj] at husers
  exact Xml.simpleElement_injective (Xml.wrap_injective husers)

theorem Query.render_injective {version : ServerVersion} {settings : List UserSetting} {url : Uri}
    {credential : Credential} {address other : String}
    (h : (Call.query version (.user address settings)).render url version credential =
      (Call.query version (.user other settings)).render url version credential) : address = other := by
  by_cases hv : version.supportsSoap = true
  · rw [Call.query, if_pos hv, Call.query, if_pos hv] at h
    exact Soap.usersBody_injective (Soap.envelope_injective h)
  · rw [Call.query, if_neg hv, Call.query, if_neg hv] at h
    exact Legacy.request_injective h

namespace Client

variable {c : Client} {env : Environment} {q : Query} {url : Uri} {answer : Answer} {served : Served}
  {left followed : Nat} {events more : Record}

inductive EndsAnswered (c : Client) (q : Query) : Record → Prop
  | mk (before : Record) {request : Http.Request} {reply : Http.Response}
      (h : c.queryRequest q request.url = .ok request) :
      EndsAnswered c q (before ++ [.exchange request (.ok reply)])

theorem EndsAnswered.prepend (h : c.EndsAnswered q more) (events : Record) : c.EndsAnswered q (events ++ more) := by
  cases h with
  | mk before h =>
    rw [← List.append_assoc]
    exact .mk _ h

theorem Queried.endsAnswered (h : c.Queried q url (.ok answer) events) : c.EndsAnswered q events := by
  cases h with
  | heard hr hread =>
    obtain ⟨-, rfl⟩ := of_queryRequest hr
    exact .mk [] hr

theorem Followed.endsAnswered {outcome : Except Failure Served} (h : c.Followed q left url outcome followed events)
    (ho : outcome = .ok served) : c.EndsAnswered q events := by
  induction h with
  | served h hv => exact h.endsAnswered
  | onward h hv ht hn ih => exact (ih ho).prepend _
  | failed | exceeded | lost => cases ho

theorem Attempted.endsAnswered {host : String} (h : c.Attempted q left host (.ok served) followed events) :
    c.EndsAnswered q events := by
  cases h with
  | served hg hf hc => exact (hf.endsAnswered rfl).prepend _

theorem Tried.endsAnswered {last : Option Failure} {candidates : List (Candidate String)} {search : Search Served}
    (h : c.Tried q left last candidates search followed events) (hs : search.served = .ok served) :
    c.EndsAnswered q events := by
  induction h with
  | found h => exact h.endsAnswered
  | next h he hn ih => exact (ih hs).prepend _
  | exhausted | failed => cases hs

theorem FellBack.endsAnswered {n m : Nat} {origin : Origin} {P : Option Uri → Record → Prop}
    {search found : Search Served} (h : c.FellBack q left origin P search n found m more)
    (hsearch : search.served = .ok served → c.EndsAnswered q events) (hs : found.served = .ok served) :
    c.EndsAnswered q (events ++ more) := by
  cases h with
  | settled h =>
    rw [List.append_nil]
    exact hsearch hs
  | tried hp ht => exact ((ht.endsAnswered hs).prepend _).prepend _

theorem Discovered.endsAnswered {domain : String} {r : Redirection} {search : Search Served}
    (h : c.Discovered env q domain r search followed events) (hs : search.served = .ok served) :
    c.EndsAnswered q events := by
  cases h with
  | mk hl ht hr hf => exact hf.endsAnswered (hr.endsAnswered fun hfirst => (ht.endsAnswered hfirst).prepend _) hs

section Legacy

variable {address : String} {found : Settings UserSetting} {origin : Origin}

theorem QueriedLegacy.endsAnswered {answer : LegacyAnswer} (h : c.QueriedLegacy address url (.ok answer) events) :
    c.EndsAnswered (.legacy address) events := by
  cases h with
  | answered h => exact h.endsAnswered

theorem TriedLegacy.endsAnswered {failures : LegacyFailures} {candidates : List (Candidate Uri)} {step : LegacyStep}
    (h : c.TriedLegacy address left failures candidates step followed events) (hs : step = .found found origin) :
    c.EndsAnswered (.legacy address) events := by
  induction h with
  | found h => exact h.endsAnswered
  | skipped h he hn ih | kept h ho hn ih | onward h ht hn ih | lost h ht hn ih => exact (ih hs).prepend _
  | exhausted | failed | restarted | refused | exceeded => cases hs

theorem FellBackLegacy.endsAnswered {n m : Nat} {origin' : Origin} {P : Option Uri → Record → Prop}
    {step next : LegacyStep} (h : c.FellBackLegacy address left origin' P step n next m more)
    (hstep : step = .found found origin → c.EndsAnswered (.legacy address) events) (hs : next = .found found origin) :
    c.EndsAnswered (.legacy address) (events ++ more) := by
  cases h with
  | settled h =>
    rw [List.append_nil]
    exact hstep hs
  | tried hp ht => exact ((ht.endsAnswered hs).prepend _).prepend _

theorem RoundLegacy.endsAnswered {domain : String} {r : Redirection}
    (h : c.RoundLegacy env address domain r (.found found origin) followed events) :
    c.EndsAnswered (.legacy address) events := by
  cases h with
  | mk hl ht hr hf => exact hf.endsAnswered (hr.endsAnswered fun hfirst => (ht.endsAnswered hfirst).prepend _) rfl

end Legacy

/-- The last event is the answer to a query for an address: the one that the answers before it have named last. -/
inductive EndsFor (c : Client) (ask : String → Query) (start : String) (earlier : Record) : Record → String → Prop
  | mk (before : Record) {request : Http.Request} {reply : Http.Response} {address : String}
      (hnow : addressNow start ((earlier ++ before).named (ask start)) = address)
      (h : c.queryRequest (ask address) request.url = .ok request) :
      EndsFor c ask start earlier (before ++ [.exchange request (.ok reply)]) address

variable {ask : String → Query} {start address : String} {earlier : Record}

theorem EndsFor.prepend (h : c.EndsFor ask start (earlier ++ events) more address) :
    c.EndsFor ask start earlier (events ++ more) address := by
  cases h with
  | mk before hnow h =>
    rw [List.append_assoc] at hnow
    rw [← List.append_assoc]
    exact .mk _ hnow h

theorem EndsAnswered.endsFor (h : c.EndsAnswered (ask address) events)
    (hnow : addressNow start (earlier.named (ask start)) = address) (hnone : events.named (ask start) = []) :
    c.EndsFor ask start earlier events address := by
  cases h with
  | mk before h =>
    rw [Record.named_append, List.append_eq_nil_iff] at hnone
    refine .mk before ?_ h
    rw [Record.named_append, hnone.1, List.append_nil]
    exact hnow

theorem QueriedLegacy.endsFor {answer : LegacyAnswer} (h : c.QueriedLegacy address url (.ok answer) events) :
    c.EndsFor .legacy address [] events address := by
  cases h with
  | answered h =>
    cases h with
    | heard hr hread =>
      obtain ⟨-, rfl⟩ := of_queryRequest hr
      exact .mk [] rfl hr

theorem DiscoveredLegacy.endsFor {r : Redirection} {result : Except Failure (Settings UserSetting × Origin)}
    {found : Settings UserSetting × Origin} (h : c.DiscoveredLegacy env r address result events)
    (hnow : addressNow start (earlier.named (.legacy start)) = address) (hresult : result = .ok found) :
    ∃ last, c.EndsFor .legacy start earlier events last := by
  -- A round that starts discovery anew names one address, and the rounds after it begin with that.
  induction h generalizing earlier with
  | found ha hr => exact ⟨_, hr.endsAnswered.endsFor hnow hr.named⟩
  | @restarted r next address domain target followed events more result ha hr hh hn ih =>
    have hnamed : events.named (.legacy start) = [target] := hr.named
    have hnext : addressNow start ((earlier ++ events).named (.legacy start)) = (next.visit target).2 := by
      rw [Record.named_append, hnamed, addressNow_append_singleton, Redirection.snd_visit]
    obtain ⟨last, hlast⟩ := ih hnext hresult
    exact ⟨last, hlast.prepend⟩
  | unaddressed | failed | exhausted | exceeded => cases hresult

end Client

namespace Service

variable {s t : Service} {env : Environment} {events earlier : Record} {address start : String}
  {settings : List UserSetting} {response : Response UserSetting}

theorem Resolved.endsAnswered {q : Query} {domain : String} {r : Redirection} {answer : Answer} {followed : Nat}
    (h : s.Resolved env q domain r (.ok (answer, t)) followed events) : s.client.EndsAnswered q events := by
  cases h with
  | served hl hf => exact hf.endsAnswered rfl
  | servedAt hl hg hf => exact (hf.endsAnswered rfl).prepend _
  | found hl hd => exact hd.endsAnswered rfl

theorem Rounds.endsFor {c : Client} {r : Redirection} {result : Except Failure (Response UserSetting)}
    (h : Rounds env settings s address r result t events) (hc : s.client = c)
    (hnow : addressNow start (earlier.named (.users [start] settings)) = address) (hresult : result = .ok response) :
    c.EndsFor (fun address => .users [address] settings) start earlier events response.identity := by
  induction h generalizing earlier with
  | answered ha hr hs ht =>
    -- The last response names nobody, so that the address is still the one that it was asked for.
    subst hc
    cases hresult
    obtain ⟨users, -, -, -, rfl, -⟩ := hr.users
    have hnamed := hr.named rfl
    rw [namedAddress?_of_soleResponse hs, if_neg (turn?_eq_none ht).2] at hnamed
    obtain ⟨-, first, -, rfl⟩ := soleResponse_eq_ok hs
    exact hr.endsAnswered.endsFor hnow hnamed
  | turned ha hr hs hturn hn ih =>
    obtain ⟨users, -, -, -, rfl, -⟩ := hr.users
    have hnamed := hr.named rfl
    rw [namedAddress?_of_soleResponse hs, Record.named_users _ [start]] at hnamed
    obtain ⟨url, -, hsettled⟩ := hr.concluded rfl
    have hclient := hsettled.client.trans hc
    cases (turned_of_turn? hturn).2 with
    | toAddress hcode hh htarget =>
      rw [if_pos hcode, htarget, Option.toList_some] at hnamed
      refine (ih hclient ?_ hresult).prepend
      rw [Record.named_append, hnamed, addressNow_append_singleton, Redirection.snd_visit]
    | toUrl hcode hh htarget hu hadjusted hhost =>
      rw [if_neg (by simp [hcode]), Option.toList_none] at hnamed
      refine (ih hclient ?_ hresult).prepend
      rw [Record.named_append, hnamed, List.append_nil]
      exact hnow
  | unaddressed | unresolved | refused | stuck => cases hresult

theorem AskedLegacy.endsFor {result : Except Failure (Response UserSetting)}
    (h : s.AskedLegacy env address settings result t events) (hresult : result = .ok response) :
    response.identity = address ∧ ∃ last, s.client.EndsFor .legacy address [] events last := by
  have asked {url : Uri} {outcome : Except Failure LegacyAnswer} (hq : s.client.QueriedLegacy address url outcome events)
      (houtcome : outcome.map (LegacyAnswer.toResponse address settings) = .ok response) :
      response.identity = address ∧ ∃ last, s.client.EndsFor .legacy address [] events last := by
    cases outcome with
    | error e => cases houtcome
    | ok answer =>
      cases houtcome
      exact ⟨answer.identity_toResponse address settings, address, hq.endsFor⟩
  cases h with
  | found hl hd =>
    cases hresult
    exact ⟨LegacyAnswer.identity_toResponse _ address settings, hd.endsFor rfl rfl⟩
  | asked hl hu hq | askedAt hl hu hq => exact asked hq hresult
  | unfound | unplaced | unnamed => cases hresult

/-- A call that began with an address ends with the answer to a request that bears another, or the same, and none
besides: the one that the answers before it have named last. -/
inductive AnsweredFor (s : Service) (settings : List UserSetting) (start : String) : Record → String → Prop
  | mk {before : Record} {request : Http.Request} {reply : Http.Response} {address : String}
      (hm : request.method = .post)
      (hnow : addressNow start (before.named (Call.query s.client.config.version (.user start settings))) = address)
      (hbody : ∀ other, request.body = (Call.query s.client.config.version (.user other settings)).render request.url
        s.client.config.version s.client.credential ↔ other = address) :
      AnsweredFor s settings start (before ++ [.exchange request (.ok reply)]) address

theorem body_of_queryRequest {c : Client} {q : Query} {url : Uri} {request : Http.Request}
    (h : c.queryRequest q url = .ok request) : request.body = q.render url c.config.version c.credential := by
  obtain ⟨authorization, -, h⟩ := Failure.of_bind_ok h
  split at h
  · cases h
    rfl
  · cases h

theorem answeredFor_of_endsFor {ask : String → Query}
    (hask : ∀ other, ask other = Call.query s.client.config.version (.user other settings))
    (h : s.client.EndsFor ask start [] events address) : s.AnsweredFor settings start events address := by
  cases h with
  | mk before hnow h =>
    rw [hask, List.nil_append] at hnow
    rw [hask] at h
    refine .mk (Client.of_queryRequest h).1 hnow fun other => ?_
    rw [body_of_queryRequest h]
    constructor
    · exact fun heq => (Query.render_injective heq).symm
    · rintro rfl
      rfl

theorem eq_ok_of_map {result : Except Failure (Response UserSetting)} (h : result.map Reply.user = .ok (.user response)) :
    result = .ok response := by
  cases result with
  | error e => cases h
  | ok found =>
    cases h
    rfl

theorem Performed.bearsAddress {outcome : Except Failure Reply}
    (h : s.Performed env (.user address settings) outcome t events) (houtcome : outcome = .ok (.user response)) :
    ∃ asked, s.AnsweredFor settings address events asked ∧
      response.identity = if s.client.config.version.supportsSoap then asked else address := by
  cases h with
  | blankAddress | noSettings => cases houtcome
  | rounds hb hs hv hr =>
    have hask (other : String) :
        Query.users [other] settings = Call.query s.client.config.version (.user other settings) := by
      rw [Call.query, if_pos hv]
    exact ⟨_, answeredFor_of_endsFor hask (hr.endsFor rfl rfl (eq_ok_of_map houtcome)), (if_pos hv).symm⟩
  | legacy hb hs hv hr =>
    have hask (other : String) :
        Query.legacy other = Call.query s.client.config.version (.user other settings) := by
      rw [Call.query, if_neg (by simp [hv])]
    obtain ⟨hidentity, last, hends⟩ := hr.endsFor (eq_ok_of_map houtcome)
    exact ⟨last, answeredFor_of_endsFor hask hends, hidentity.trans (if_neg (by simp [hv])).symm⟩

theorem response_bears_address (s : Service) (address : String) (settings : List UserSetting) (env : Environment)
    (log : Record) :
    ∃ events, (s.perform (.user address settings) env log).2 = log ++ events ∧
      ∀ response, (s.perform (.user address settings) env log).1.1 = .ok (.user response) →
        ∃ asked, s.AnsweredFor settings address events asked ∧
          response.identity = if s.client.config.version.supportsSoap then asked else address := by
  obtain ⟨events, hlog, hrun⟩ := s.meets_perform (.user address settings) log
  exact ⟨events, hlog, fun response hresponse => hrun.bearsAddress hresponse⟩

def otherAddress : String :=
  "other@b.example"

def addressBody : String :=
  "<Autodiscover><Response><Account><Action>redirectAddr</Action><RedirectAddr>" ++ otherAddress ++
    "</RedirectAddr></Account></Response></Autodiscover>"

def findsSettings : LegacyAnswer → Bool
  | .settings _ => true
  | _ => false

theorem addressBody_read : Legacy.ofBody addressBody.toUTF8 = .ok (.redirectAddress otherAddress) := by
  have hread : ((Xml.Node.ofDocument? addressBody).any fun root =>
      (Legacy.ofRoot root).toOption.any (·.sendsOn? == some (.redirectAddress, otherAddress))) = true := by
    unfold Xml.Node.ofDocument? addressBody otherAddress
    simp only [String.toList_append]
    decide +kernel
  obtain ⟨answer, hanswer, hsends⟩ := ofBody_of_sendsOn? hread
  rw [hanswer, LegacyAnswer.eq_redirectAddress_of_sendsOn? hsends]

theorem foundBody_read : ∃ found, Legacy.ofBody foundBody.toUTF8 = .ok (.settings found) := by
  have hread : ((Xml.Node.ofDocument? foundBody).any fun root =>
      (Legacy.ofRoot root).toOption.any findsSettings) = true := by
    unfold Xml.Node.ofDocument? foundBody
    simp only [String.toList_append]
    decide +kernel
  obtain ⟨answer, hanswer, hfinds⟩ := Legacy.exists_ofBody hread
  unfold findsSettings at hfinds
  split at hfinds
  · exact ⟨_, hanswer⟩
  · cases hfinds

theorem forwarding_second {body : ByteArray} {sent : List Http.Request} {request : Http.Request}
    (h : request.url = secondGuess) :
    (forwarding body).transport sent request = .ok ⟨200, [], foundBody.toUTF8⟩ := by
  have hne : request.url ≠ firstGuess := by
    rw [h]
    decide
  exact (if_neg hne).trans (if_pos h)

theorem known_of_legacyHttps? {domain : String} {url : Uri} (h : WellKnown.legacyHttps? domain = some url) :
    ∃ rest, Client.knownUrls [] domain = ⟨url, .guess⟩ :: rest := by
  simp [Client.knownUrls, WellKnown.hostGuesses, h]

theorem exists_queryRequest (address : String) (url : Uri) :
    ∃ request, olderService.client.queryRequest (.legacy address) url = .ok request ∧ request.url = url :=
  ⟨_, rfl, rfl⟩

theorem discoverLegacy_forwarding {body : ByteArray} {found : Settings UserSetting}
    (hb : Legacy.ofBody body = .ok (.redirectAddress otherAddress))
    (hf : Legacy.ofBody foundBody.toUTF8 = .ok (.settings found)) :
    ∃ before request reply,
      olderService.client.discoverLegacy (.start (some "jane@a.example") true) "jane@a.example" (forwarding body) [] =
        (.ok (found, .guess), before ++ [.exchange request (.ok reply)]) ∧
      olderService.client.queryRequest (.legacy otherAddress) request.url = .ok request := by
  obtain ⟨asked, hasked, hu⟩ := exists_queryRequest "jane@a.example" firstGuess
  obtain ⟨request, hrequest, hu'⟩ := exists_queryRequest otherAddress secondGuess
  let named : Record := [.directory "a.example", .exchange asked (.ok ⟨200, [], body⟩)]
  have hfirst : olderService.client.legacyRound "jane@a.example" "a.example" (.start (some "jane@a.example") true)
      (forwarding body) [] = ((.restart otherAddress, 0), named) := by
    have hguess : WellKnown.legacyHttps? "a.example" = some firstGuess := by decide +kernel
    have hlookUp : Client.directoryUrls (.start (some "jane@a.example") true) "a.example" (forwarding body) [] =
        ([], [.directory "a.example"]) := by
      rfl
    obtain ⟨rest, hknown⟩ := known_of_legacyHttps? hguess
    apply Client.legacyRound_of_settled hlookUp
    · rw [hknown]
      exact Client.tryLegacy_of_restart (Client.queryLegacy_of_transport hasked (forwarding_first hu) rfl hb)
    · simp
  have hsecond : olderService.client.legacyRound otherAddress "b.example" ⟨9, [otherAddress, "jane@a.example"], true⟩
      (forwarding body) named = ((.found found .guess, 0),
        named ++ [.directory "b.example"] ++ [.exchange request (.ok ⟨200, [], foundBody.toUTF8⟩)]) := by
    have hguess : WellKnown.legacyHttps? "b.example" = some secondGuess := by decide +kernel
    have hlookUp : Client.directoryUrls ⟨9, [otherAddress, "jane@a.example"], true⟩ "b.example" (forwarding body)
        named = ([], named ++ [.directory "b.example"]) := by
      rfl
    obtain ⟨rest, hknown⟩ := known_of_legacyHttps? hguess
    apply Client.legacyRound_of_settled hlookUp
    · rw [hknown]
      exact Client.tryLegacy_of_found (Client.queryLegacy_of_transport hrequest (forwarding_second hu') rfl hf)
    · simp
  have hdomain : MailAddress.domain "jane@a.example" = .ok "a.example" := by rfl
  have hdomain' : MailAddress.domain otherAddress = .ok "b.example" := by rfl
  have hhop : ((Redirection.start (some "jane@a.example") true).spend 0).hop? = some ⟨9, ["jane@a.example"], true⟩ := by
    rfl
  have hvisit : Redirection.visit ⟨9, ["jane@a.example"], true⟩ otherAddress =
      (⟨9, [otherAddress, "jane@a.example"], true⟩, otherAddress) := by
    rfl
  refine ⟨named ++ [.directory "b.example"], request, ⟨200, [], foundBody.toUTF8⟩, ?_, ?_⟩
  · rw [Client.discoverLegacy_of_restart hdomain hfirst hhop, hvisit]
    exact Client.discoverLegacy_of_found hdomain' hsecond
  · rw [hu']
    exact hrequest

theorem olderService_forwarding :
    ∃ found before request reply,
      (olderService.perform (.user "jane@a.example" [.userDisplayName]) (forwarding addressBody.toUTF8) []).1.1 =
        .ok (.user (LegacyAnswer.toResponse "jane@a.example" [.userDisplayName] (.settings found))) ∧
      (olderService.perform (.user "jane@a.example" [.userDisplayName]) (forwarding addressBody.toUTF8) []).2 =
        before ++ [.exchange request (.ok reply)] ∧
      olderService.client.queryRequest (.legacy otherAddress) request.url = .ok request := by
  obtain ⟨found, hfound⟩ := foundBody_read
  obtain ⟨before, request, reply, hdiscover, hrequest⟩ := discoverLegacy_forwarding addressBody_read hfound
  rw [perform_of_legacyUserSettings rfl (by decide +kernel) rfl
    (legacyUserSettings_of_discoverLegacy rfl hdiscover)]
  exact ⟨found, before, request, reply, rfl, rfl, hrequest⟩

theorem response_may_bear_other_address :
    ¬ ∀ (s : Service) (address : String) (settings : List UserSetting) (env : Environment) (log before : Record)
        (request : Http.Request) (reply : Http.Response) (response : Response UserSetting),
      (s.perform (.user address settings) env log).1.1 = .ok (.user response) →
      (s.perform (.user address settings) env log).2 = before ++ [.exchange request (.ok reply)] →
      request.method = .post →
      request.body = (Call.query s.client.config.version (.user response.identity settings)).render request.url
        s.client.config.version s.client.credential := by
  intro h
  obtain ⟨found, before, request, reply, hresult, hrecord, hrequest⟩ := olderService_forwarding
  have hbody := h _ _ _ _ _ _ _ _ _ hresult hrecord (Client.of_queryRequest hrequest).1
  rw [LegacyAnswer.identity_toResponse, body_of_queryRequest hrequest] at hbody
  have hsame : otherAddress = "jane@a.example" := Query.render_injective hbody
  exact absurd hsame (by decide)

end Service

end MailDiscovery
