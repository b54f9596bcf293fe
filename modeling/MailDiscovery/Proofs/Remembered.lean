import MailDiscovery.Proofs.Consistency
import MailDiscovery.Proofs.DirectoryLookups.Resolution
import MailDiscovery.Proofs.Run.Forward

namespace MailDiscovery

/-- Whether candidates are looked for after an event. An answer that settles a query is followed by queries to a known
URL, unless it named an address. -/
def Event.leadsToSearch (q : Query) (among : Bool) (event : Event) : Bool :=
  (event.settling? q among).elim among fun answer => answer.namedAddress?.isSome

namespace Record

def searching (q : Query) (among : Bool) (events : Record) : Bool :=
  events.foldl (Event.leadsToSearch q) among

variable {q : Query} {among : Bool} {events : Record}

theorem searching_append (q : Query) (among : Bool) (events more : Record) :
    searching q among (events ++ more) = searching q (events.searching q among) more :=
  List.foldl_append

theorem searching_of_not_settling (h : ∀ event ∈ events, event.settling? q among = none) :
    events.searching q among = among := by
  induction events with
  | nil => rfl
  | cons event events ih =>
    rw [List.forall_mem_cons] at h
    rw [searching, List.foldl_cons, Event.leadsToSearch, h.1]
    exact ih h.2

theorem searching_concat {event : Event} {answer : Answer}
    (h : event.settling? q (events.searching q among) = some answer) :
    searching q among (events ++ [event]) = answer.namedAddress?.isSome := by
  rw [searching_append, searching, List.foldl_cons, List.foldl_nil, Event.leadsToSearch, h]
  rfl

end Record

def Call.goesOn : Call → Bool
  | .user _ _ => true
  | _ => false

namespace Service

/-- What an answer from a URL leaves of the locator of a service, given the events after it: that URL if the call ends
there, or where the call goes on. A URL without a host cannot take the place of another. -/
inductive Leaves (s : Service) (goesOn : Bool) (url : Uri) (answer : Answer) : Record → Locator → Prop
  | here {host : String} (hh : url.host? = some host) : Leaves s goesOn url answer [] (.url url host)
  | hostless {host : String} (hh : url.host? = none) (hl : s.locator = .url url host) :
      Leaves s goesOn url answer [] (.url url host)
  | toAddress {after : Record} {target : String} (hg : goesOn = true) (ha : answer.namedAddress? = some target) :
      Leaves s goesOn url answer after .undetermined
  | toUrl {after : Record} {collection : Collection UserSetting} {first : Response UserSetting}
      {target host : String} {named adjusted : Uri} (hg : goesOn = true) (ha : answer = .users collection)
      (hn : collection.code = .noError) (hf : collection.responses = [first]) (hc : first.code = .redirectUrl)
      (ht : first.redirectTarget = some target) (hu : Uri.ofText? target = some named)
      (hadj : s.client.credential.adjust? named = some adjusted) (hh : adjusted.host? = some host) :
      Leaves s goesOn url answer after (.url adjusted host)

/-- What becomes of a service in a call that fails. The last answer to settle a query did so in the way that held where
it came: while candidates were looked for, by reporting no error. -/
inductive Remembered (q : Query) (goesOn : Bool) (s t : Service) (events : Record) : Prop
  | nothing (hn : ∀ event ∈ events, event.settling? q s.searches = none) (ht : t = s)
  | last {before after : Record} {request : Http.Request} {response : Http.Response} {answer : Answer}
      (heq : events = before ++ [.exchange request (.ok response)] ++ after) (hm : request.method = .post)
      (hs : Event.settling? q (before.searching q s.searches) (.exchange request (.ok response)) = some answer)
      (hafter : ∀ event ∈ after, event.settling? q
        (Record.searching q s.searches (before ++ [.exchange request (.ok response)])) = none)
      (hl : Leaves s goesOn request.url answer after t.locator)
      (hx : t.isExternal = s.isExternal ∨ s.locator = .undetermined ∨ before.named q ≠ [])

variable {s t : Service} {env : Environment} {q : Query} {goesOn : Bool}

theorem Resolved.remembered {domain : String} {r : Redirection} {answer : Answer} {followed : Nat} {events : Record}
    (hq : q.isSoap = true) (h : s.Resolved env q domain r (.ok (answer, t)) followed events) :
    Remembered q goesOn s t events := by
  obtain ⟨url, hc, hsettled⟩ := h.concluded hq
  obtain ⟨host, hl⟩ := hsettled.locator
  cases hc with
  | @served before request response _ hb hm hs =>
    rw [← Record.searching_of_not_settling hb] at hs
    refine .last (List.append_nil _).symm hm hs (by simp) ?_ (hsettled.isExternal.symm.imp_right .inl)
    rw [hl]
    rcases hsettled.host host hl with hhost | ⟨hnone, hl⟩
    · exact .here hhost
    · exact .hostless hnone hl

theorem Leaves.of_turned {turned : Service} {url : Uri} {answer : Answer} {after : Record} {locator : Locator}
    (hc : turned.client = s.client) (ht : turned.Consistent) (h : turned.Leaves goesOn url answer after locator) :
    s.Leaves goesOn url answer after locator := by
  cases h with
  | here hh => exact .here hh
  | hostless hh hl => simp [ht _ _ hl] at hh
  | toAddress hg ha => exact .toAddress hg ha
  | toUrl hg ha hn hf hcode ht hu hadj hh => exact .toUrl hg ha hn hf hcode ht hu (hc ▸ hadj) hh

theorem Remembered.after_turn {turned final : Service} {url : Uri} {answer : Answer} {events more : Record}
    (hc : Concluded q s.searches (.ok ⟨answer, url⟩) events) (hl : s.Leaves goesOn url answer more turned.locator)
    (hx : s.locator = .undetermined ∨ turned.isExternal = s.isExternal)
    (hnamed : turned.searches = answer.namedAddress?.isSome) (hclient : turned.client = s.client)
    (hconsistent : turned.Consistent) (h : Remembered q goesOn turned final more) :
    Remembered q goesOn s final (events ++ more) := by
  have hcnamed := hc.named
  cases hc with
  | @served before request response _ hb hm hs =>
    rw [← Record.searching_of_not_settling hb] at hs
    have hmode (events : Record) :
        Record.searching q s.searches (before ++ [.exchange request (.ok response)] ++ events) =
          events.searching q turned.searches := by
      rw [Record.searching_append, Record.searching_concat hs, hnamed]
    -- The rounds after the turn settle nothing, or they have a last answer of their own.
    cases h with
    | nothing hn ht =>
      subst ht
      refine .last rfl hm hs ?_ hl (hx.symm.imp_right .inl)
      rwa [Record.searching_concat hs, ← hnamed]
    | @last first after request' response' answer' heq hm' hs' hafter hl' hx' =>
      subst heq
      refine .last (by simp only [List.append_assoc]) hm' (hmode first ▸ hs') ?_ (hl'.of_turned hclient hconsistent) ?_
      · rwa [List.append_assoc _ first, hmode]
      · rw [Record.named_append, hcnamed]
        rcases hx' with hx' | hundetermined | hfirst
        · rcases hx with hx | hx
          · exact .inr (.inl hx)
          · exact .inl (hx'.trans hx)
        · obtain ⟨target, htarget⟩ := Option.isSome_iff_exists.1 (hnamed.symm.trans (by simp [searches, hundetermined]))
          simp [Except.toOption, htarget]
        · exact .inr (.inr (List.append_ne_nil_of_right_ne_nil _ hfirst))

theorem Turned.leaves {c : Collection UserSetting} {address : String} {response : Response UserSetting} {r : Redirection}
    {turn : Turn} (hs : soleResponse address (.users c) = .ok response) (hclient : t.client = s.client)
    (h : t.Turned address response r (.ok turn)) :
    (∀ url after, s.Leaves true url (.users c) after turn.service.locator) ∧
      turn.service.searches = (Answer.users c).namedAddress?.isSome := by
  have hnamed := namedAddress?_of_soleResponse hs
  obtain ⟨hcode, first, hf, rfl⟩ := soleResponse_eq_ok hs
  cases h with
  | toAddress hmoved hnext htarget =>
    rw [if_pos hmoved, htarget] at hnamed
    rw [hnamed]
    exact ⟨fun url after => .toAddress rfl hnamed, rfl⟩
  | toUrl hmoved hnext htarget hu hadj hh =>
    have hstays : first.code ≠ .redirectAddress := fun h => absurd (hmoved.symm.trans h) (by decide)
    rw [if_neg hstays] at hnamed
    rw [hnamed]
    exact ⟨fun url after => .toUrl rfl rfl hcode hf hmoved htarget hu (hclient ▸ hadj) hh, rfl⟩

theorem Remembered.of_users {addresses : List String} {settings : List UserSetting} {events : Record}
    (h : Remembered (.users addresses settings) goesOn s t events) (others : List String) :
    Remembered (.users others settings) goesOn s t events := by
  cases h with
  | nothing hn ht => exact .nothing hn ht
  | last heq hm hs hafter hl hx => exact .last heq hm hs hafter hl hx

theorem Rounds.remembered {settings : List UserSetting} {address : String} {r : Redirection}
    {result : Except Failure (Response UserSetting)} {events : Record}
    (h : Rounds env settings s address r result t events) :
    Remembered (.users [address] settings) true s t events := by
  induction h with
  | unaddressed ha => exact .nothing (by simp) rfl
  | unresolved ha hr => exact .nothing (hr.not_settling rfl) rfl
  | refused ha hr hs => exact hr.remembered rfl
  | answered ha hr hs ht => exact hr.remembered rfl
  | stuck ha hr hs ht => exact hr.remembered rfl
  | @turned s t final address domain r answer response turn followed events more result ha hr hs ht hn ih =>
    obtain ⟨url, hc, hsettled⟩ := hr.concluded rfl
    obtain ⟨c, -, -, -, rfl, -⟩ := hr.users
    have hturn := (turned_of_turn? ht).2
    obtain ⟨hl, hsearches⟩ := hturn.leaves hs hsettled.client
    exact (ih.of_users [address]).after_turn hc (hl url more) (hturn.isExternal ▸ hsettled.isExternal) hsearches
      (hturn.client.trans hsettled.client) hturn.consistent

theorem Collected.remembered {ν : Type} {select : Answer → Except Failure (Collection ν)} {identities : List String}
    {domain : String} {result : Except Failure (Collection ν)} {events : Record} (hq : q.isSoap = true)
    (h : s.Collected env q select identities domain result t events) : Remembered q goesOn s t events := by
  cases h with
  | unresolved hr => exact .nothing (hr.not_settling hq) rfl
  | resolved hr hs => exact hr.remembered hq

theorem AskedLegacy.unchanged {address : String} {settings : List UserSetting}
    {result : Except Failure (Response UserSetting)} {events : Record} {e : Failure}
    (h : s.AskedLegacy env address settings result t events) (he : result = .error e) : t = s := by
  cases h with
  | found hl hd => cases he
  | unfound | unplaced | asked | unnamed | askedAt => rfl

theorem Performed.remembered {call : Call} {result : Except Failure Reply} {events : Record}
    (hq : (call.query s.client.config.version).isSoap = true) (h : s.Performed env call result t events) :
    Remembered (call.query s.client.config.version) call.goesOn s t events := by
  cases h with
  | blankAddress hb => exact .nothing (by simp) rfl
  | noSettings hb hs => exact .nothing (by simp) rfl
  | rounds hb hs hv hr =>
    rw [Call.query, if_pos hv]
    exact hr.remembered
  | legacy hb hs hv hr => simp [Call.query, hv, Query.isSoap] at hq
  | noUsers hc => exact .nothing (by simp) rfl
  | users hc hr => exact hr.remembered rfl
  | noDomains hc => exact .nothing (by simp) rfl
  | domains hc hr => exact hr.remembered rfl
  | noDomain hc => exact .nothing (by simp) rfl
  | domain hc hr => exact hr.remembered rfl

theorem Performed.unchanged {call : Call} {e : Failure} {events : Record}
    (hq : (call.query s.client.config.version).isSoap = false) (h : s.Performed env call (.error e) t events) :
    t = s := by
  generalize hresult : (Except.error e : Except Failure Reply) = result at h
  cases h with
  | blankAddress hb => rfl
  | noSettings hb hs => rfl
  | rounds hb hs hv hr => simp [Call.query, hv, Query.isSoap] at hq
  | @legacy _ _ result _ _ hb hs hv hr =>
    cases result with
    | error e => exact hr.unchanged rfl
    | ok response => cases hresult
  | noUsers | users | noDomains | domains | noDomain | domain => cases hq

/-- A call that fails leaves a service as it was, unless an answer had settled a query before; a legacy call always
does. -/
theorem failed_call_remembers (s : Service) (call : Call) (env : Environment) (log : Record) {e : Failure}
    (h : (s.perform call env log).1.1 = .error e) :
    ∃ events, (s.perform call env log).2 = log ++ events ∧
      ((call.query s.client.config.version).isSoap = true →
        Remembered (call.query s.client.config.version) call.goesOn s (s.perform call env log).1.2 events) ∧
      ((call.query s.client.config.version).isSoap = false → (s.perform call env log).1.2 = s) := by
  obtain ⟨events, hlog, hrun⟩ := s.meets_perform call log
  rw [h] at hrun
  exact ⟨events, hlog, fun hq => hrun.remembered hq, fun hq => hrun.unchanged hq⟩

def formerUrl : Uri :=
  .absolute .https "mail.a.example" ⟨"/autodiscover/autodiscover.svc", none⟩

def formerService : Service :=
  { client := { config := {}, credential := .anonymous }, locator := .url formerUrl "mail.a.example" }

def movedTags : String :=
  "<UserResponses><UserResponse><ErrorCode>RedirectAddress</ErrorCode>" ++
    "<RedirectTarget>nobody</RedirectTarget></UserResponse></UserResponses>"

def movedBody : String :=
  "<e:Envelope xmlns:e=\"http://schemas.xmlsoap.org/soap/envelope/\"><e:Body>" ++
    "<GetUserSettingsResponseMessage xmlns=\"http://schemas.microsoft.com/exchange/2010/Autodiscover\">" ++
    "<Response>" ++ movedTags ++ "</Response></GetUserSettingsResponseMessage></e:Body></e:Envelope>"

def answering (body : ByteArray) : Environment where
  transport _ request :=
    if request.url = formerUrl then .ok ⟨200, [], body⟩ else .error (.timedOut request.timeout)
  directory _ := []
  serviceHost _ := none
  approves _ := false

def sendsToNobody (c : Collection UserSetting) : Bool :=
  c.code == .noError &&
    match c.responses with
    | [first] => first.code == .redirectAddress && first.redirectTarget == some "nobody"
    | _ => false

theorem movedBody_read :
    ∃ c, Soap.ofBody .users movedBody.toUTF8 = .ok c ∧ sendsToNobody c = true := by
  have hread : ((Xml.Node.ofDocument? movedBody).any fun root =>
      (Soap.ofRoot .users root).toOption.any sendsToNobody) = true := by
    -- Piece by piece, the characters of a text are found in reasonable time.
    unfold Xml.Node.ofDocument? movedBody movedTags
    simp only [String.toList_append]
    decide +kernel
  exact Soap.exists_ofBody hread

theorem answering_transport {body : ByteArray} {sent : List Http.Request} {request : Http.Request}
    (h : request.url = formerUrl) : (answering body).transport sent request = .ok ⟨200, [], body⟩ :=
  if_pos h

theorem forgets_of_sendsToNobody {body : ByteArray} {c : Collection UserSetting}
    (hread : Soap.ofBody .users body = .ok c) (hc : sendsToNobody c = true) :
    (formerService.perform (.user "jane@a.example" [.externalEwsUrl]) (answering body) []).1 =
      (.error (.invalidAddress .missingSeparator), formerService.reset) := by
  obtain ⟨hcode, first, hfirst, hmoved, htarget⟩ : c.code = .noError ∧ ∃ first, c.responses = [first] ∧
      first.code = .redirectAddress ∧ first.redirectTarget = some "nobody" := by
    unfold sendsToNobody at hc
    split at hc
    · rename_i first hfirst
      simp only [Bool.and_eq_true, beq_iff_eq] at hc
      exact ⟨hc.1, first, hfirst, hc.2⟩
    · simp at hc
  have hanswer : Client.readAnswer (.users ["jane@a.example"] [.externalEwsUrl]) formerUrl
      ⟨200, [], body⟩ = .ok (.users c) := by
    change ((Soap.ofBody .users body).map Answer.users).mapError Failure.unreadable = _
    rw [hread]
    rfl
  obtain ⟨after, hquery⟩ : ∃ after, formerService.client.query (.users ["jane@a.example"] [.externalEwsUrl])
      formerUrl (answering body) [] = (.ok (.users c), after) := by
    rw [Client.query_of_transport rfl (answering_transport rfl), hanswer]
    exact ⟨_, rfl⟩
  have hverdict (target : String) : (Answer.users c).verdict ≠ .redirectUrl target := by
    simp [Answer.verdict, Collection.verdict, hcode]
  have hsole : soleResponse "jane@a.example" (.users c) = .ok { first with identity := "jane@a.example" } := by
    rw [soleResponse_users, if_pos hcode, hfirst]
  have hturn : (formerService.adopt formerUrl).turn? "jane@a.example" { first with identity := "jane@a.example" }
      ((Redirection.start (some "jane@a.example") true).spend 0) =
        some (.ok ⟨formerService.reset, "nobody", ⟨9, ["nobody", "jane@a.example"], true⟩⟩) := by
    simp only [turn?, hmoved, turnToAddress, Response.target, htarget]
    rfl
  have hround := soapUserSettings_of_turn (by rfl : MailAddress.domain "jane@a.example" = .ok "a.example")
    (resolve_of_query rfl hquery hverdict) hsole hturn
  change ((formerService.userSettings "jane@a.example" [.externalEwsUrl] (answering body) []).1.1.map Reply.user,
    (formerService.userSettings "jane@a.example" [.externalEwsUrl] (answering body) []).1.2) = _
  have huser : formerService.userSettings "jane@a.example" [.externalEwsUrl] =
      formerService.soapUserSettings "jane@a.example" [.externalEwsUrl] (.start (some "jane@a.example") true) := by
    unfold userSettings
    rw [if_neg (by decide +kernel), if_neg (by decide), if_pos (by decide)]
    rfl
  rw [huser, hround]
  dsimp only
  rw [soapUserSettings, (by rfl : MailAddress.domain "nobody" = .error .missingSeparator)]
  rfl

theorem formerService_forgets :
    (formerService.perform (.user "jane@a.example" [.externalEwsUrl]) (answering movedBody.toUTF8) []).1 =
      (.error (.invalidAddress .missingSeparator), formerService.reset) := by
  obtain ⟨c, hread, hc⟩ := movedBody_read
  exact forgets_of_sendsToNobody hread hc

theorem failed_call_may_forget :
    ¬ ∀ (s : Service) (call : Call) (env : Environment) (log : Record) (e : Failure),
      (s.perform call env log).1.1 = .error e →
        (s.perform call env log).1.2.locator = s.locator ∧
          (s.perform call env log).1.2.isExternal = s.isExternal := by
  intro h
  have hlocator := (h formerService (.user "jane@a.example" [.externalEwsUrl]) (answering movedBody.toUTF8) []
    (.invalidAddress .missingSeparator) (by rw [formerService_forgets])).1
  rw [formerService_forgets] at hlocator
  cases hlocator

theorem failed_call_remembers_former :
    (formerService.perform (.user "jane@a.example" [.externalEwsUrl]) (answering movedBody.toUTF8) []).1.1 =
        .error (.invalidAddress .missingSeparator) ∧
      ∃ events,
        (formerService.perform (.user "jane@a.example" [.externalEwsUrl]) (answering movedBody.toUTF8) []).2 =
          [] ++ events ∧
        Remembered (.users ["jane@a.example"] [.externalEwsUrl]) true formerService formerService.reset events := by
  have hfails : (formerService.perform (.user "jane@a.example" [.externalEwsUrl]) (answering movedBody.toUTF8)
      []).1.1 = .error (.invalidAddress .missingSeparator) := by
    rw [formerService_forgets]
  obtain ⟨events, hlog, hsoap, -⟩ := failed_call_remembers formerService _ _ _ hfails
  rw [formerService_forgets] at hsoap
  exact ⟨hfails, events, hlog, hsoap rfl⟩

end Service

end MailDiscovery
