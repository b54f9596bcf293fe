import MailDiscovery.Proofs.DirectoryLookups.Resolution
import MailDiscovery.Proofs.Remembered

namespace MailDiscovery

def Event.postedTo? : Event → Option Uri
  | .exchange request _ => if request.method = .post then some request.url else none
  | _ => none

namespace Client

def canAsk (c : Client) : Bool :=
  c.credential.authorization.isOk && Http.isValue c.config.userAgent

variable {c : Client} {env : Environment} {q : Query}

theorem isOk_queryRequest (c : Client) (q : Query) (url : Uri) : (c.queryRequest q url).isOk = c.canAsk := by
  unfold queryRequest canAsk
  cases c.credential.authorization with
  | error e => rfl
  | ok headers =>
    change (if _ then _ else _ : Except Failure Http.Request).isOk = _
    split <;> simp_all [Except.isOk, Except.toBool]

def BeginsAt (c : Client) (url : Uri) (events : Record) : Prop :=
  if c.canAsk then ∃ event rest, events = event :: rest ∧ event.postedTo? = some url else events = []

theorem BeginsAt.append {url : Uri} {events : Record} (h : c.BeginsAt url events) (hc : c.canAsk = true)
    (more : Record) : c.BeginsAt url (events ++ more) := by
  rw [BeginsAt, if_pos hc] at h ⊢
  obtain ⟨event, rest, rfl, hurl⟩ := h
  exact ⟨event, rest ++ more, rfl, hurl⟩

theorem Queried.canAsk {url : Uri} {answer : Answer} {events : Record} (h : c.Queried q url (.ok answer) events) :
    c.canAsk = true := by
  cases h with
  | heard h hr =>
    rw [← c.isOk_queryRequest q url, h]
    rfl

theorem Queried.beginsAt {url : Uri} {result : Except Failure Answer} {events : Record}
    (h : c.Queried q url result events) : c.BeginsAt url events := by
  have hcan := c.isOk_queryRequest q url
  cases h with
  | refused h =>
    rw [h] at hcan
    rw [BeginsAt, ← hcan]
    rfl
  | unheard h | heard h hr =>
    obtain ⟨hm, hu⟩ := of_queryRequest h
    rw [h] at hcan
    rw [BeginsAt, ← hcan]
    exact ⟨_, _, rfl, by rw [Event.postedTo?, if_pos hm, hu]⟩

theorem Followed.beginsAt {left followed : Nat} {url : Uri} {outcome : Except Failure Served} {events : Record}
    (h : c.Followed q left url outcome followed events) : c.BeginsAt url events := by
  cases h with
  | failed h | served h | exceeded h | lost h => exact h.beginsAt
  | onward h hv ht hn => exact h.beginsAt.append h.canAsk _

theorem Followed.canAsk {left followed : Nat} {url : Uri} {served : Served} {events : Record}
    (h : c.Followed q left url (.ok served) followed events) : c.canAsk = true := by
  cases h with
  | served h hv | onward h hv => exact h.canAsk

theorem Tried.canAsk {left followed : Nat} {last : Option Failure} {candidates : List (Candidate String)}
    {search : Search Served} {served : Served} {events : Record}
    (h : c.Tried q left last candidates search followed events) (hs : search.served = .ok served) :
    c.canAsk = true := by
  induction h with
  | found h =>
    cases h with
    | served hg hf hc => exact hf.canAsk
  | next h he hn ih => exact ih hs
  | exhausted | failed => cases hs

theorem FellBack.canAsk {left n m : Nat} {origin : Origin} {P : Option Uri → Record → Prop}
    {search found : Search Served} {served : Served} {events : Record}
    (h : c.FellBack q left origin P search n found m events)
    (hsearch : search.served = .ok served → c.canAsk = true) (hs : found.served = .ok served) :
    c.canAsk = true := by
  cases h with
  | settled h => exact hsearch hs
  | tried hp ht => exact ht.canAsk hs

end Client

def Call.named (version : ServerVersion) (events : Record) : Call → List String
  | .user address settings => events.named (Call.query version (.user address settings))
  | _ => []

namespace Service

variable {s t : Service} {env : Environment} {q : Query} {url : Uri} {host : String} {events : Record}

theorem Resolved.canAsk {domain : String} {r : Redirection} {answer : Answer} {followed : Nat}
    (h : s.Resolved env q domain r (.ok (answer, t)) followed events) : s.client.canAsk = true := by
  cases h with
  | served hl hf | servedAt hl hg hf => exact hf.canAsk
  | found hl hd =>
    cases hd with
    | mk hlisted ht hr hs => exact hs.canAsk (hr.canAsk ht.canAsk) rfl

theorem Resolved.atUrl {domain : String} {r : Redirection} {outcome : Except Failure (Answer × Service)}
    {followed : Nat} (h : s.Resolved env q domain r outcome followed events) (hl : s.locator = .url url host) :
    s.client.BeginsAt url events ∧ ∀ event ∈ events, event.isPost = true := by
  cases h with
  | unserved hl' hf | served hl' hf =>
    rw [hl] at hl'
    cases hl'
    exact ⟨hf.beginsAt, hf.isPost⟩
  | ungated hl' | unusable hl' | unservedAt hl' | servedAt hl' | found hl' | failed hl' | exhausted hl' =>
    rw [hl] at hl'
    cases hl'

def accepts (s : Service) : Call → Bool
  | .user address settings =>
    !Text.isBlankText address && !settings.isEmpty && (MailAddress.domain address).isOk
  | .users addresses settings => (s.checkUsers addresses settings).isOk
  | .domains names _ settings => (s.checkDomains names settings).isOk
  | .domain name _ settings => (s.checkDomains [name] settings).isOk

structure AsksAt (s : Service) (url : Uri) (call : Call) (events : Record) : Prop where
  begins : s.accepts call = true → s.client.BeginsAt url events
  rejected : s.accepts call = false → events = []
  posts : ∀ before event after, events = before ++ event :: after →
    call.named s.client.config.version before = [] → event.isPost = true

def GoesStraightTo (s : Service) (url : Uri) : Prop :=
  ∀ (env : Environment) (log : Record),
    (∀ call, (call.query s.client.config.version).isSoap = true →
      ∃ events, (s.perform call env log).2 = log ++ events ∧ s.AsksAt url call events) ∧
    ∀ domain, ∃ events, (s.partnerAccess domain env log).2 = log ++ events ∧
      (∀ event ∈ events, event.isPost = true) ∧
      if (s.checkPartner domain).isOk then s.client.BeginsAt url events else events = []

theorem Rounds.posts {settings : List UserSetting} {address : String} {r : Redirection}
    {result : Except Failure (Response UserSetting)} (h : Rounds env settings s address r result t events)
    (hl : ∃ url host, s.locator = .url url host) {before after : Record} {event : Event}
    (heq : events = before ++ event :: after) (hnamed : before.named (.users [address] settings) = []) :
    event.isPost = true := by
  induction h generalizing before after with
  | unaddressed ha => simp at heq
  | unresolved ha hr | refused ha hr | answered ha hr | stuck ha hr =>
    obtain ⟨url, host, hl⟩ := hl
    exact (hr.atUrl hl).2 event (by simp [heq])
  | turned ha hr hs ht hn ih =>
    obtain ⟨url, host, hl⟩ := hl
    rcases Record.split_append heq with ⟨rest, hevents, -⟩ | ⟨rest, rfl, hmore⟩
    · exact (hr.atUrl hl).2 event (by simp [hevents])
    · obtain ⟨hround, hrest⟩ := List.append_eq_nil_iff.1 (Record.named_append _ _ rest ▸ hnamed)
      obtain ⟨c, -, -, -, rfl, -⟩ := hr.users
      rw [hr.named rfl, namedAddress?_of_soleResponse hs] at hround
      cases (turned_of_turn? ht).2 with
      | toAddress hc hh htarget => simp [hc, htarget] at hround
      | toUrl hc hh htarget hu hadj hhost => exact ih ⟨_, _, rfl⟩ hmore hrest

theorem Rounds.beginsAt {settings : List UserSetting} {address : String} {r : Redirection}
    {result : Except Failure (Response UserSetting)} (h : Rounds env settings s address r result t events)
    (hl : s.locator = .url url host) (ha : (MailAddress.domain address).isOk = true) :
    s.client.BeginsAt url events := by
  cases h with
  | unaddressed ha' => simp [ha', Except.isOk, Except.toBool] at ha
  | unresolved ha hr | refused ha hr | answered ha hr | stuck ha hr => exact (hr.atUrl hl).1
  | turned ha hr hs ht hn => exact (hr.atUrl hl).1.append hr.canAsk _

theorem Collected.atUrl {ν : Type} {select : Answer → Except Failure (Collection ν)} {identities : List String}
    {domain : String} {result : Except Failure (Collection ν)}
    (h : s.Collected env q select identities domain result t events) (hl : s.locator = .url url host) :
    s.client.BeginsAt url events ∧ ∀ event ∈ events, event.isPost = true := by
  cases h with
  | unresolved hr | resolved hr => exact hr.atUrl hl

theorem Performed.asksAt {call : Call} {result : Except Failure Reply}
    (hq : (call.query s.client.config.version).isSoap = true) (h : s.Performed env call result t events)
    (hl : s.locator = .url url host) : s.AsksAt url call events := by
  have refused (hcall : s.accepts call = false) : s.AsksAt url call [] :=
    ⟨fun haccept => by simp [hcall] at haccept, fun _ => rfl, by simp⟩
  have straight (hcall : s.accepts call = true)
      (hevents : s.client.BeginsAt url events ∧ ∀ event ∈ events, event.isPost = true) :
      s.AsksAt url call events := by
    refine ⟨fun _ => hevents.1, fun haccept => by simp [hcall] at haccept, ?_⟩
    intro before event after heq _
    exact hevents.2 event (by simp [heq])
  cases h with
  | blankAddress hb => exact refused (by simp [accepts, hb])
  | noSettings hb hs => exact refused (by simp [accepts, hs])
  | @rounds address settings _ _ _ hb hs hv hr =>
    have haccepts : s.accepts (.user address settings) = (MailAddress.domain address).isOk := by
      simp [accepts, hb, hs]
    refine ⟨fun haccept => hr.beginsAt hl (haccepts ▸ haccept), fun haccept => ?_, ?_⟩
    · cases hr with
      | unaddressed ha => rfl
      | unresolved ha | refused ha | answered ha | stuck ha | turned ha =>
        rw [haccepts, ha] at haccept
        cases haccept
    · intro before event after heq hnamed
      rw [Call.named, Call.query, if_pos hv] at hnamed
      exact hr.posts ⟨url, host, hl⟩ heq hnamed
  | legacy hb hs hv hr => simp [Call.query, hv, Query.isSoap] at hq
  | noUsers hc | noDomains hc | noDomain hc =>
    refine refused ?_
    rw [accepts, hc]
    rfl
  | users hc hr | domains hc hr | domain hc hr =>
    refine straight ?_ (hr.atUrl hl)
    rw [accepts, hc]
    rfl

theorem AskedPartner.atUrl {domain : String} {result : Except Failure (Option PartnerAccess)}
    (h : s.AskedPartner env domain result t events) (hl : s.locator = .url url host) :
    (∀ event ∈ events, event.isPost = true) ∧
      if (s.checkPartner domain).isOk then s.client.BeginsAt url events else events = [] := by
  cases h with
  | rejected hc =>
    rw [hc]
    exact ⟨by simp, rfl⟩
  | unresolved hc hr | ungranted hc hr | granted hc hr =>
    obtain ⟨hbegins, hposts⟩ := hr.atUrl hl
    rw [hc]
    exact ⟨hposts, hbegins⟩

theorem goesStraightTo_of_locator (hl : s.locator = .url url host) : s.GoesStraightTo url := by
  intro env log
  constructor
  · intro call hq
    obtain ⟨events, hlog, hrun⟩ := s.meets_perform call log
    exact ⟨events, hlog, hrun.asksAt hq hl⟩
  · intro domain
    obtain ⟨events, hlog, hrun⟩ := s.meets_partnerAccess domain log
    exact ⟨events, hlog, hrun.atUrl hl⟩

structure EndsKnowing (s t : Service) (events : Record) (request : Http.Request) (response : Http.Response) :
    Prop where
  last : ∃ before, events = before ++ [.exchange request (.ok response)]
  method : request.method = .post
  success : response.isSuccess = true
  locator : ∃ host, t.locator = .url request.url host
  client : t.client = s.client
  canAsk : s.client.canAsk = true

theorem Resolved.endsKnowing {domain : String} {r : Redirection} {answer : Answer} {followed : Nat}
    (hq : q.isSoap = true) (h : s.Resolved env q domain r (.ok (answer, t)) followed events) :
    ∃ request response, s.EndsKnowing t events request response := by
  have hcan := h.canAsk
  obtain ⟨url, hc, hsettled⟩ := h.concluded hq
  cases hc with
  | @served before request response _ hb hm hs =>
    obtain ⟨_, _, heq, -, hsuccess, -⟩ := Event.read_of_answer? (Event.answer?_of_settling? hs)
    cases heq
    exact ⟨request, response, ⟨before, rfl⟩, hm, hsuccess, hsettled.locator, hsettled.client, hcan⟩

theorem Rounds.endsKnowing {settings : List UserSetting} {address : String} {r : Redirection}
    {result : Except Failure (Response UserSetting)} {response : Response UserSetting}
    (h : Rounds env settings s address r result t events) (hresult : result = .ok response) :
    ∃ request response, s.EndsKnowing t events request response := by
  induction h with
  | unaddressed | unresolved | refused | stuck => cases hresult
  | answered ha hr hs ht => exact hr.endsKnowing rfl
  | turned ha hr hs ht hn ih =>
    obtain ⟨request, response, hends⟩ := ih hresult
    obtain ⟨_, _, hround⟩ := hr.endsKnowing rfl
    have hclient := (turned_of_turn? ht).2.client.trans hround.client
    obtain ⟨before, rfl⟩ := hends.last
    exact ⟨request, response, ⟨_, (List.append_assoc ..).symm⟩, hends.method, hends.success, hends.locator,
      hends.client.trans hclient, hround.canAsk⟩

theorem Collected.endsKnowing {ν : Type} {select : Answer → Except Failure (Collection ν)}
    {identities : List String} {domain : String} {result : Except Failure (Collection ν)} {c : Collection ν}
    (hq : q.isSoap = true) (h : s.Collected env q select identities domain result t events)
    (hresult : result = .ok c) : ∃ request response, s.EndsKnowing t events request response := by
  cases h with
  | unresolved hr => cases hresult
  | resolved hr hs => exact hr.endsKnowing hq

theorem Performed.endsKnowing {call : Call} {result : Except Failure Reply} {reply : Reply}
    (hq : (call.query s.client.config.version).isSoap = true) (h : s.Performed env call result t events)
    (hreply : result = .ok reply) : ∃ request response, s.EndsKnowing t events request response := by
  have of_map {α : Type} {f : α → Reply} {result : Except Failure α} (h : result.map f = .ok reply) :
      ∃ a, result = .ok a := by
    cases result with
    | error e => cases h
    | ok a => exact ⟨a, rfl⟩
  cases h with
  | blankAddress | noSettings | noUsers | noDomains | noDomain => cases hreply
  | legacy hb hs hv hr => simp [Call.query, hv, Query.isSoap] at hq
  | rounds hb hs hv hr =>
    obtain ⟨response, hresult⟩ := of_map hreply
    exact hr.endsKnowing hresult
  | users hc hr | domains hc hr =>
    obtain ⟨c, hresult⟩ := of_map hreply
    exact hr.endsKnowing rfl hresult
  | domain hc hr =>
    obtain ⟨response, hresult⟩ := of_map hreply
    obtain ⟨c, hresult, -⟩ := Failure.of_bind_ok hresult
    exact hr.endsKnowing rfl hresult

theorem known_url_asked_next (s : Service) (env : Environment) (log : Record) :
    (∀ url host, s.locator = .url url host → s.GoesStraightTo url) ∧
      ∀ call reply, (call.query s.client.config.version).isSoap = true →
        (s.perform call env log).1.1 = .ok reply →
          ∃ events request response, (s.perform call env log).2 = log ++ events ∧
            s.EndsKnowing (s.perform call env log).1.2 events request response ∧
            (s.perform call env log).1.2.GoesStraightTo request.url := by
  refine ⟨fun url host hl => goesStraightTo_of_locator hl, ?_⟩
  intro call reply hq hreply
  obtain ⟨events, hlog, hrun⟩ := s.meets_perform call log
  obtain ⟨request, response, hends⟩ := hrun.endsKnowing hq hreply
  obtain ⟨host, hl⟩ := hends.locator
  exact ⟨events, request, response, hlog, hends, goesStraightTo_of_locator hl⟩

theorem users_of_sendsToNobody {body : ByteArray} {c : Collection UserSetting}
    (hread : Soap.ofBody .users body = .ok c) (hc : sendsToNobody c = true) :
    ∃ reply, (formerService.perform (.users ["jane@a.example"] [.externalEwsUrl]) (answering body) []).1.1 =
      .ok reply := by
  obtain ⟨hcode, first, hfirst⟩ : c.code = .noError ∧ ∃ first, c.responses = [first] := by
    unfold sendsToNobody at hc
    split at hc <;> simp_all
  have hanswer : Client.readAnswer (.users ["jane@a.example"] [.externalEwsUrl]) formerUrl ⟨200, [], body⟩ =
      .ok (.users c) := by
    change ((Soap.ofBody .users body).map Answer.users).mapError Failure.unreadable = _
    rw [hread]
    rfl
  obtain ⟨after, hquery⟩ : ∃ after, formerService.client.query (.users ["jane@a.example"] [.externalEwsUrl])
      formerUrl (answering body) [] = (.ok (.users c), after) := by
    rw [Client.query_of_transport rfl (answering_transport rfl), hanswer]
    exact ⟨_, rfl⟩
  have hverdict (target : String) : (Answer.users c).verdict ≠ .redirectUrl target := by
    simp [Answer.verdict, Collection.verdict, hcode]
  have husers : formerService.usersSettings ["jane@a.example"] [.externalEwsUrl] =
      formerService.collect (.users ["jane@a.example"] [.externalEwsUrl]) Answer.users? ["jane@a.example"]
        "a.example" :=
    rfl
  obtain ⟨assigned, hassign⟩ : ∃ assigned, c.assign ["jane@a.example"] = .ok assigned :=
    ⟨_, if_neg (by simp [hfirst])⟩
  have hcall : (formerService.perform (.users ["jane@a.example"] [.externalEwsUrl]) (answering body) []).1.1 =
      (c.assign ["jane@a.example"]).map Reply.users := by
    change (formerService.usersSettings ["jane@a.example"] [.externalEwsUrl] (answering body) []).1.1.map
      Reply.users = _
    rw [husers, collect_of_query rfl hquery hverdict]
    rfl
  exact ⟨.users assigned, by rw [hcall, hassign]; rfl⟩

theorem known_url_asked_next_former :
    formerService.GoesStraightTo formerUrl ∧
      ∃ reply, (formerService.perform (.users ["jane@a.example"] [.externalEwsUrl]) (answering movedBody.toUTF8)
        []).1.1 = .ok reply ∧
      ∃ request, (formerService.perform (.users ["jane@a.example"] [.externalEwsUrl]) (answering movedBody.toUTF8)
        []).1.2.GoesStraightTo request := by
  obtain ⟨c, hread, hc⟩ := movedBody_read
  obtain ⟨reply, hreply⟩ := users_of_sendsToNobody hread hc
  obtain ⟨hknown, hnext⟩ := known_url_asked_next formerService (answering movedBody.toUTF8) []
  obtain ⟨_, request, _, _, _, hstraight⟩ := hnext _ reply rfl hreply
  exact ⟨hknown _ _ rfl, reply, hreply, request.url, hstraight⟩

end Service

end MailDiscovery
