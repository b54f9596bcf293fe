import MailDiscovery.Proofs.Run.Call
import MailDiscovery.Proofs.Run.Served
import MailDiscovery.Proofs.Run.Turn

namespace MailDiscovery

/-- Why a query may go to a URL, given the events of its call before it. -/
inductive Vouched (c : Credential) (start : Option Uri) : Record → Uri → Prop
  | explicit {url : Uri} (h : start = some url) : Vouched c start [] url
  | advertised {before : Record} {host header : String} {request : Http.Request} {response : Http.Response} {url : Uri}
      (hm : request.method = .get) (hu : WellKnown.legacyHttps? host = some request.url)
      (hr : response.isRedirection = false) (hh : c.required.header? = some header)
      (hp : (response.header? header).isSome = true) (hs : WellKnown.soap? host c.flavour = some url) :
      Vouched c start (before ++ [.exchange request (.ok response)]) url
  | redirected {before : Record} {location : ByteArray} {request : Http.Request} {response : Http.Response}
      {target url : Uri} (hm : request.method = .post) (hr : response.isRedirection = true)
      (hl : response.header? "location" = some location) (ht : request.url.resolve? location = some target)
      (hu : Uri.ofText? target.text = some url) (hs : url.scheme? = some .http ∨ url.scheme? = some .https) :
      Vouched c start (before ++ [.exchange request (.ok response)]) url
  | sentOn {before : Record} {target : String} {request : Http.Request} {response : Http.Response}
      {collection : Collection UserSetting} {first : Response UserSetting} {url adjusted : Uri}
      (hm : request.method = .post) (hr : response.isSuccess = true)
      (hb : Soap.ofBody .users response.body = .ok collection) (hf : collection.responses = [first])
      (hc : first.code = .redirectUrl) (ht : first.redirectTarget = some target)
      (hu : Uri.ofText? target = some url) (ha : c.adjust? url = some adjusted) :
      Vouched c start (before ++ [.exchange request (.ok response)]) adjusted

inductive AllVouched (c : Credential) (start : Option Uri) : Record → Record → Prop
  | nil {before : Record} : AllVouched c start before []
  | cons {before events : Record} {event : Event}
      (h : ∀ request outcome, event = .exchange request outcome → request.method = .post →
        Vouched c start before request.url)
      (hmore : AllVouched c start (before ++ [event]) events) : AllVouched c start before (event :: events)

namespace AllVouched

variable {c : Credential} {start : Option Uri} {before events more : Record}

theorem append (h : AllVouched c start before events) (hmore : AllVouched c start (before ++ events) more) :
    AllVouched c start before (events ++ more) := by
  induction h with
  | nil => rwa [List.append_nil] at hmore
  | cons hevent hrest ih =>
    rw [List.append_cons] at hmore
    exact .cons hevent (ih hmore)

theorem of_quiet (h : events.Quiet) : AllVouched c start before events := by
  induction events generalizing before with
  | nil => exact .nil
  | cons event events ih =>
    refine .cons ?_ (ih fun e he => h e (List.mem_cons_of_mem _ he))
    rintro request outcome rfl hm
    have hquiet := h _ List.mem_cons_self
    simp [Event.isPost, hm] at hquiet

theorem single {event : Event}
    (h : ∀ request outcome, event = .exchange request outcome → Vouched c start before request.url) :
    AllVouched c start before [event] :=
  .cons (fun request outcome heq _ => h request outcome heq) .nil

theorem vouched {first after : Record} {request : Http.Request} {outcome : Except TransportError Http.Response}
    (h : AllVouched c start before (first ++ .exchange request outcome :: after)) (hm : request.method = .post) :
    Vouched c start (before ++ first) request.url := by
  induction first generalizing before with
  | nil =>
    cases h with
    | cons hevent hmore =>
      rw [List.append_nil]
      exact hevent request outcome rfl hm
  | cons event first ih =>
    cases h with
    | cons hevent hmore =>
      rw [List.append_cons]
      exact ih hmore

end AllVouched

namespace Client

variable {c : Client} {env : Environment} {q : Query} {start : Option Uri} {before : Record}

theorem Surveyed.answering {left : Nat} {host found : String} {endpoints : EndpointSet}
    {result : Except Failure (Option (String × EndpointSet))} {events : Record}
    (h : c.Surveyed left host result events) (he : result = .ok (some (found, endpoints))) :
    ∃ first request response, events = first ++ [.exchange request (.ok response)] ∧ request.method = .get ∧
      WellKnown.legacyHttps? found = some request.url ∧ response.isRedirection = false ∧
      endpoints = advertised response := by
  induction h with
  | onward hu hp hr ht hn ih =>
    obtain ⟨first, request, response, rfl, hrest⟩ := ih he
    exact ⟨_, request, response, (List.append_assoc ..).symm, hrest⟩
  | answered hu hp hr hs =>
    cases he
    cases hp with
    | heard hp =>
      obtain ⟨hm, rfl⟩ := of_probeRequest? hp
      exact ⟨[], _, _, rfl, hm, hu, hr, rfl⟩
  | nowhere | silent | lost | exceeded | bare => cases he

theorem Gated.vouched {host : String} {url : Uri} {events : Record} (h : c.Gated host (.ok (some url)) events)
    (before : Record) : Vouched c.credential start (before ++ events) url := by
  cases h with
  | @answered found endpoints _ _ h hs =>
    obtain ⟨first, request, response, rfl, hm, hu, hr, rfl⟩ := h.answering rfl
    unfold Credential.select? at hs
    split at hs
    · rename_i hhas
      obtain ⟨header, hh⟩ : ∃ header, c.credential.required.header? = some header := by
        unfold Credential.required
        cases c.credential.flavour <;> exact ⟨_, rfl⟩
      simp only [advertised, EndpointSet.ofHeaders, hh, Option.all_some] at hhas
      rw [← List.append_assoc]
      exact .advertised hm hu hr hh hhas hs
    · cases hs

theorem Queried.vouched {url : Uri} {result : Except Failure Answer} {events : Record}
    (h : c.Queried q url result events) (hv : Vouched c.credential start before url) :
    AllVouched c.credential start before events := by
  have sent {request : Http.Request} {outcome : Except TransportError Http.Response}
      (h : c.queryRequest q url = .ok request) :
      AllVouched c.credential start before [.exchange request outcome] := by
    obtain ⟨-, rfl⟩ := of_queryRequest h
    apply AllVouched.single
    rintro _ _ heq
    cases heq
    exact hv
  cases h with
  | refused h => exact .nil
  | unheard h => exact sent h
  | heard h hr => exact sent h

theorem vouched_of_redirection? {request : Http.Request} {response : Http.Response} {target url : Uri}
    {credential : Credential} (hq : q.isSoap = true) (hm : request.method = .post)
    (hr : Event.redirection? q (.exchange request (.ok response)) = some target)
    (hu : Uri.ofText? target.text = some url) :
    Vouched credential start (before ++ [.exchange request (.ok response)]) url := by
  have hs := Event.scheme?_of_redirection? hq hr hu
  simp only [Event.redirection?] at hr
  split at hr
  · rename_i hredirect
    obtain ⟨location, hl, ht⟩ := Option.bind_eq_some_iff.1 (Option.filter_eq_some_iff.1 hr).1
    exact .redirected hm hredirect.2 hl ht hu hs
  · cases hr

theorem Followed.vouched {left followed : Nat} {url : Uri} {outcome : Except Failure Served} {events : Record}
    (hq : q.isSoap = true) (h : c.Followed q left url outcome followed events)
    (hv : Vouched c.credential start before url) : AllVouched c.credential start before events := by
  induction h generalizing before with
  | failed h => exact h.vouched hv
  | served h hs => exact h.vouched hv
  | exceeded h hs => exact h.vouched hv
  | lost h hs ht => exact h.vouched hv
  | onward h hs ht hn ih =>
    have hfirst := h.vouched hv
    obtain ⟨request, response, uri, rfl, hm, -, hr, rfl⟩ := h.redirected hq hs
    exact hfirst.append (ih (vouched_of_redirection? hq hm hr ht))

theorem Attempted.vouched {left followed : Nat} {host : String} {outcome : Except Failure Served} {events : Record}
    (hq : q.isSoap = true) (h : c.Attempted q left host outcome followed events) :
    AllVouched c.credential start before events := by
  cases h with
  | failed hg => exact .of_quiet hg.quiet
  | unusable hg => exact .of_quiet hg.quiet
  | unserved hg hf => exact .append (.of_quiet hg.quiet) (hf.vouched hq (hg.vouched before))
  | refused hg hf hc => exact .append (.of_quiet hg.quiet) (hf.vouched hq (hg.vouched before))
  | served hg hf hc => exact .append (.of_quiet hg.quiet) (hf.vouched hq (hg.vouched before))

theorem Tried.vouched {left followed : Nat} {last : Option Failure} {candidates : List (Candidate String)}
    {search : Search Served} {events : Record} (hq : q.isSoap = true)
    (h : c.Tried q left last candidates search followed events) : AllVouched c.credential start before events := by
  induction h generalizing before with
  | exhausted => exact .nil
  | found h => exact h.vouched hq
  | failed h he => exact h.vouched hq
  | next h he hn ih => exact (h.vouched hq).append ih

theorem FellBack.vouched {left n m : Nat} {origin : Origin} {P : Option Uri → Record → Prop}
    {search found : Search Served} {events : Record} (hq : q.isSoap = true)
    (hP : ∀ url events, P url events → events.Quiet) (h : c.FellBack q left origin P search n found m events) :
    AllVouched c.credential start before events := by
  cases h with
  | settled h => exact .nil
  | tried hp ht => exact .append (.of_quiet (hP _ _ hp)) (ht.vouched hq)

theorem Discovered.vouched {domain : String} {r : Redirection} {search : Search Served} {n : Nat} {events : Record}
    (hq : q.isSoap = true) (h : c.Discovered env q domain r search n events) :
    AllVouched c.credential start before events := by
  obtain ⟨hl, ht, hr, hs⟩ := h
  refine .append (.append (.append (.of_quiet hl.quiet) (ht.vouched hq)) ?_) ?_
  · exact hr.vouched hq fun _ _ h => h.quiet
  · exact hs.vouched hq fun _ _ h => h.quiet

end Client

namespace Service

variable {s t : Service} {env : Environment} {q : Query} {start : Option Uri} {before : Record}

theorem Resolved.vouched {domain : String} {r : Redirection} {result : Except Failure (Answer × Service)}
    {followed : Nat} {events : Record} (hq : q.isSoap = true)
    (hv : ∀ url host, s.locator = .url url host → Vouched s.client.credential start before url)
    (h : s.Resolved env q domain r result followed events) :
    AllVouched s.client.credential start before events := by
  cases h with
  | unserved hl hf => exact hf.vouched hq (hv _ _ hl)
  | served hl hf => exact hf.vouched hq (hv _ _ hl)
  | ungated hl hg => exact .of_quiet hg.quiet
  | unusable hl hg => exact .of_quiet hg.quiet
  | unservedAt hl hg hf => exact .append (.of_quiet hg.quiet) (hf.vouched hq (hg.vouched before))
  | servedAt hl hg hf => exact .append (.of_quiet hg.quiet) (hf.vouched hq (hg.vouched before))
  | found hl hd => exact hd.vouched hq
  | failed hl hd => exact hd.vouched hq
  | exhausted hl hd => exact hd.vouched hq

theorem Rounds.vouched {settings : List UserSetting} {address : String} {r : Redirection}
    {result : Except Failure (Response UserSetting)} {events : Record}
    (hv : ∀ url host, s.locator = .url url host → Vouched s.client.credential start before url)
    (h : Rounds env settings s address r result t events) : AllVouched s.client.credential start before events := by
  induction h generalizing before with
  | unaddressed ha => exact .nil
  | unresolved ha hr => exact hr.vouched rfl hv
  | refused ha hr hs => exact hr.vouched rfl hv
  | answered ha hr hs ht => exact hr.vouched rfl hv
  | stuck ha hr hs ht => exact hr.vouched rfl hv
  | @turned s t final address domain r answer response turn followed events more result ha hr hs ht hn ih =>
    have hfirst := hr.vouched rfl hv
    have hclient : t.client = s.client := by
      obtain ⟨url, -, hsettled⟩ := hr.concluded rfl
      exact hsettled.client
    -- The next round starts from what the last exchange of this one vouches for.
    obtain ⟨c, known, request, answering, rfl, rfl, hm, hsuccess, hbody⟩ := hr.users
    obtain ⟨-, first, hresponses, rfl⟩ := soleResponse_eq_ok hs
    refine hfirst.append ?_
    obtain ⟨-, hturn⟩ := turned_of_turn? ht
    cases hturn with
    | toAddress hc hn htarget =>
      rw [← hclient]
      exact ih fun url host hl => by cases hl
    | toUrl hc hn htarget hu ha hh =>
      rw [← hclient]
      apply ih
      rintro url host hl
      cases hl
      rw [← List.append_assoc]
      exact .sentOn hm hsuccess hbody hresponses hc htarget hu ha

theorem Collected.vouched {ν : Type} {select : Answer → Except Failure (Collection ν)} {identities : List String}
    {domain : String} {result : Except Failure (Collection ν)} {events : Record} (hq : q.isSoap = true)
    (hv : ∀ url host, s.locator = .url url host → Vouched s.client.credential start before url)
    (h : s.Collected env q select identities domain result t events) :
    AllVouched s.client.credential start before events := by
  cases h with
  | unresolved hr => exact hr.vouched hq hv
  | resolved hr hs => exact hr.vouched hq hv

theorem vouched_explicit {url : Uri} {host : String} (h : s.locator = .url url host) :
    Vouched s.client.credential s.url? [] url :=
  .explicit (by rw [url?, h]; rfl)

theorem Performed.vouched {call : Call} {result : Except Failure Reply} {events : Record}
    (hq : (call.query s.client.config.version).isSoap = true) (h : s.Performed env call result t events) :
    AllVouched s.client.credential s.url? [] events := by
  have hv (url : Uri) (host : String) (hl : s.locator = .url url host) := vouched_explicit hl
  cases h with
  | blankAddress hb => exact .nil
  | noSettings hb hs => exact .nil
  | rounds hb hs hsoap hr => exact hr.vouched hv
  | legacy hb hs hsoap hr => simp [Call.query, hsoap, Query.isSoap] at hq
  | noUsers hc => exact .nil
  | users hc hr => exact hr.vouched rfl hv
  | noDomains hc => exact .nil
  | domains hc hr => exact hr.vouched rfl hv
  | noDomain hc => exact .nil
  | domain hc hr => exact hr.vouched rfl hv

theorem AskedPartner.vouched {domain : String} {result : Except Failure (Option PartnerAccess)} {events : Record}
    (h : s.AskedPartner env domain result t events) : AllVouched s.client.credential s.url? [] events := by
  have hv (url : Uri) (host : String) (hl : s.locator = .url url host) := vouched_explicit hl
  cases h with
  | rejected hc => exact .nil
  | unresolved hc hr => exact hr.vouched rfl hv
  | ungranted hc hr ht => exact hr.vouched rfl hv
  | granted hc hr ht => exact hr.vouched rfl hv

theorem queries_vouched (s : Service) (env : Environment) (log : Record) :
    (∀ call : Call, (call.query s.client.config.version).isSoap = true →
      ∃ events, (s.perform call env log).2 = log ++ events ∧
        ∀ before request outcome after, events = before ++ .exchange request outcome :: after →
          request.method = .post → Vouched s.client.credential s.url? before request.url) ∧
      ∀ domain, ∃ events, (s.partnerAccess domain env log).2 = log ++ events ∧
        ∀ before request outcome after, events = before ++ .exchange request outcome :: after →
          request.method = .post → Vouched s.client.credential s.url? before request.url := by
  constructor
  · intro call hq
    obtain ⟨events, hlog, hrun⟩ := s.meets_perform call log
    refine ⟨events, hlog, ?_⟩
    rintro before request outcome after rfl hm
    exact (hrun.vouched hq).vouched hm
  · intro domain
    obtain ⟨events, hlog, hrun⟩ := s.meets_partnerAccess domain log
    refine ⟨events, hlog, ?_⟩
    rintro before request outcome after rfl hm
    exact hrun.vouched.vouched hm

end Service

end MailDiscovery
