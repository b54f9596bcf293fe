import MailDiscovery.Proofs.Run.Event
import MailDiscovery.Proofs.Run.Service

namespace MailDiscovery

/-- The answer that ends a resolution. Among candidates, one that reports an error for the query as a whole does not. -/
def Event.settling? (q : Query) (among : Bool) (event : Event) : Option Answer :=
  (event.answer? q).filter fun answer => !among || answer.check.isOk

theorem Event.settling?_eq_none {q : Query} {event : Event} (h : event.answer? q = none) (among : Bool) :
    event.settling? q among = none := by
  rw [settling?, h]
  rfl

theorem Event.answer?_of_settling? {q : Query} {among : Bool} {event : Event} {answer : Answer}
    (h : event.settling? q among = some answer) : event.answer? q = some answer :=
  (Option.filter_eq_some_iff.1 h).1

inductive Concluded (q : Query) (among : Bool) : Except Failure Served → Record → Prop
  | failed {e : Failure} {events : Record} (h : ∀ event ∈ events, event.settling? q among = none) :
      Concluded q among (.error e) events
  | served {before : Record} {request : Http.Request} {response : Http.Response} {answer : Answer}
      (hb : ∀ event ∈ before, event.settling? q among = none) (hm : request.method = .post)
      (hs : Event.settling? q among (.exchange request (.ok response)) = some answer) :
      Concluded q among (.ok ⟨answer, request.url⟩) (before ++ [.exchange request (.ok response)])

namespace Concluded

variable {q : Query} {among : Bool} {events more : Record} {outcome : Except Failure Served}

theorem append (h : ∀ event ∈ events, event.settling? q among = none) (hmore : Concluded q among outcome more) :
    Concluded q among outcome (events ++ more) := by
  cases hmore with
  | failed hmore => exact .failed fun event he => (List.mem_append.1 he).elim (h event) (hmore event)
  | served hb hm hs =>
    rw [← List.append_assoc]
    exact .served (fun event he => (List.mem_append.1 he).elim (h event) (hb event)) hm hs

theorem not_settling {e : Failure} (h : Concluded q among (.error e) events) :
    ∀ event ∈ events, event.settling? q among = none := by
  cases h with
  | failed h => exact h

theorem among_of_follow (h : Concluded q false outcome events) :
    Concluded q true (outcome.bind fun served => served.answer.check.map fun _ => served) events := by
  have weaken {event : Event} (he : event.settling? q false = none) : event.settling? q true = none := by
    apply Event.settling?_eq_none
    simpa [Event.settling?, Option.eq_none_iff_forall_ne_some] using he
  cases h with
  | failed h => exact .failed fun event he => weaken (h event he)
  | @served before request response answer hb hm hs =>
    have ha := Event.answer?_of_settling? hs
    cases hc : answer.check with
    | error e =>
      simp only [Except.bind, hc, Except.map]
      refine .failed fun event he => ?_
      rcases List.mem_append.1 he with he | he
      · exact weaken (hb event he)
      · rw [List.mem_singleton.1 he, Event.settling?, ha]
        simp [hc, Except.isOk, Except.toBool]
    | ok _ =>
      simp only [Except.bind, hc, Except.map]
      refine .served (fun event he => weaken (hb event he)) hm ?_
      rw [Event.settling?, ha]
      simp [hc, Except.isOk, Except.toBool]

end Concluded

theorem Record.Quiet.not_settling {q : Query} {among : Bool} {events : Record} (h : events.Quiet) :
    ∀ event ∈ events, event.settling? q among = none :=
  fun event he => Event.settling?_eq_none (Event.answer?_eq_none (h event he)) among

def Search.served : Search Served → Except Failure Served
  | .found served _ => .ok served
  | .failed e => .error e
  | .exhausted last => .error (.notLocated last)

namespace Client

variable {c : Client} {env : Environment} {q : Query}

theorem Followed.concluded {left followed : Nat} {url : Uri} {outcome : Except Failure Served} {events : Record}
    (hq : q.isSoap = true) (h : c.Followed q left url outcome followed events) :
    Concluded q false outcome events := by
  have redirected {request : Http.Request} {response : Http.Response} {uri : Uri}
      (hr : Event.redirection? q (.exchange request (.ok response)) = some uri) :
      ∀ event ∈ [Event.exchange request (.ok response)], event.settling? q false = none := by
    intro event he
    rw [List.mem_singleton.1 he]
    exact Event.settling?_eq_none (Event.answer?_of_redirection? hr) false
  induction h with
  | failed h => exact .failed fun event he => Event.settling?_eq_none (h.of_error.2 event he).2 false
  | served h hv =>
    obtain ⟨request, response, rfl, hm, rfl, ha⟩ := h.answered hq hv
    have none_before : ∀ event ∈ ([] : Record), event.settling? q false = none := by simp
    exact .served none_before hm (by simp [Event.settling?, ha])
  | exceeded h hv =>
    obtain ⟨request, response, uri, rfl, -, -, hr, -⟩ := h.redirected hq hv
    exact .failed (redirected hr)
  | lost h hv ht =>
    obtain ⟨request, response, uri, rfl, -, -, hr, -⟩ := h.redirected hq hv
    exact .failed (redirected hr)
  | onward h hv ht hn ih =>
    obtain ⟨request, response, uri, rfl, -, -, hr, -⟩ := h.redirected hq hv
    exact .append (redirected hr) ih

theorem Attempted.concluded {left followed : Nat} {host : String} {outcome : Except Failure Served}
    {events : Record} (hq : q.isSoap = true) (h : c.Attempted q left host outcome followed events) :
    Concluded q true outcome events := by
  cases h with
  | failed hg => exact .failed hg.quiet.not_settling
  | unusable hg => exact .failed hg.quiet.not_settling
  | unserved hg hf => exact .append hg.quiet.not_settling (hf.concluded hq).among_of_follow
  | refused hg hf hc =>
    have := (hf.concluded hq).among_of_follow
    simp only [Except.bind, hc, Except.map] at this
    exact .append hg.quiet.not_settling this
  | served hg hf hc =>
    have := (hf.concluded hq).among_of_follow
    simp only [Except.bind, hc, Except.map] at this
    exact .append hg.quiet.not_settling this

theorem Tried.concluded {left followed : Nat} {last : Option Failure} {candidates : List (Candidate String)}
    {search : Search Served} {events : Record} (hq : q.isSoap = true)
    (h : c.Tried q left last candidates search followed events) : Concluded q true search.served events := by
  induction h with
  | exhausted => exact .failed (by simp)
  | found h => exact h.concluded hq
  | failed h he => exact h.concluded hq
  | next h he hn ih => exact .append (h.concluded hq).not_settling ih

theorem FellBack.concluded {left n m : Nat} {origin : Origin} {P : Option Uri → Record → Prop}
    {search found : Search Served} {events more : Record} (hq : q.isSoap = true)
    (hP : ∀ url events, P url events → events.Quiet) (hs : Concluded q true search.served events)
    (h : c.FellBack q left origin P search n found m more) : Concluded q true found.served (events ++ more) := by
  cases h with
  | settled h => rwa [List.append_nil]
  | tried hp ht => exact .append hs.not_settling (.append (hP _ _ hp).not_settling (ht.concluded hq))

theorem Followed.url_eq_or_host {left followed : Nat} {url : Uri} {outcome : Except Failure Served}
    {served : Served} {events : Record} (hq : q.isSoap = true)
    (h : c.Followed q left url outcome followed events) (ho : outcome = .ok served) :
    served.url = url ∨ served.url.host?.isSome = true := by
  induction h with
  | served h hv =>
    cases ho
    exact .inl rfl
  | onward h hv ht hn ih =>
    obtain ⟨request, response, uri, rfl, -, -, hr, rfl⟩ := h.redirected hq hv
    right
    rcases ih ho with heq | hhost
    · rw [heq]
      rcases Event.scheme?_of_redirection? hq hr ht with hs | hs
      · exact Uri.isSome_host?_of_scheme? hs
      · exact Uri.isSome_host?_of_scheme? hs
    · exact hhost
  | failed | exceeded | lost => cases ho

theorem Gated.isSome_host? {host : String} {url : Uri} {events : Record} (h : c.Gated host (.ok (some url)) events) :
    url.host?.isSome = true := by
  cases h with
  | answered h hs =>
    unfold Credential.select? at hs
    split at hs
    · exact WellKnown.isSome_host?_of_soap? hs
    · cases hs

theorem Attempted.isSome_host? {left followed : Nat} {host : String} {served : Served} {events : Record}
    (hq : q.isSoap = true) (h : c.Attempted q left host (.ok served) followed events) :
    served.url.host?.isSome = true := by
  cases h with
  | served hg hf hc =>
    rcases hf.url_eq_or_host hq rfl with heq | hhost
    · exact heq ▸ hg.isSome_host?
    · exact hhost

theorem Tried.isSome_host? {left followed : Nat} {last : Option Failure} {candidates : List (Candidate String)}
    {search : Search Served} {served : Served} {events : Record} (hq : q.isSoap = true)
    (h : c.Tried q left last candidates search followed events) (hs : search.served = .ok served) :
    served.url.host?.isSome = true := by
  induction h with
  | found h =>
    cases hs
    exact h.isSome_host? hq
  | next h he hn ih => exact ih hs
  | exhausted | failed => cases hs

theorem Discovered.isSome_host? {domain : String} {r : Redirection} {search : Search Served} {served : Served}
    {n : Nat} {events : Record} (hq : q.isSoap = true) (h : c.Discovered env q domain r search n events)
    (hs : search.served = .ok served) : served.url.host?.isSome = true := by
  obtain ⟨hl, ht, hr, hf⟩ := h
  have step {left n m : Nat} {origin : Origin} {P : Option Uri → Record → Prop} {search found : Search Served}
      {events : Record} (hfell : c.FellBack q left origin P search n found m events)
      (hsearch : search.served = .ok served → served.url.host?.isSome = true)
      (hfound : found.served = .ok served) : served.url.host?.isSome = true := by
    cases hfell with
    | settled h => exact hsearch hfound
    | tried hp ht => exact ht.isSome_host? hq hfound
  exact step hf (step hr (ht.isSome_host? hq)) hs

theorem Discovered.concluded {domain : String} {r : Redirection} {search : Search Served} {n : Nat}
    {events : Record} (hq : q.isSoap = true) (h : c.Discovered env q domain r search n events) :
    Concluded q true search.served events := by
  obtain ⟨hl, ht, hr, hf⟩ := h
  have first := Concluded.append hl.quiet.not_settling (ht.concluded hq)
  have second := hr.concluded hq (fun _ _ h => h.quiet) first
  exact hf.concluded hq (fun _ _ h => h.quiet) second

end Client

namespace Service

variable {s t : Service} {env : Environment} {q : Query} {domain : String} {r : Redirection} {followed : Nat}
  {events : Record}

def searches (s : Service) : Bool :=
  decide (s.locator = .undetermined)

structure Settled (s : Service) (url : Uri) (t : Service) : Prop where
  client : t.client = s.client
  locator : ∃ host, t.locator = .url url host
  host : ∀ host, t.locator = .url url host → url.host? = some host ∨ url.host? = none ∧ s.locator = .url url host
  isExternal : s.locator = .undetermined ∨ t.isExternal = s.isExternal

theorem client_adopt (s : Service) (url : Uri) : (s.adopt url).client = s.client := by
  unfold adopt
  split <;> rfl

theorem isExternal_adopt (s : Service) (url : Uri) : (s.adopt url).isExternal = s.isExternal := by
  unfold adopt
  split <;> rfl

theorem locator_adopt {url : Uri} {host : String} (h : url.host? = some host) (s : Service) :
    (s.adopt url).locator = .url url host := by
  unfold adopt Locator.ofUrl
  rw [h]

theorem host_of_adopt {url : Uri} {host : String} (h : (s.adopt url).locator = .url url host) :
    url.host? = some host ∨ url.host? = none ∧ s.locator = .url url host := by
  cases hu : url.host? with
  | some name =>
    rw [locator_adopt hu, Locator.url.injEq] at h
    exact .inl (congrArg some h.2)
  | none =>
    unfold adopt Locator.ofUrl at h
    rw [hu] at h
    exact .inr ⟨rfl, h⟩

theorem settled_adopt {url : Uri} (s : Service)
    (h : url.host?.isSome = true ∨ ∃ host, s.locator = .url url host) : s.Settled url (s.adopt url) := by
  refine ⟨s.client_adopt url, ?_, fun host => host_of_adopt, .inr (s.isExternal_adopt url)⟩
  cases hu : url.host? with
  | some host => exact ⟨host, locator_adopt hu s⟩
  | none =>
    rcases h with h | ⟨host, h⟩
    · simp [hu] at h
    · refine ⟨host, ?_⟩
      unfold adopt Locator.ofUrl
      rw [hu]
      exact h

theorem Resolved.not_settling {e : Failure} (hq : q.isSoap = true)
    (h : s.Resolved env q domain r (.error e) followed events) :
    ∀ event ∈ events, event.settling? q s.searches = none := by
  cases h with
  | unserved hl hf => simpa [searches, hl] using (hf.concluded hq).not_settling
  | ungated hl hg => exact hg.quiet.not_settling
  | unusable hl hg => exact hg.quiet.not_settling
  | unservedAt hl hg hf =>
    simpa [searches, hl] using (Concluded.append hg.quiet.not_settling (hf.concluded hq)).not_settling
  | failed hl hd => simpa [searches, hl] using (hd.concluded hq).not_settling
  | exhausted hl hd => simpa [searches, hl] using (hd.concluded hq).not_settling

theorem Resolved.concluded {answer : Answer} (hq : q.isSoap = true)
    (h : s.Resolved env q domain r (.ok (answer, t)) followed events) :
    ∃ url, Concluded q s.searches (.ok ⟨answer, url⟩) events ∧ s.Settled url t := by
  cases h with
  | @served _ host served _ _ hl hf =>
    refine ⟨served.url, ?_, s.settled_adopt ?_⟩
    · simpa [searches, hl] using hf.concluded hq
    · rcases hf.url_eq_or_host hq rfl with heq | hhost
      · rw [heq]
        exact .inr ⟨host, hl⟩
      · exact .inl hhost
  | @servedAt _ _ served _ _ _ hl hg hf =>
    refine ⟨served.url, ?_, s.settled_adopt (.inl ?_)⟩
    · simpa [searches, hl] using Concluded.append hg.quiet.not_settling (hf.concluded hq)
    · rcases hf.url_eq_or_host hq rfl with heq | hhost
      · exact heq ▸ hg.isSome_host?
      · exact hhost
  | @found served _ _ _ hl hd =>
    have hsettled := s.settled_adopt (.inl (hd.isSome_host? hq rfl))
    exact ⟨served.url, by simpa [searches, hl, Search.served] using hd.concluded hq,
      hsettled.client, hsettled.locator, hsettled.host, .inl hl⟩

theorem Resolved.users {addresses : List String} {settings : List UserSetting} {answer : Answer}
    (h : s.Resolved env (.users addresses settings) domain r (.ok (answer, t)) followed events) :
    ∃ c before request response, answer = .users c ∧ events = before ++ [.exchange request (.ok response)] ∧
      request.method = .post ∧ response.isSuccess = true ∧ Soap.ofBody .users response.body = .ok c := by
  obtain ⟨url, hc, -⟩ := h.concluded rfl
  cases hc with
  | @served before request response answer hb hm hs =>
    obtain ⟨_, _, heq, -, hsuccess, h⟩ := Event.read_of_answer? (Event.answer?_of_settling? hs)
    cases heq
    simp only [Query.read, Except.map] at h
    split at h <;> cases h
    exact ⟨_, before, request, response, rfl, rfl, hm, hsuccess, ‹_›⟩

end Service

end MailDiscovery
