import MailDiscovery.Proofs.Run.Failure
import MailDiscovery.Proofs.Run.Resolution
import MailDiscovery.Proofs.WebScheme

namespace MailDiscovery

theorem Http.Response.isSuccess_eq_false {response : Http.Response} (h : response.isRedirection = true) :
    response.isSuccess = false := by
  simp only [isRedirection, isSuccess, Bool.and_eq_true, decide_eq_true_eq, Bool.and_eq_false_iff,
    decide_eq_false_iff_not] at h ⊢
  omega

theorem Soap.redirectUrl_of_ofBody {ν : Type} [DecidableEq ν] [SettingName ν] {layout : Layout} {body : ByteArray}
    {collection : Collection ν} (h : ofBody layout body = .ok collection) : collection.redirectUrl = none := by
  obtain ⟨root, -, h⟩ := Failure.of_bind_ok h
  unfold ofRoot at h
  split at h
  · cases h
  obtain ⟨heading, -, h⟩ := Failure.of_bind_ok h
  obtain ⟨message, -, h⟩ := Failure.of_bind_ok h
  split at h
  · cases h
  obtain ⟨message, -, h⟩ := Failure.of_bind_ok h
  obtain ⟨answer, -, h⟩ := Failure.of_bind_ok h
  obtain ⟨responses, -, h⟩ := Failure.of_bind_ok h
  cases h
  rfl

namespace Query

variable {q : Query}

theorem verdict_redirection (hq : q.isSoap = true) (target : Uri) :
    (q.redirection target).verdict = .redirectUrl target.text := by
  cases q with
  | legacy address => cases hq
  | users addresses settings => rfl
  | domains domains settings version => rfl

theorem verdict_of_read (hq : q.isSoap = true) {body : ByteArray} {answer : Answer} (h : q.read body = .ok answer)
    (target : String) : answer.verdict ≠ .redirectUrl target := by
  have plain {ν : Type} {c : Collection ν} (hc : c.redirectUrl = none) : c.verdict ≠ .redirectUrl target := by
    unfold Collection.verdict
    split <;> simp_all
  cases q with
  | legacy address => cases hq
  | users addresses settings =>
    simp only [read, Except.map] at h
    split at h <;> cases h
    exact plain (Soap.redirectUrl_of_ofBody ‹_›)
  | domains domains settings version =>
    simp only [read, Except.map] at h
    split at h <;> cases h
    exact plain (Soap.redirectUrl_of_ofBody ‹_›)

end Query

namespace Event

def redirection? (q : Query) : Event → Option Uri
  | .exchange request (.ok response) =>
    if request.method = .post ∧ response.isRedirection = true then
      ((response.header? "location").bind request.url.resolve?).filter (q.accepts ·)
    else none
  | _ => none

def answer? (q : Query) : Event → Option Answer
  | .exchange request (.ok response) =>
    if request.method = .post ∧ response.isSuccess = true then (q.read response.body).toOption else none
  | _ => none

def isPost : Event → Bool
  | .exchange request _ => request.method == .post
  | _ => false

theorem redirection?_eq_none {q : Query} {event : Event} (h : event.isPost = false) :
    event.redirection? q = none := by
  cases event with
  | exchange request outcome =>
    have hm : request.method ≠ .post := by simpa [isPost] using h
    cases outcome with
    | error e => rfl
    | ok response => exact if_neg fun hp => hm hp.1
  | directory domain => rfl
  | records domain => rfl
  | approval url => rfl

theorem answer?_eq_none {q : Query} {event : Event} (h : event.isPost = false) : event.answer? q = none := by
  cases event with
  | exchange request outcome =>
    have hm : request.method ≠ .post := by simpa [isPost] using h
    cases outcome with
    | error e => rfl
    | ok response => exact if_neg fun hp => hm hp.1
  | directory domain => rfl
  | records domain => rfl
  | approval url => rfl

theorem answer?_of_redirection? {q : Query} {event : Event} {target : Uri}
    (h : event.redirection? q = some target) : event.answer? q = none := by
  unfold redirection? at h
  split at h
  · split at h
    · rename_i hr
      simp [answer?, Http.Response.isSuccess_eq_false hr.2]
    · cases h
  · cases h

theorem scheme?_of_redirection? {q : Query} {event : Event} {target url : Uri} (hq : q.isSoap = true)
    (h : event.redirection? q = some target) (hu : Uri.ofText? target.text = some url) :
    url.scheme? = some .http ∨ url.scheme? = some .https := by
  unfold redirection? at h
  split at h
  · split at h
    · obtain ⟨-, ha⟩ := Option.filter_eq_some_iff.1 h
      have hs : target.scheme? = some .https ∨ target.scheme? = some .http := by
        cases q with
        | legacy address => cases hq
        | users addresses settings => simpa [Query.accepts] using ha
        | domains domains settings version => simpa [Query.accepts] using ha
      rcases hs with hs | hs
      · exact .inr (Uri.scheme?_of_text Scheme.isWeb_https hs hu)
      · exact .inl (Uri.scheme?_of_text Scheme.isWeb_http hs hu)
    · cases h
  · cases h

theorem read_of_answer? {q : Query} {event : Event} {answer : Answer} (h : event.answer? q = some answer) :
    ∃ request response, event = .exchange request (.ok response) ∧ request.method = .post ∧
      response.isSuccess = true ∧ q.read response.body = .ok answer := by
  unfold answer? at h
  split at h
  · rename_i request response
    split at h
    · rename_i hr
      refine ⟨request, response, rfl, hr.1, hr.2, ?_⟩
      cases hb : q.read response.body with
      | error e => simp [hb, Except.toOption] at h
      | ok a => simpa [hb, Except.toOption] using h
    · cases h
  · cases h

end Event

namespace Record

def Quiet (events : Record) : Prop :=
  ∀ event ∈ events, event.isPost = false

theorem split_append {events more first after : Record} {event : Event} (heq : events ++ more = first ++ event :: after) :
    (∃ rest, events = first ++ event :: rest ∧ after = rest ++ more) ∨
      ∃ rest, first = events ++ rest ∧ more = rest ++ event :: after := by
  rcases List.append_eq_append_iff.1 heq with ⟨rest, rfl, hrest⟩ | ⟨rest, rfl, hrest⟩
  · exact .inr ⟨rest, rfl, hrest⟩
  · cases rest with
    | nil => exact .inr ⟨[], by simp, hrest.symm⟩
    | cons other rest =>
      rw [List.cons_append, List.cons.injEq] at hrest
      rw [hrest.1, hrest.2]
      exact .inl ⟨rest, rfl, rfl⟩

theorem Quiet.append {events more : Record} (h : Quiet events) (hmore : Quiet more) : Quiet (events ++ more) :=
  fun event he => (List.mem_append.1 he).elim (h event) (hmore event)

end Record

namespace Client

open Record (Quiet)

variable {c : Client} {env : Environment}

theorem readAnswer_eq_ok {q : Query} {request : Http.Request} {response : Http.Response} {answer : Answer}
    (hm : request.method = .post) (h : readAnswer q request.url response = .ok answer) :
    (∃ target, Event.redirection? q (.exchange request (.ok response)) = some target ∧
      answer = q.redirection target) ∨ Event.answer? q (.exchange request (.ok response)) = some answer := by
  unfold readAnswer at h
  split at h
  · rename_i hr
    left
    unfold readRedirection at h
    split at h
    · cases h
    rename_i location hlocation
    split at h
    · cases h
    rename_i target htarget
    split at h
    · rename_i ha
      cases h
      refine ⟨target, ?_, rfl⟩
      simp [Event.redirection?, hm, hr, hlocation, htarget, ha, Option.filter]
    · cases h
  · right
    split at h
    · rename_i hs
      have hb : q.read response.body = .ok answer := by
        cases hq : q.read response.body with
        | error e =>
          rw [hq] at h
          cases h
        | ok a =>
          rw [hq] at h
          cases h
          rfl
      simp [Event.answer?, hm, hs, hb, Except.toOption]
    · cases h

theorem readAnswer_eq_error {q : Query} {request : Http.Request} {response : Http.Response} {e : Failure}
    (h : readAnswer q request.url response = .error e) :
    e.isPlain = true ∧ Event.redirection? q (.exchange request (.ok response)) = none ∧
      Event.answer? q (.exchange request (.ok response)) = none := by
  unfold readAnswer at h
  split at h
  · rename_i hr
    have hs := Http.Response.isSuccess_eq_false hr
    unfold readRedirection at h
    split at h
    · rename_i hlocation
      cases h
      exact ⟨rfl, by simp [Event.redirection?, hlocation], by simp [Event.answer?, hs]⟩
    rename_i location hlocation
    split at h
    · rename_i htarget
      cases h
      exact ⟨rfl, by simp [Event.redirection?, hlocation, htarget], by simp [Event.answer?, hs]⟩
    rename_i target htarget
    split at h
    · cases h
    · rename_i ha
      cases h
      exact ⟨rfl, by simp [Event.redirection?, hlocation, htarget, ha, Option.filter], by simp [Event.answer?, hs]⟩
  · rename_i hr
    split at h
    · cases hq : q.read response.body with
      | error cause =>
        rw [hq] at h
        cases h
        exact ⟨rfl, by simp [Event.redirection?, hr], by simp [Event.answer?, hq, Except.toOption]⟩
      | ok answer =>
        rw [hq] at h
        cases h
    · rename_i hs
      cases h
      refine ⟨?_, by simp [Event.redirection?, hr], by simp [Event.answer?, hs]⟩
      unfold readRefusal
      split <;> rfl

theorem Queried.of_ok {q : Query} {url : Uri} {answer : Answer} {events : Record}
    (h : c.Queried q url (.ok answer) events) :
    ∃ request response, events = [.exchange request (.ok response)] ∧ request.method = .post ∧ request.url = url ∧
      ((∃ target, Event.redirection? q (.exchange request (.ok response)) = some target ∧
        answer = q.redirection target) ∨ Event.answer? q (.exchange request (.ok response)) = some answer) := by
  cases h with
  | @heard request response _ h hr =>
    obtain ⟨hm, rfl⟩ := of_queryRequest h
    exact ⟨request, response, rfl, hm, rfl, readAnswer_eq_ok hm hr⟩

theorem Queried.of_error {q : Query} {url : Uri} {e : Failure} {events : Record}
    (h : c.Queried q url (.error e) events) :
    e.isPlain = true ∧ ∀ event ∈ events, event.redirection? q = none ∧ event.answer? q = none := by
  cases h with
  | refused h => exact ⟨isPlain_of_queryRequest h, by simp⟩
  | unheard h => exact ⟨rfl, by simp [Event.redirection?, Event.answer?]⟩
  | @heard request response _ h hr =>
    obtain ⟨-, rfl⟩ := of_queryRequest h
    simpa using readAnswer_eq_error hr

theorem Queried.redirected {q : Query} {url : Uri} {answer : Answer} {target : String} {events : Record}
    (hq : q.isSoap = true) (h : c.Queried q url (.ok answer) events) (hv : answer.verdict = .redirectUrl target) :
    ∃ request response uri, events = [.exchange request (.ok response)] ∧ request.method = .post ∧
      request.url = url ∧ Event.redirection? q (.exchange request (.ok response)) = some uri ∧ uri.text = target := by
  obtain ⟨request, response, rfl, hm, hu, ⟨uri, hr, rfl⟩ | ha⟩ := h.of_ok
  · rw [Query.verdict_redirection hq, Verdict.redirectUrl.injEq] at hv
    exact ⟨request, response, uri, rfl, hm, hu, hr, hv⟩
  · obtain ⟨_, _, heq, -, -, hb⟩ := Event.read_of_answer? ha
    exact absurd hv (Query.verdict_of_read hq hb target)

theorem Queried.answered {q : Query} {url : Uri} {answer : Answer} {events : Record} (hq : q.isSoap = true)
    (h : c.Queried q url (.ok answer) events) (hv : ∀ target, answer.verdict ≠ .redirectUrl target) :
    ∃ request response, events = [.exchange request (.ok response)] ∧ request.method = .post ∧
      request.url = url ∧ Event.answer? q (.exchange request (.ok response)) = some answer := by
  obtain ⟨request, response, rfl, hm, hu, ⟨uri, -, rfl⟩ | ha⟩ := h.of_ok
  · exact absurd (Query.verdict_redirection hq uri) (hv _)
  · exact ⟨request, response, rfl, hm, hu, ha⟩

theorem Probed.quiet {url : Uri} {reply : Option Http.Response} {events : Record} (h : c.Probed url reply events) :
    Quiet events := by
  cases h with
  | unasked h => simp [Quiet]
  | unheard h => simp [Quiet, Event.isPost, of_probeRequest? h]
  | heard h => simp [Quiet, Event.isPost, of_probeRequest? h]

theorem Surveyed.quiet {left : Nat} {host : String} {result : Except Failure (Option (String × EndpointSet))}
    {events : Record} (h : c.Surveyed left host result events) : Quiet events := by
  induction h with
  | nowhere hu => simp [Quiet]
  | silent hu hp => exact hp.quiet
  | lost hu hp hr ht => exact hp.quiet
  | exceeded hu hp hr ht => exact hp.quiet
  | onward hu hp hr ht hn ih => exact hp.quiet.append ih
  | bare hu hp hr hs => exact hp.quiet
  | answered hu hp hr hs => exact hp.quiet

theorem Gated.quiet {host : String} {result : Except Failure (Option Uri)} {events : Record}
    (h : c.Gated host result events) : Quiet events := by
  cases h with
  | failed h => exact h.quiet
  | unanswered h => exact h.quiet
  | answered h hs => exact h.quiet

theorem Pointed.quiet {q : Query} {domain : String} {url : Option Uri} {events : Record}
    (h : c.Pointed env q domain url events) : Quiet events := by
  have approval (url : Uri) : Quiet [.approval url.text] := by simp [Quiet, Event.isPost]
  cases h with
  | nowhere hu => simp [Quiet]
  | silent hu hp => exact hp.quiet
  | useless hu hp h => exact hp.quiet
  | rejected hu hp hr ht ha hv => exact hp.quiet.append (approval _)
  | approved hu hp hr ht ha hv => exact hp.quiet.append (approval _)

theorem Located.quiet {domain : String} {url : Option Uri} {events : Record} (h : Located env domain url events) :
    Quiet events := by
  cases h <;> simp [Quiet, Event.isPost]

theorem Listed.quiet {r : Redirection} {domain : String} {urls : List String} {events : Record}
    (h : Listed env r domain urls events) : Quiet events := by
  cases h <;> simp [Quiet, Event.isPost]

end Client

end MailDiscovery
