import MailDiscovery.Proofs.Batch.Reading
import MailDiscovery.Proofs.Remembered

namespace MailDiscovery

namespace Collection

variable {ν : Type}

theorem length_name (responses : List (Response ν)) (identities : List String) :
    (name responses identities).length = responses.length := by
  induction responses generalizing identities with
  | nil => cases identities <;> rfl
  | cons response responses ih =>
    cases identities with
    | nil => rfl
    | cons identity identities => exact congrArg (· + 1) (ih identities)

theorem getElem?_name {responses : List (Response ν)} {identities : List String} {i : Nat} {response : Response ν}
    {identity : String} (hr : responses[i]? = some response) (hi : identities[i]? = some identity) :
    (name responses identities)[i]? = some { response with identity } := by
  induction responses generalizing identities i with
  | nil => simp at hr
  | cons first responses ih =>
    cases identities with
    | nil => simp at hi
    | cons one identities =>
      cases i with
      | zero =>
        cases hr
        cases hi
        rfl
      | succ i => exact ih hr hi

end Collection

namespace Soap

open Xml (Node)

variable {ν : Type} [DecidableEq ν] [SettingName ν]

/-- What becomes of the elements of a batch: all are read, each on its own, or the first that is malformed makes the
whole call fail. -/
inductive ReadBatch (layout : Layout) (list : List Node) (identities : List String) :
    Except Failure (Collection ν) → Prop
  | whole {c : Collection ν} (hlist : ∀ item ∈ list, isResponse ν layout item = true) (hcode : c.code = .noError)
      (hlength : c.responses.length = list.length)
      (hread : ∀ (i : Nat) item identity, list[i]? = some item → identities[i]? = some identity →
        ∃ r, response layout item = .ok r ∧ c.responses[i]? = some { r with identity }) :
      ReadBatch layout list identities (.ok c)
  | lost {before after : List Node} {item : Node} {e : ReadingError} (hlist : list = before ++ item :: after)
      (hbefore : ∀ other ∈ before, isResponse ν layout other = true) (hitem : isResponse ν layout item = false)
      (he : response (ν := ν) layout item = .error e) : ReadBatch layout list identities (.error (.unreadable e))

theorem readBatch_of_batch? {layout : Layout} {root : Node} {list : List Node} {identities : List String}
    (h : batch? layout root = some list) (hlength : list.length = identities.length) :
    ReadBatch (ν := ν) layout list identities
      ((ofRoot layout root).mapError Failure.unreadable >>= (·.assign identities)) := by
  obtain ⟨frame, hcode, hroot⟩ := ofRoot_of_batch? (ν := ν) h
  rw [hroot]
  rcases mapM_cases (response (ν := ν) layout) list with
    ⟨read, hread, hcount, heach⟩ | ⟨before, item, after, e, rfl, hbefore, he, hfail⟩
  · have hassign : Collection.assign { frame with responses := read } identities =
        .ok { frame with responses := Collection.name read identities } :=
      if_neg fun hne => hne.2 (hcount.trans hlength)
    rw [hread]
    change ReadBatch layout list identities (Collection.assign { frame with responses := read } identities)
    rw [hassign]
    refine .whole ?_ hcode ((Collection.length_name ..).trans hcount) ?_
    · intro item hmem
      obtain ⟨i, hi⟩ := List.getElem?_of_mem hmem
      obtain ⟨r, hr, -⟩ := heach i item hi
      rw [← isOk_response, hr]
      rfl
    · intro i item identity hi hidentity
      obtain ⟨r, hr, hnth⟩ := heach i item hi
      exact ⟨r, hr, Collection.getElem?_name hnth hidentity⟩
  · rw [hfail]
    refine .lost rfl (fun other hmem => ?_) ?_ he
    · rw [← isOk_response, hbefore other hmem]
    · rw [← isOk_response, he]
      rfl

end Soap

theorem Query.read_of_rootOfBody {body : ByteArray} {root : Xml.Node} (h : Xml.rootOfBody body = .ok root) :
    (∀ addresses settings, (Query.users addresses settings).read body = (Soap.ofRoot .users root).map .users) ∧
      ∀ names settings requested, (Query.domains names settings requested).read body =
        (Soap.ofRoot .domains root).map .domains := by
  refine ⟨fun addresses settings => ?_, fun names settings requested => ?_⟩ <;>
  · rw [read, Soap.ofBody, h]
    rfl

namespace Client

variable {c : Client} {q : Query} {before : Record} {request : Http.Request} {response : Http.Response}

theorem Queried.last_read {url : Uri} {result : Except Failure Answer}
    (h : c.Queried q url result (before ++ [.exchange request (.ok response)])) (hs : response.isSuccess = true) :
    result = (q.read response.body).mapError .unreadable := by
  generalize hevents : before ++ [.exchange request (.ok response)] = events at h
  cases h with
  | refused h => simp at hevents
  | unheard h =>
    obtain ⟨-, heq⟩ := List.append_inj' (hevents.trans (List.nil_append _).symm) rfl
    cases heq
  | heard h hr =>
    obtain ⟨-, heq⟩ := List.append_inj' (hevents.trans (List.nil_append _).symm) rfl
    cases heq
    rw [← hr, readAnswer_of_isSuccess hs]

theorem Queried.verdict_ne {url : Uri} {answer : Answer} (hq : q.isSoap = true)
    (h : c.Queried q url (.ok answer) (before ++ [.exchange request (.ok response)])) (hs : response.isSuccess = true)
    (target : String) : answer.verdict ≠ .redirectUrl target := by
  have hread := (h.last_read hs).symm
  cases hr : q.read response.body with
  | error e =>
    rw [hr] at hread
    cases hread
  | ok a =>
    rw [hr] at hread
    cases hread
    exact Query.verdict_of_read hq hr target

theorem Followed.last_read {left followed : Nat} {url : Uri} {outcome : Except Failure Served} {events : Record}
    (hq : q.isSoap = true) (h : c.Followed q left url outcome followed events)
    (hevents : events = before ++ [.exchange request (.ok response)]) (hs : response.isSuccess = true) :
    outcome.map Served.answer = (q.read response.body).mapError .unreadable := by
  induction h generalizing before with
  | failed h =>
    subst hevents
    exact h.last_read hs
  | served h hv =>
    subst hevents
    exact h.last_read hs
  | exceeded h hv | lost h hv =>
    subst hevents
    exact absurd hv (h.verdict_ne hq hs _)
  | onward h hv ht hn ih =>
    rcases Record.split_append hevents with ⟨rest, hfirst, hnil⟩ | ⟨rest, -, hmore⟩
    · obtain ⟨rfl, -⟩ := List.append_eq_nil_iff.1 hnil.symm
      subst hfirst
      exact absurd hv (h.verdict_ne hq hs _)
    · exact ih hmore

end Client

namespace Service

variable {s t : Service} {env : Environment} {q : Query} {url : Uri} {host : String} {events before : Record}
  {request : Http.Request} {response : Http.Response}

theorem Resolved.last_read {domain : String} {r : Redirection} {outcome : Except Failure (Answer × Service)}
    {followed : Nat} (hq : q.isSoap = true) (h : s.Resolved env q domain r outcome followed events)
    (hl : s.locator = .url url host) (hevents : events = before ++ [.exchange request (.ok response)])
    (hs : response.isSuccess = true) :
    outcome.map Prod.fst = (q.read response.body).mapError .unreadable := by
  cases h with
  | unserved hl' hf | served hl' hf => exact hf.last_read hq hevents hs
  | ungated hl' | unusable hl' | unservedAt hl' | servedAt hl' | found hl' | failed hl' | exhausted hl' =>
    rw [hl] at hl'
    cases hl'

theorem Collected.last_read {ν : Type} {select : Answer → Except Failure (Collection ν)} {identities : List String}
    {domain : String} {result : Except Failure (Collection ν)} (hq : q.isSoap = true)
    (h : s.Collected env q select identities domain result t events) (hl : s.locator = .url url host)
    (hevents : events = before ++ [.exchange request (.ok response)]) (hs : response.isSuccess = true) :
    result = (q.read response.body).mapError .unreadable >>= fun answer => select answer >>= (·.assign identities) := by
  cases h with
  | unresolved hr =>
    rw [← hr.last_read hq hl hevents hs]
    rfl
  | resolved hr hselect =>
    rw [← hr.last_read hq hl hevents hs, ← hselect]
    rfl

theorem Collected.readBatch {ν : Type} [DecidableEq ν] [SettingName ν] {layout : Soap.Layout}
    {inject : Collection ν → Answer} {select : Answer → Except Failure (Collection ν)} {identities : List String}
    {domain : String} {result : Except Failure (Collection ν)} {root : Xml.Node} {list : List Xml.Node}
    (hq : q.isSoap = true) (h : s.Collected env q select identities domain result t events)
    (hl : s.locator = .url url host) (hevents : events = before ++ [.exchange request (.ok response)])
    (hs : response.isSuccess = true) (hread : q.read response.body = (Soap.ofRoot layout root).map inject)
    (hselect : ∀ c, select (inject c) = .ok c) (hbatch : Soap.batch? layout root = some list)
    (hlength : list.length = identities.length) : Soap.ReadBatch layout list identities result := by
  have hresult := h.last_read hq hl hevents hs
  have hbatch := Soap.readBatch_of_batch? (ν := ν) hbatch hlength
  rw [hread] at hresult
  rw [hresult]
  cases hcollection : Soap.ofRoot (ν := ν) layout root with
  | error e => rwa [hcollection] at hbatch
  | ok c =>
    rw [hcollection] at hbatch
    change Soap.ReadBatch layout list identities (select (inject c) >>= (·.assign identities))
    rw [hselect]
    exact hbatch

theorem batch_all_or_none (hl : s.locator = .url url host) (env : Environment) (log : Record)
    (hs : response.isSuccess = true) {root : Xml.Node} (hroot : Xml.rootOfBody response.body = .ok root) :
    (∀ addresses settings list,
      (s.perform (.users addresses settings) env log).2 = log ++ (before ++ [.exchange request (.ok response)]) →
      Soap.batch? .users root = some list → list.length = addresses.length →
      ∃ result, (s.perform (.users addresses settings) env log).1.1 = result.map .users ∧
        Soap.ReadBatch .users list addresses result) ∧
    ∀ names requested settings list,
      (s.perform (.domains names requested settings) env log).2 =
        log ++ (before ++ [.exchange request (.ok response)]) →
      Soap.batch? .domains root = some list → list.length = names.length →
      ∃ result, (s.perform (.domains names requested settings) env log).1.1 = result.map .domains ∧
        Soap.ReadBatch .domains list names result := by
  obtain ⟨husers, hdomains⟩ := Query.read_of_rootOfBody hroot
  constructor
  · intro addresses settings list hlog hbatch hlength
    obtain ⟨events, hrecord, hrun⟩ := s.meets_perform (.users addresses settings) log
    have hevents := List.append_cancel_left (hrecord.symm.trans hlog)
    generalize s.perform (.users addresses settings) env log = run at hrun ⊢
    obtain ⟨⟨outcome, t⟩, after⟩ := run
    cases hrun with
    | noUsers hc => simp at hevents
    | users hc hr =>
      exact ⟨_, rfl, hr.readBatch rfl hl hevents hs (husers _ _) (fun _ => rfl) hbatch hlength⟩
  · intro names requested settings list hlog hbatch hlength
    obtain ⟨events, hrecord, hrun⟩ := s.meets_perform (.domains names requested settings) log
    have hevents := List.append_cancel_left (hrecord.symm.trans hlog)
    generalize s.perform (.domains names requested settings) env log = run at hrun ⊢
    obtain ⟨⟨outcome, t⟩, after⟩ := run
    cases hrun with
    | noDomains hc => simp at hevents
    | domains hc hr =>
      exact ⟨_, rfl, hr.readBatch rfl hl hevents hs (hdomains _ _ _) (fun _ => rfl) hbatch hlength⟩

def mixedTags : String :=
  "<UserResponse><UserSettings><UserSetting><Name>UserDisplayName</Name><Value>Jane</Value></UserSetting>" ++
    "</UserSettings></UserResponse><UserResponse><UserSettings><UserSetting><Value>Joe</Value></UserSetting>" ++
    "</UserSettings></UserResponse>"

def mixedBody : String :=
  "<e:Envelope xmlns:e=\"http://schemas.xmlsoap.org/soap/envelope/\"><e:Body>" ++
    "<GetUserSettingsResponseMessage xmlns=\"http://schemas.microsoft.com/exchange/2010/Autodiscover\">" ++
    "<Response><UserResponses>" ++ mixedTags ++ "</UserResponses></Response>" ++
    "</GetUserSettingsResponseMessage></e:Body></e:Envelope>"

def bothUsers : Call :=
  .users ["jane@a.example", "joe@a.example"] [.userDisplayName]

theorem mixedBody_batch :
    ∃ root list, Xml.rootOfBody mixedBody.toUTF8 = .ok root ∧ Soap.batch? .users root = some list ∧
      list.map (Soap.isResponse UserSetting .users) = [true, false] ∧ list.length = 2 := by
  have hread : ((Xml.Node.ofDocument? mixedBody).any fun root => (Soap.batch? .users root).any fun list =>
      list.map (Soap.isResponse UserSetting .users) == [true, false]) = true := by
    unfold Xml.Node.ofDocument? mixedBody mixedTags
    simp only [String.toList_append]
    decide +kernel
  obtain ⟨root, hroot, hread⟩ := (Option.any_eq_true ..).1 hread
  obtain ⟨list, hlist, hread⟩ := (Option.any_eq_true ..).1 hread
  rw [beq_iff_eq] at hread
  have hlength := congrArg List.length hread
  rw [List.length_map] at hlength
  exact ⟨root, list, Xml.rootOfBody_of_document hroot, hlist, hread, hlength⟩

theorem collect_record {ν : Type} {select : Answer → Except Failure (Collection ν)} {identities : List String}
    {domain : String} {log : Record} (hq : q.isSoap = true) (hl : s.locator = .url url host)
    (hr : s.client.queryRequest q url = .ok request) (ht : env.transport log.requests request = .ok response)
    (hs : response.isSuccess = true) :
    (s.collect q select identities domain env log).2 = log ++ [.exchange request (.ok response)] := by
  have hquery := Client.query_of_transport hr ht
  cases ha : Client.readAnswer q url response with
  | error e =>
    rw [ha] at hquery
    rw [collect_of_query_error hl hquery]
  | ok answer =>
    have hqueried : s.client.Queried q url (.ok answer) ([] ++ [.exchange request (.ok response)]) := .heard hr ha
    rw [ha] at hquery
    rw [collect_of_query hl hquery (hqueried.verdict_ne hq hs)]

theorem bothUsers_eq (body : ByteArray) :
    (formerService.perform bothUsers (answering body) []).1.1 =
        (formerService.collect (.users ["jane@a.example", "joe@a.example"] [.userDisplayName]) Answer.users?
          ["jane@a.example", "joe@a.example"] "a.example" (answering body) []).1.1.map Reply.users ∧
      (formerService.perform bothUsers (answering body) []).2 =
        (formerService.collect (.users ["jane@a.example", "joe@a.example"] [.userDisplayName]) Answer.users?
          ["jane@a.example", "joe@a.example"] "a.example" (answering body) []).2 :=
  ⟨rfl, rfl⟩

theorem bothUsers_record (body : ByteArray) :
    ∃ request, (formerService.perform bothUsers (answering body) []).2 =
      [] ++ ([] ++ [.exchange request (.ok ⟨200, [], body⟩)]) := by
  obtain ⟨request, hr, hu⟩ : ∃ request, formerService.client.queryRequest
      (.users ["jane@a.example", "joe@a.example"] [.userDisplayName]) formerUrl = .ok request ∧
        request.url = formerUrl :=
    ⟨_, rfl, rfl⟩
  rw [(bothUsers_eq body).2]
  exact ⟨request, collect_record rfl rfl hr (answering_transport hu) rfl⟩

theorem bothUsers_fails {body : ByteArray} {root : Xml.Node} {list : List Xml.Node}
    (hroot : Xml.rootOfBody body = .ok root) (hbatch : Soap.batch? .users root = some list)
    (hlist : list.map (Soap.isResponse UserSetting .users) = [true, false]) :
    ∃ e, (formerService.perform bothUsers (answering body) []).1.1 = .error e := by
  have hbad : list.all (Soap.isResponse UserSetting .users) = false := by
    have hmap : (list.map (Soap.isResponse UserSetting .users)).all id = false := by rw [hlist]; rfl
    simpa [List.all_map] using hmap
  rw [← Soap.isOk_ofRoot_of_batch? hbatch] at hbad
  have hanswer (q : Query) (hq : q.read body = (Soap.ofRoot .users root).map .users) :
      ∃ e, Client.readAnswer q formerUrl ⟨200, [], body⟩ = .error e := by
    change ∃ e, (q.read body).mapError Failure.unreadable = .error e
    rw [hq]
    cases hc : Soap.ofRoot (ν := UserSetting) .users root with
    | error e => exact ⟨_, rfl⟩
    | ok c => simp [hc, Except.isOk, Except.toBool] at hbad
  obtain ⟨e, hanswer⟩ := hanswer _
    ((Query.read_of_rootOfBody hroot).1 ["jane@a.example", "joe@a.example"] [.userDisplayName])
  obtain ⟨after, hquery⟩ : ∃ after, formerService.client.query
      (.users ["jane@a.example", "joe@a.example"] [.userDisplayName]) formerUrl (answering body) [] =
        (.error e, after) := by
    rw [Client.query_of_transport rfl (answering_transport rfl), hanswer]
    exact ⟨_, rfl⟩
  rw [(bothUsers_eq body).1, collect_of_query_error rfl hquery]
  exact ⟨e, rfl⟩

theorem malformed_item_spoils_batch :
    ¬ ∀ (s : Service) (url : Uri) (host : String) (env : Environment) (log before : Record) (request : Http.Request)
        (response : Http.Response) (root : Xml.Node) (list : List Xml.Node) (addresses : List String)
        (settings : List UserSetting),
      s.locator = .url url host → response.isSuccess = true → Xml.rootOfBody response.body = .ok root →
      (s.perform (.users addresses settings) env log).2 = log ++ (before ++ [.exchange request (.ok response)]) →
      Soap.batch? .users root = some list → list.length = addresses.length →
      ∃ c, (s.perform (.users addresses settings) env log).1.1 = .ok (.users c) := by
  intro h
  obtain ⟨root, list, hroot, hbatch, hlist, hlength⟩ := mixedBody_batch
  generalize mixedBody.toUTF8 = body at hroot
  obtain ⟨request, hrecord⟩ := bothUsers_record body
  obtain ⟨c, hc⟩ := h formerService formerUrl _ _ _ _ request ⟨200, [], body⟩ root list _ _ rfl rfl hroot hrecord
    hbatch hlength
  obtain ⟨e, he⟩ := bothUsers_fails hroot hbatch hlist
  rw [bothUsers] at he
  rw [he] at hc
  cases hc

theorem batch_all_or_none_mixed :
    ∃ root list request, Xml.rootOfBody mixedBody.toUTF8 = .ok root ∧ Soap.batch? .users root = some list ∧
      list.map (Soap.isResponse UserSetting .users) = [true, false] ∧
      (formerService.perform bothUsers (answering mixedBody.toUTF8) []).2 =
        [] ++ ([] ++ [.exchange request (.ok ⟨200, [], mixedBody.toUTF8⟩)]) ∧
      ∃ result, (formerService.perform bothUsers (answering mixedBody.toUTF8) []).1.1 = result.map .users ∧
        Soap.ReadBatch .users list ["jane@a.example", "joe@a.example"] result := by
  obtain ⟨root, list, hroot, hbatch, hlist, hlength⟩ := mixedBody_batch
  generalize mixedBody.toUTF8 = body at hroot ⊢
  obtain ⟨request, hrecord⟩ := bothUsers_record body
  have hknown : formerService.locator = .url formerUrl "mail.a.example" := rfl
  have hs : (⟨200, [], body⟩ : Http.Response).isSuccess = true := rfl
  obtain ⟨husers, -⟩ := batch_all_or_none hknown (answering body) [] hs hroot
  exact ⟨root, list, request, hroot, hbatch, hlist, hrecord, husers _ _ list hrecord hbatch hlength⟩

end Service

end MailDiscovery
