import MailDiscovery.Proofs.Batch.Call

namespace MailDiscovery

def Response.unassigned {ν : Type} (r : Response ν) : Response ν :=
  { r with identity := "" }

namespace Collection

variable {ν : Type}

def unassigned (c : Collection ν) : Collection ν :=
  { c with responses := c.responses.map Response.unassigned }

theorem unassigned_name (responses : List (Response ν)) (identities : List String) :
    (name responses identities).map Response.unassigned = responses.map Response.unassigned := by
  induction responses generalizing identities with
  | nil => cases identities <;> rfl
  | cons response responses ih =>
    cases identities with
    | nil => rfl
    | cons identity identities => exact congrArg (response.unassigned :: ·) (ih identities)

theorem identity_name {responses : List (Response ν)} {identities : List String}
    (h : responses.length = identities.length) : (name responses identities).map Response.identity = identities := by
  induction responses generalizing identities with
  | nil =>
    have hnil : identities = [] := List.length_eq_zero_iff.1 h.symm
    subst hnil
    rfl
  | cons response responses ih =>
    cases identities with
    | nil => cases h
    | cons identity identities =>
      have hlength : responses.length = identities.length := by simpa using h
      exact congrArg (identity :: ·) (ih hlength)

theorem assign_of_length {c : Collection ν} {identities : List String}
    (h : c.responses.length = identities.length) :
    c.assign identities = .ok { c with responses := name c.responses identities } :=
  if_neg fun hne => hne.2 h

theorem assign_eq_ok {c d : Collection ν} {identities : List String} (h : c.assign identities = .ok d) :
    d.unassigned = c.unassigned ∧ d.code = c.code ∧
      (d.code = .noError → d.responses.map Response.identity = identities) := by
  unfold assign at h
  split at h
  · cases h
  rename_i hne
  cases h
  refine ⟨?_, rfl, ?_⟩
  · exact congrArg (fun responses => { c with responses }) (unassigned_name c.responses identities)
  · intro hcode
    by_cases hlength : c.responses.length = identities.length
    · exact identity_name hlength
    · exact absurd ⟨hcode, hlength⟩ hne

end Collection

namespace Soap

open Xml (Node)

variable {ν : Type} [DecidableEq ν] [SettingName ν] {layout : Layout}

def itemsOf? (layout : Layout) (body : ByteArray) : Option (List Node) :=
  ((Xml.rootOfBody body).toOption.bind (answer? layout)).map (items layout)

theorem items_of_ofRoot {root : Node} {c : Collection ν} (h : ofRoot layout root = .ok c) :
    ∃ answer, answer? layout root = some answer ∧
      (items layout answer).mapM (response (ν := ν) layout) = .ok c.responses := by
  unfold ofRoot at h
  split at h
  · cases h
  obtain ⟨heading, -, h⟩ := Failure.of_bind_ok h
  obtain ⟨body, hbody, h⟩ := Failure.of_bind_ok h
  split at h
  · cases h
  rename_i hfault
  obtain ⟨message, hmessage, h⟩ := Failure.of_bind_ok h
  obtain ⟨answer, hanswer, h⟩ := Failure.of_bind_ok h
  obtain ⟨read, hread, h⟩ := Failure.of_bind_ok h
  cases h
  refine ⟨answer, ?_, ?_⟩
  · simp [answer?, Xml.eq_some_of_require hbody, hfault, Xml.eq_some_of_require hmessage, Xml.eq_some_of_require hanswer]
  · rw [← responses_eq_mapM]
    exact hread

theorem items_of_ofBody {body : ByteArray} {c : Collection ν} (h : ofBody layout body = .ok c) :
    ∃ list, itemsOf? layout body = some list ∧ list.mapM (response (ν := ν) layout) = .ok c.responses := by
  obtain ⟨root, hroot, h⟩ := Failure.of_bind_ok h
  obtain ⟨answer, hanswer, hread⟩ := items_of_ofRoot h
  exact ⟨items layout answer, by simp [itemsOf?, hroot, hanswer, Except.toOption], hread⟩

theorem unassigned_of_response {item : Node} {r : Response ν} (h : response layout item = .ok r) :
    r.unassigned = r := by
  obtain ⟨settings, -, h⟩ := Failure.of_bind_ok h
  cases h
  rfl

theorem unassigned_of_ofBody {body : ByteArray} {c : Collection ν} (h : ofBody layout body = .ok c) :
    c.unassigned = c := by
  obtain ⟨list, -, hread⟩ := items_of_ofBody h
  have hall : ∀ r ∈ c.responses, r.unassigned = r := by
    rcases mapM_cases (response (ν := ν) layout) list with
      ⟨read, hok, hcount, heach⟩ | ⟨_, _, _, _, -, -, -, hfail⟩
    · rw [hok] at hread
      cases hread
      intro r hr
      obtain ⟨i, hi, hget⟩ := List.getElem_of_mem hr
      have hitem : list[i]? = some list[i] := List.getElem?_eq_getElem (hcount ▸ hi)
      obtain ⟨b, hb, hnth⟩ := heach i _ hitem
      have hrb : r = b := by
        rw [List.getElem?_eq_getElem hi, hget] at hnth
        exact Option.some.inj hnth
      exact hrb ▸ unassigned_of_response hb
    · rw [hfail] at hread
      cases hread
  have hmap : c.responses.map Response.unassigned = c.responses := List.map_congr_left hall |>.trans (List.map_id _)
  exact congrArg (fun responses => { c with responses }) hmap

end Soap

structure Query.AsksMany {ν : Type} [DecidableEq ν] [SettingName ν] (q : Query) (layout : Soap.Layout)
    (inject : Collection ν → Answer) (select : Answer → Except Failure (Collection ν)) : Prop where
  isSoap : q.isSoap = true
  read (body : ByteArray) : q.read body = (Soap.ofBody layout body).map inject
  select (c : Collection ν) : select (inject c) = .ok c
  check (c : Collection ν) : (inject c).check = c.check

namespace Query.AsksMany

variable {ν : Type} [DecidableEq ν] [SettingName ν] {q : Query} {layout : Soap.Layout}
  {inject : Collection ν → Answer} {select : Answer → Except Failure (Collection ν)} {request : Http.Request}
  {response : Http.Response} {c : Collection ν}

theorem settling?_of_noError (hq : q.AsksMany layout inject select) (hm : request.method = .post)
    (hs : response.isSuccess = true) (hc : Soap.ofBody layout response.body = .ok c) (hcode : c.code = .noError)
    (among : Bool) : Event.settling? q among (.exchange request (.ok response)) = some (inject c) := by
  have hanswer : Event.answer? q (.exchange request (.ok response)) = some (inject c) := by
    simp [Event.answer?, hm, hs, hq.read, hc, Except.map, Except.toOption]
  have hcheck : (inject c).check.isOk = true := by
    rw [hq.check, Collection.check, if_pos hcode]
    rfl
  rw [Event.settling?, hanswer]
  simp [Option.filter, hcheck]

theorem of_settling? (hq : q.AsksMany layout inject select) {among : Bool} {answer : Answer}
    (h : Event.settling? q among (.exchange request (.ok response)) = some answer) :
    ∃ c, answer = inject c ∧ Soap.ofBody layout response.body = .ok c ∧ (among = true → c.code = .noError) := by
  obtain ⟨_, _, heq, -, -, hread⟩ := Event.read_of_answer? (Event.answer?_of_settling? h)
  cases heq
  rw [hq.read] at hread
  cases hc : Soap.ofBody (ν := ν) layout response.body with
  | error e =>
    rw [hc] at hread
    cases hread
  | ok c =>
    rw [hc] at hread
    cases hread
    refine ⟨c, rfl, rfl, ?_⟩
    rintro rfl
    have hcheck := (Option.filter_eq_some_iff.1 h).2
    rw [hq.check, Collection.check] at hcheck
    by_cases hcode : c.code = .noError
    · exact hcode
    · simp [hcode, Except.isOk, Except.toBool] at hcheck

end Query.AsksMany

namespace Service

variable {ν : Type} [DecidableEq ν] [SettingName ν] {s t : Service} {env : Environment} {q : Query}
  {layout : Soap.Layout} {inject : Collection ν → Answer} {select : Answer → Except Failure (Collection ν)}
  {identities : List String} {result : Except Failure (Collection ν)} {events : Record}

structure LinesUp (s : Service) (layout : Soap.Layout) (identities : List String)
    (result : Except Failure (Collection ν)) (events : Record) : Prop where
  read : ∀ c, result = .ok c → ∃ before request response list,
    events = before ++ [.exchange request (.ok response)] ∧ request.method = .post ∧
      Soap.ofBody layout response.body = .ok c.unassigned ∧ Soap.itemsOf? layout response.body = some list ∧
      list.mapM (Soap.response layout) = .ok (c.responses.map Response.unassigned)
  redirectUrl : ∀ c, result = .ok c → c.redirectUrl = none
  identity : ∀ c, result = .ok c → c.code = .noError → c.responses.map Response.identity = identities
  undetermined : s.locator = .undetermined → ∀ c, result = .ok c → c.code = .noError
  counted : ∀ request response, .exchange request (.ok response) ∈ events → request.method = .post →
    response.isSuccess = true → ∀ c : Collection ν, Soap.ofBody layout response.body = .ok c → c.code = .noError →
    if c.responses.length = identities.length then ∃ d, result = .ok d ∧ d.unassigned = c
    else result = .error (.mismatch .responseCount)

theorem linesUp_of_error {e : Failure} (hq : q.AsksMany layout inject select)
    (h : ∀ event ∈ events, event.settling? q s.searches = none) :
    LinesUp (ν := ν) s layout identities (.error e) events where
  read _ hc := by cases hc
  redirectUrl _ hc := by cases hc
  identity _ hc := by cases hc
  undetermined _ _ hc := by cases hc
  counted request response he hm hs c hc hcode := by
    have hnone := h _ he
    rw [hq.settling?_of_noError hm hs hc hcode] at hnone
    cases hnone

theorem Collected.linesUp {domain : String} (hq : q.AsksMany layout inject select)
    (h : s.Collected env q select identities domain result t events) : s.LinesUp layout identities result events := by
  cases h with
  | unresolved hr => exact linesUp_of_error hq (hr.not_settling hq.isSoap)
  | resolved hr hresult =>
    obtain ⟨url, hconcluded, -⟩ := hr.concluded hq.isSoap
    cases hconcluded with
    | @served before request response answer hb hm hs =>
      obtain ⟨c, rfl, hc, hsearches⟩ := hq.of_settling? hs
      -- The last answer has been accepted: all that is left to do is to name its responses.
      have hassign : c.assign identities = result := by
        rw [← hresult, hq.select]
        rfl
      have hblank := Soap.unassigned_of_ofBody hc
      have of_ok (d : Collection ν) (hd : result = .ok d) :
          d.unassigned = c ∧ d.code = c.code ∧ (d.code = .noError → d.responses.map Response.identity = identities) := by
        obtain ⟨hfields, hrest⟩ := Collection.assign_eq_ok (hassign.trans hd)
        exact ⟨hfields.trans hblank, hrest⟩
      refine ⟨?_, ?_, fun d hd => (of_ok d hd).2.2, ?_, ?_⟩
      · intro d hd
        obtain ⟨hfields, -, -⟩ := of_ok d hd
        obtain ⟨list, hlist, hread⟩ := Soap.items_of_ofBody hc
        have hresponses : d.responses.map Response.unassigned = c.responses := congrArg Collection.responses hfields
        exact ⟨before, request, response, list, rfl, hm, hfields ▸ hc, hlist, hresponses ▸ hread⟩
      · intro d hd
        have hurl : d.unassigned.redirectUrl = c.redirectUrl := congrArg Collection.redirectUrl (of_ok d hd).1
        exact hurl.trans (Soap.redirectUrl_of_ofBody hc)
      · intro hl d hd
        exact (of_ok d hd).2.1.trans (hsearches (by simp [searches, hl]))
      · intro other reply he hm' hs' d hd hcode
        have hsettling := hq.settling?_of_noError hm' hs' hd hcode s.searches
        rcases List.mem_append.1 he with he | he
        · -- An answer without an error would have ended the call.
          have hnone := hb _ he
          rw [hsettling] at hnone
          cases hnone
        · cases List.mem_singleton.1 he
          have hdc : d = c := Except.ok.inj (hd.symm.trans hc)
          subst hdc
          split
          · rename_i hlength
            have hok := hassign.symm.trans (Collection.assign_of_length hlength)
            exact ⟨_, hok, (of_ok _ hok).1⟩
          · rename_i hlength
            rw [← hassign]
            exact if_pos ⟨hcode, hlength⟩

theorem meets_usersSettings_linesUp (s : Service) (addresses : List String) (settings : List UserSetting) :
    Conversation.Meets env (s.usersSettings addresses settings) fun result events =>
      s.LinesUp .users addresses result.1 events := by
  have hq : (Query.users addresses settings).AsksMany .users Answer.users Answer.users? :=
    ⟨rfl, fun _ => rfl, fun _ => rfl, fun _ => rfl⟩
  unfold usersSettings
  split
  · exact Conversation.meets_pure (linesUp_of_error hq (by simp))
  · exact (s.meets_collect _ _ addresses _).mono fun _ _ h => h.linesUp hq

theorem meets_domainsSettings_linesUp (s : Service) (names : List String) (requested : Option ServerVersion)
    (settings : List DomainSetting) :
    Conversation.Meets env (s.domainsSettings names requested settings) fun result events =>
      s.LinesUp .domains names result.1 events := by
  have hq : (Query.domains names settings requested).AsksMany .domains Answer.domains Answer.domains? :=
    ⟨rfl, fun _ => rfl, fun _ => rfl, fun _ => rfl⟩
  unfold domainsSettings
  split
  · exact Conversation.meets_pure (linesUp_of_error hq (by simp))
  · exact (s.meets_collect _ _ names _).mono fun _ _ h => h.linesUp hq

theorem batches_line_up (s : Service) (env : Environment) (log : Record) :
    (∀ addresses settings, ∃ events, (s.usersSettings addresses settings env log).2 = log ++ events ∧
      s.LinesUp .users addresses (s.usersSettings addresses settings env log).1.1 events) ∧
    ∀ names requested settings, ∃ events, (s.domainsSettings names requested settings env log).2 = log ++ events ∧
      s.LinesUp .domains names (s.domainsSettings names requested settings env log).1.1 events :=
  ⟨fun addresses settings => s.meets_usersSettings_linesUp addresses settings log,
    fun names requested settings => s.meets_domainsSettings_linesUp names requested settings log⟩

end Service

end MailDiscovery
