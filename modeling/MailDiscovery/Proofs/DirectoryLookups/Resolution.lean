import MailDiscovery.Proofs.DirectoryLookups.Basic
import MailDiscovery.Proofs.Run.Served
import MailDiscovery.Proofs.Run.Turn
import MailDiscovery.Proofs.Search.Sources

namespace MailDiscovery

namespace Client

variable {c : Client} {env : Environment} {q : Query} {domain address : String} {r : Redirection} {events : Record}

theorem Probed.lookups {url : Uri} {reply : Option Http.Response} (h : c.Probed url reply events) :
    events.lookups = [] := by
  cases h <;> rfl

theorem Surveyed.lookups {left : Nat} {host : String} {result : Except Failure (Option (String × EndpointSet))}
    (h : c.Surveyed left host result events) : events.lookups = [] := by
  induction h with
  | nowhere hu => rfl
  | silent hu hp | lost hu hp | exceeded hu hp | bare hu hp | answered hu hp => exact hp.lookups
  | onward hu hp hr ht hn ih => rw [Record.lookups_append, hp.lookups, ih, List.append_nil]

theorem Gated.lookups {host : String} {result : Except Failure (Option Uri)} (h : c.Gated host result events) :
    events.lookups = [] := by
  cases h with
  | failed h | unanswered h | answered h => exact h.lookups

theorem Attempted.lookups {left followed : Nat} {host : String} {outcome : Except Failure Served}
    (h : c.Attempted q left host outcome followed events) : events.lookups = [] := by
  cases h with
  | failed hg | unusable hg => exact hg.lookups
  | unserved hg hf | refused hg hf | served hg hf =>
    rw [Record.lookups_append, hg.lookups, Record.lookups_of_isPost hf.isPost, List.append_nil]

theorem Tried.lookups {left followed : Nat} {last : Option Failure} {candidates : List (Candidate String)}
    {search : Search Served} (h : c.Tried q left last candidates search followed events) : events.lookups = [] := by
  induction h with
  | exhausted => rfl
  | found h | failed h => exact h.lookups
  | next h he hn ih => rw [Record.lookups_append, h.lookups, ih, List.append_nil]

theorem Pointed.lookups {url : Option Uri} (h : c.Pointed env q domain url events) : events.lookups = [] := by
  cases h with
  | nowhere hu => rfl
  | silent hu hp | useless hu hp => exact hp.lookups
  | rejected hu hp | approved hu hp =>
    rw [Record.lookups_append, hp.lookups]
    rfl

theorem Located.lookups {url : Option Uri} (h : Located env domain url events) : events.lookups = [] := by
  cases h <;> rfl

theorem FellBack.lookups {left n m : Nat} {origin : Origin} {P : Option Uri → Record → Prop}
    {search found : Search Served} (hP : ∀ url events, P url events → events.lookups = [])
    (h : c.FellBack q left origin P search n found m events) : events.lookups = [] := by
  cases h with
  | settled h => rfl
  | tried hp ht => rw [Record.lookups_append, hP _ _ hp, ht.lookups, List.append_nil]

theorem Listed.asksFirst {urls : List String} {more : Record} (h : Listed env r domain urls events)
    (hmore : more.lookups = []) : (events ++ more).AsksFirst (r.directory = true) domain := by
  cases h with
  | asked h => exact .inr ⟨h, more, rfl, hmore⟩
  | unasked h => exact .inl hmore

theorem Discovered.asksFirst {search : Search Served} {n : Nat} (h : c.Discovered env q domain r search n events) :
    events.AsksFirst (r.directory = true) domain := by
  cases h with
  | mk hl ht hr hs =>
    rw [List.append_assoc, List.append_assoc]
    apply hl.asksFirst
    simp [ht.lookups, hr.lookups fun _ _ => Pointed.lookups, hs.lookups fun _ _ => Located.lookups]

end Client

theorem Event.namedAddress?_of_settling? {q : Query} {among : Bool} {event : Event}
    (h : event.settling? q among = none) : event.namedAddress? q = none := by
  unfold settling? at h
  unfold namedAddress?
  cases ha : event.answer? q with
  | none => rfl
  | some answer =>
    rw [ha, Option.filter_eq_none_iff] at h
    have hcheck : answer.check.isOk = false := by
      have := h answer rfl
      simp_all
    cases answer with
    | legacy answer => cases hcheck
    | domains c => rfl
    | users c =>
      have hc : c.code ≠ .noError := by
        intro hc
        simp [Answer.check, Collection.check, hc, Except.isOk, Except.toBool] at hcheck
      simp only [Option.bind_some, Answer.namedAddress?]
      split
      · exact absurd ‹_› hc
      · rfl

theorem Concluded.named {q : Query} {among : Bool} {outcome : Except Failure Served} {events : Record}
    (h : Concluded q among outcome events) :
    events.named q = (outcome.toOption.bind fun served => served.answer.namedAddress?).toList := by
  have unsettled {events : Record} (h : ∀ event ∈ events, event.settling? q among = none) : events.named q = [] := by
    rw [Record.named, List.filterMap_eq_nil_iff]
    exact fun event he => Event.namedAddress?_of_settling? (h event he)
  cases h with
  | failed h => exact unsettled h
  | served hb hm hs =>
    rw [Record.named_append, unsettled hb, List.nil_append, Record.named_cons, Event.namedAddress?,
      Event.answer?_of_settling? hs]
    simp [Record.named, Except.toOption]

namespace Service

variable {s t : Service} {env : Environment} {q : Query} {domain : String} {r : Redirection} {followed : Nat}
  {events : Record}

theorem Resolved.named {answer : Answer} (hq : q.isSoap = true)
    (h : s.Resolved env q domain r (.ok (answer, t)) followed events) :
    events.named q = answer.namedAddress?.toList := by
  obtain ⟨url, hc, -⟩ := h.concluded hq
  exact hc.named

theorem Resolved.asksFirst {outcome : Except Failure (Answer × Service)}
    (h : s.Resolved env q domain r outcome followed events) :
    events.AsksFirst (s.locator = .undetermined ∧ r.directory = true) domain := by
  cases h with
  | unserved hl hf | served hl hf => exact .inl (Record.lookups_of_isPost hf.isPost)
  | ungated hl hg | unusable hl hg => exact .inl hg.lookups
  | unservedAt hl hg hf | servedAt hl hg hf =>
    left
    rw [Record.lookups_append, hg.lookups, Record.lookups_of_isPost hf.isPost, List.append_nil]
  | found hl hd | failed hl hd | exhausted hl hd => exact hd.asksFirst.imp_right fun h => ⟨⟨hl, h.1⟩, h.2⟩

theorem namedAddress?_of_soleResponse {address : String} {c : Collection UserSetting} {response : Response UserSetting}
    (h : soleResponse address (.users c) = .ok response) :
    (Answer.users c).namedAddress? = if response.code = .redirectAddress then response.redirectTarget else none := by
  obtain ⟨hc, first, hr, rfl⟩ := soleResponse_eq_ok h
  simp [Answer.namedAddress?, hc, hr]

end Service

end MailDiscovery
