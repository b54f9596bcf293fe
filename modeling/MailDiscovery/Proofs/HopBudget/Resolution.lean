import MailDiscovery.Proofs.HopBudget.Basic
import MailDiscovery.Proofs.Run.Served

namespace MailDiscovery

theorem Failure.eq_of_isFatal {e : Failure} (h : e.isFatal = true) : e = .tooManyRedirections := by
  cases e <;> first | rfl | cases h

namespace Event

variable {q : Query} {sendsOn : Answer → Bool} {event : Event}

theorem counts_of_not_post (h : event.isPost = false) : event.counts q sendsOn = false := by
  simp [counts, redirection?_eq_none h, answer?_eq_none h]

theorem counts_of_redirection? {target : Uri} (h : event.redirection? q = some target) :
    event.counts q sendsOn = true := by
  simp [counts, h]

theorem counts_of_answer? {answer : Answer} (h : event.answer? q = some answer) :
    event.counts q sendsOn = sendsOn answer := by
  have hr : event.redirection? q = none := by
    cases hr : event.redirection? q with
    | none => rfl
    | some target => simp [answer?_of_redirection? hr] at h
  simp [counts, h, hr]

theorem counts_of_none (hr : event.redirection? q = none) (ha : event.answer? q = none) :
    event.counts q sendsOn = false := by
  simp [counts, hr, ha]

end Event

theorem Record.Quiet.not_counted {q : Query} {sendsOn : Answer → Bool} {events : Record} (h : events.Quiet) :
    ∀ event ∈ events, event.counts q sendsOn = false :=
  fun event he => Event.counts_of_not_post (h event he)

def Ending.ofOutcome (sendsOn : Answer → Bool) : Except Failure Answer → Ending
  | .ok answer => if sendsOn answer then .pending else .settled
  | .error e => if e.isFatal then .exceeded else .settled

theorem Ending.ofOutcome_error {sendsOn : Answer → Bool} {e : Failure} (h : e.isFatal = false) :
    ofOutcome sendsOn (.error e) = .settled :=
  if_neg (by simp [h])

namespace Client

variable {c : Client} {env : Environment} {q : Query} {sendsOn : Answer → Bool}

theorem Surveyed.detours {left : Nat} {host : String} {result : Except Failure (Option (String × EndpointSet))}
    {events : Record} {e : Failure} (h : c.Surveyed left host result events) (he : result = .error e) :
    e = .tooManyRedirections ∧ events.length = left + 1 ∧ Detours host events := by
  induction h with
  | exceeded hu hp hr ht =>
    cases he
    cases hp with
    | heard hp =>
      obtain ⟨hm, rfl⟩ := of_probeRequest? hp
      exact ⟨rfl, rfl, .cons hm hu hr ht .nil⟩
  | onward hu hp hr ht hn ih =>
    obtain ⟨hfatal, hlength, hdetours⟩ := ih he
    cases hp with
    | heard hp =>
      obtain ⟨hm, rfl⟩ := of_probeRequest? hp
      exact ⟨hfatal, by simp [hlength], .cons hm hu hr ht hdetours⟩
  | nowhere | silent | lost | bare | answered => cases he

theorem Gated.spent {host : String} {e : Failure} {events : Record} (left followed : Nat)
    (h : c.Gated host (.error e) events) :
    Spent (Event.counts q sendsOn) left (.ofOutcome sendsOn (.error e)) followed events := by
  cases h with
  | failed h =>
    obtain ⟨rfl, hlength, hdetours⟩ := h.detours rfl
    have hcount : events.countP (Event.counts q sendsOn) = 0 := by
      rw [List.countP_eq_zero]
      exact fun event he => by simp [h.quiet.not_counted event he]
    exact .inr ⟨by omega, [], host, events, rfl, hlength, hdetours⟩

theorem Followed.spent {left followed : Nat} {url : Uri} {outcome : Except Failure Served} {events : Record}
    (hq : q.isSoap = true) (h : c.Followed q left url outcome followed events) :
    Spent (Event.counts q sendsOn) left (.ofOutcome sendsOn (outcome.map Served.answer)) followed events := by
  induction h with
  | failed h =>
    obtain ⟨he, hnone⟩ := h.of_error
    rw [Except.map, Ending.ofOutcome_error (Failure.isFatal_of_isPlain he)]
    exact .of_not_counted fun event hevent =>
      Event.counts_of_none (hnone event hevent).1 (hnone event hevent).2
  | @served left url answer events h hv =>
    obtain ⟨request, response, rfl, -, -, ha⟩ := h.answered hq hv
    have hcount : Event.counts q sendsOn _ = sendsOn answer := Event.counts_of_answer? ha
    simp only [Except.map, Ending.ofOutcome]
    split
    · rename_i hs
      exact .pending_of_counted (hcount.trans hs)
    · rename_i hs
      exact .of_not_counted fun event he => by
        rw [List.mem_singleton.1 he, hcount]
        exact Bool.eq_false_iff.2 hs
  | exceeded h hv =>
    obtain ⟨request, response, uri, rfl, -, -, hr, -⟩ := h.redirected hq hv
    exact .exceeded_of_counted (Event.counts_of_redirection? hr)
  | lost h hv ht =>
    obtain ⟨request, response, uri, rfl, -, -, hr, -⟩ := h.redirected hq hv
    exact .cons_counted (Event.counts_of_redirection? hr) (.of_not_counted fun _ he => absurd he List.not_mem_nil)
  | onward h hv ht hn ih =>
    obtain ⟨request, response, uri, rfl, -, -, hr, -⟩ := h.redirected hq hv
    exact .cons_counted (Event.counts_of_redirection? hr) ih

theorem Attempted.spent {left followed : Nat} {host : String} {outcome : Except Failure Served} {events : Record}
    (hq : q.isSoap = true) (hs : ∀ answer, sendsOn answer = true → answer.check = .ok ())
    (h : c.Attempted q left host outcome followed events) :
    Spent (Event.counts q sendsOn) left (.ofOutcome sendsOn (outcome.map Served.answer)) followed events := by
  cases h with
  | failed hg => exact hg.spent left 0
  | unusable hg => exact .of_not_counted hg.quiet.not_counted
  | unserved hg hf => exact .append_of_not_counted hg.quiet.not_counted (hf.spent hq)
  | @refused url served e followed events more hg hf hc =>
    -- An answer that fails the check sends nobody on, so that nothing is left to follow.
    have hsend : sendsOn served.answer = false := by
      rw [Bool.eq_false_iff]
      intro h
      rw [hs _ h] at hc
      cases hc
    have he := Failure.isFatal_of_isPlain (Answer.isPlain_of_check hc)
    have hspent : Spent (Event.counts q sendsOn) _ _ _ _ := hf.spent hq
    simp only [Except.map, Ending.ofOutcome, hsend, Bool.false_eq_true, ↓reduceIte] at hspent
    rw [Except.map, Ending.ofOutcome_error he]
    exact .append_of_not_counted hg.quiet.not_counted hspent
  | served hg hf hc => exact .append_of_not_counted hg.quiet.not_counted (hf.spent hq)

theorem Tried.spent {left followed : Nat} {last : Option Failure} {candidates : List (Candidate String)}
    {search : Search Served} {events : Record} (hq : q.isSoap = true)
    (hs : ∀ answer, sendsOn answer = true → answer.check = .ok ())
    (h : c.Tried q left last candidates search followed events) :
    Spent (Event.counts q sendsOn) left (.ofOutcome sendsOn (search.served.map Served.answer)) followed events := by
  induction h with
  | exhausted => exact .of_not_counted (by simp)
  | found h => exact h.spent hq hs
  | failed h he => exact h.spent hq hs
  | next h he hn ih =>
    have hspent := h.spent hq hs
    rw [Except.map, Ending.ofOutcome_error he] at hspent
    exact hspent.append ih

theorem FellBack.spent {left n m : Nat} {origin : Origin} {P : Option Uri → Record → Prop}
    {search found : Search Served} {events more : Record} (hq : q.isSoap = true)
    (hs : ∀ answer, sendsOn answer = true → answer.check = .ok ()) (hP : ∀ url events, P url events → events.Quiet)
    (hspent : Spent (Event.counts q sendsOn) left (.ofOutcome sendsOn (search.served.map Served.answer)) n events)
    (h : c.FellBack q left origin P search n found m more) :
    Spent (Event.counts q sendsOn) left (.ofOutcome sendsOn (found.served.map Served.answer)) m (events ++ more) := by
  cases h with
  | settled h => rwa [List.append_nil]
  | tried hp ht =>
    rw [Search.served, Except.map, Ending.ofOutcome_error rfl] at hspent
    exact hspent.append (.append_of_not_counted (hP _ _ hp).not_counted (ht.spent hq hs))

theorem Discovered.spent {domain : String} {r : Redirection} {search : Search Served} {n : Nat} {events : Record}
    (hq : q.isSoap = true) (hs : ∀ answer, sendsOn answer = true → answer.check = .ok ())
    (h : c.Discovered env q domain r search n events) :
    Spent (Event.counts q sendsOn) r.left (.ofOutcome sendsOn (search.served.map Served.answer)) n events := by
  obtain ⟨hl, ht, hr, hf⟩ := h
  have first := Spent.append_of_not_counted hl.quiet.not_counted (ht.spent hq hs)
  have second := hr.spent hq hs (fun _ _ h => h.quiet) first
  exact hf.spent hq hs (fun _ _ h => h.quiet) second

end Client

namespace Service

variable {s : Service} {env : Environment} {sendsOn : Answer → Bool}

theorem Resolved.spent {q : Query} {domain : String} {r : Redirection} {result : Except Failure (Answer × Service)}
    {followed : Nat} {events : Record} (hq : q.isSoap = true)
    (hs : ∀ answer, sendsOn answer = true → answer.check = .ok ())
    (h : s.Resolved env q domain r result followed events) :
    Spent (Event.counts q sendsOn) r.left (.ofOutcome sendsOn (result.map Prod.fst)) followed events := by
  cases h with
  | unserved hl hf => exact hf.spent hq
  | served hl hf => exact hf.spent hq
  | ungated hl hg => exact hg.spent _ _
  | unusable hl hg => exact .of_not_counted hg.quiet.not_counted
  | unservedAt hl hg hf => exact .append_of_not_counted hg.quiet.not_counted (hf.spent hq)
  | servedAt hl hg hf => exact .append_of_not_counted hg.quiet.not_counted (hf.spent hq)
  | found hl hd => exact hd.spent hq hs
  | failed hl hd => exact hd.spent hq hs
  | exhausted hl hd => exact hd.spent hq hs

end Service

end MailDiscovery
