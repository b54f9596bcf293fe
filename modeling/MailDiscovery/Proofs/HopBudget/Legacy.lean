import MailDiscovery.Proofs.HopBudget.Rounds
import MailDiscovery.Proofs.Run.Legacy

namespace MailDiscovery

def LegacyStep.ending : LegacyStep → Ending
  | .found _ _ => .settled
  | .restart _ => .pending
  | .failed e => if e.isFatal then .exceeded else .settled
  | .exhausted _ => .settled

theorem LegacyFailures.isFatal_verdict (failures : LegacyFailures) : failures.verdict.isFatal = false := by
  unfold verdict
  split <;> rfl

namespace Client

variable {c : Client} {env : Environment} {address domain : String}

theorem QueriedLegacy.counted {url : Uri} {answer : LegacyAnswer} {events : Record}
    (h : c.QueriedLegacy address url (.ok answer) events) :
    ∃ event, events = [event] ∧ event.counts (.legacy address) Answer.sendsOn = answer.sendsOn := by
  cases h with
  | answered h =>
    obtain ⟨request, response, rfl, -, -, ⟨target, hr, heq⟩ | ha⟩ := h.of_ok
    · refine ⟨_, rfl, ?_⟩
      cases heq
      exact Event.counts_of_redirection? hr
    · exact ⟨_, rfl, Event.counts_of_answer? ha⟩

theorem QueriedLegacy.not_counted {url : Uri} {answer : LegacyAnswer} {events : Record}
    (h : c.QueriedLegacy address url (.ok answer) events) (hs : answer.sendsOn = false) :
    ∀ event ∈ events, event.counts (.legacy address) Answer.sendsOn = false := by
  obtain ⟨event, rfl, hcount⟩ := h.counted
  intro other he
  rw [List.mem_singleton.1 he, hcount, hs]

theorem QueriedLegacy.of_error {url : Uri} {e : Failure} {events : Record}
    (h : c.QueriedLegacy address url (.error e) events) :
    e.isFatal = false ∧ ∀ event ∈ events, event.counts (.legacy address) Answer.sendsOn = false := by
  cases h with
  | failed h =>
    obtain ⟨he, hnone⟩ := h.of_error
    exact ⟨Failure.isFatal_of_isPlain he, fun event hevent => Event.counts_of_none (hnone event hevent).1 (hnone event hevent).2⟩

theorem TriedLegacy.spent {left followed : Nat} {failures : LegacyFailures} {candidates : List (Candidate Uri)}
    {step : LegacyStep} {events : Record} (h : c.TriedLegacy address left failures candidates step followed events) :
    Spent (Event.counts (.legacy address) Answer.sendsOn) left step.ending followed events := by
  induction h with
  | exhausted => exact .of_not_counted (by simp)
  | failed h he => simp [h.of_error.1] at he
  | skipped h he hn ih => exact .append_of_not_counted h.of_error.2 ih
  | found h => exact .of_not_counted (h.not_counted rfl)
  | restarted h =>
    obtain ⟨event, rfl, hcount⟩ := h.counted
    exact .pending_of_counted hcount
  | kept h ho hn ih => exact .append_of_not_counted (h.not_counted rfl) ih
  | refused h ho => exact .of_not_counted (h.not_counted rfl)
  | exceeded h =>
    obtain ⟨event, rfl, hcount⟩ := h.counted
    exact .exceeded_of_counted hcount
  | onward h ht hn ih =>
    obtain ⟨event, rfl, hcount⟩ := h.counted
    exact .cons_counted hcount ih
  | lost h ht hn ih =>
    obtain ⟨event, rfl, hcount⟩ := h.counted
    exact .cons_counted hcount ih

theorem FellBackLegacy.spent {left n m : Nat} {origin : Origin} {P : Option Uri → Record → Prop}
    {step next : LegacyStep} {events more : Record} (hP : ∀ url events, P url events → events.Quiet)
    (hspent : Spent (Event.counts (.legacy address) Answer.sendsOn) left step.ending n events)
    (h : c.FellBackLegacy address left origin P step n next m more) :
    Spent (Event.counts (.legacy address) Answer.sendsOn) left next.ending m (events ++ more) := by
  cases h with
  | settled h => rwa [List.append_nil]
  | tried hp ht => exact hspent.append (.append_of_not_counted (hP _ _ hp).not_counted ht.spent)

theorem RoundLegacy.spent {r : Redirection} {step : LegacyStep} {n : Nat} {events : Record}
    (h : c.RoundLegacy env address domain r step n events) :
    Spent (Event.counts (.legacy address) Answer.sendsOn) r.left step.ending n events := by
  obtain ⟨hl, ht, hr, hs⟩ := h
  have first := Spent.append_of_not_counted hl.quiet.not_counted ht.spent
  have second := hr.spent (fun _ _ h => h.quiet) first
  exact hs.spent (fun _ _ h => h.quiet) second

theorem DiscoveredLegacy.spent {r : Redirection} {result : Except Failure (Settings UserSetting × Origin)}
    {events : Record} (h : c.DiscoveredLegacy env r address result events) :
    ∃ followed, Spent (Event.counts (.legacy address) Answer.sendsOn) r.left (.ofResult result) followed events := by
  induction h with
  | unaddressed ha => exact ⟨0, .of_not_counted (by simp)⟩
  | found ha hr => exact ⟨_, hr.spent⟩
  | failed ha hr => exact ⟨_, hr.spent⟩
  | exhausted ha hr =>
    rw [Ending.ofResult_error (LegacyFailures.isFatal_verdict _)]
    exact ⟨_, hr.spent⟩
  | exceeded ha hr hh =>
    have hl := Redirection.left_eq_zero_of_hop? hh
    exact ⟨0, Spent.exceed hr.spent (Nat.sub_eq_zero_iff_le.1 hl)⟩
  | @restarted r next address domain target followed events more result ha hr hh hn ih =>
    obtain ⟨further, ih⟩ := ih
    have hl : r.left - followed = next.left + 1 := Redirection.left_of_hop? hh
    have hspent := Spent.settle hr.spent (Nat.lt_of_sub_ne_zero (by omega))
    rw [Redirection.left_visit, show next.left = r.left - (followed + 1) by omega] at ih
    exact ⟨_, hspent.append ih⟩

end Client

namespace Service

variable {s t : Service} {env : Environment}

theorem AskedLegacy.spent {address : String} {settings : List UserSetting}
    {result : Except Failure (Response UserSetting)} {events : Record}
    (h : s.AskedLegacy env address settings result t events) :
    ∃ followed, Spent (Event.counts (.legacy address) Answer.sendsOn) Redirection.limit (.ofResult result)
      followed events := by
  have asked {url : Uri} {outcome : Except Failure LegacyAnswer} {events : Record}
      (hq : s.client.QueriedLegacy address url outcome events) :
      ∃ followed, Spent (Event.counts (.legacy address) Answer.sendsOn) Redirection.limit
        (.ofResult (outcome.map (LegacyAnswer.toResponse address settings))) followed events := by
    cases outcome with
    | error e =>
      obtain ⟨he, hnone⟩ := hq.of_error
      rw [Except.map, Ending.ofResult_error he]
      exact ⟨0, .of_not_counted hnone⟩
    | ok answer =>
      obtain ⟨event, rfl, -⟩ := hq.counted
      exact ⟨_, rfl, Nat.le_trans List.countP_le_length (by simp [Redirection.limit])⟩
  cases h with
  | unfound hl hd => exact hd.spent
  | found hl hd => exact hd.spent
  | unplaced hl hu => exact ⟨0, .of_not_counted (by simp)⟩
  | asked hl hu hq => exact asked hq
  | unnamed hl hu => exact ⟨0, .of_not_counted (by simp)⟩
  | askedAt hl hu hq => exact asked hq

end Service

end MailDiscovery
