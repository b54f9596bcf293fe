import MailDiscovery.Proofs.Run.Event
import MailDiscovery.Service.Call

namespace MailDiscovery

namespace Response

def sendsOn {ν : Type} (r : Response ν) : Bool :=
  r.code == .redirectUrl || r.code == .redirectAddress

end Response

namespace LegacyAnswer

def sendsOn : LegacyAnswer → Bool
  | .redirectUrl _ => true
  | .redirectAddress _ => true
  | _ => false

end LegacyAnswer

namespace Answer

def sendsOn : Answer → Bool
  | .legacy answer => answer.sendsOn
  | .users c => c.code == .noError && c.responses.length == 1 && c.responses.any Response.sendsOn
  | .domains _ => false

end Answer

def Call.sendsOn : Call → Answer → Bool
  | .user _ _ => Answer.sendsOn
  | _ => fun _ => false

def Event.counts (q : Query) (sendsOn : Answer → Bool) (event : Event) : Bool :=
  (event.redirection? q).isSome || (event.answer? q).any sendsOn

inductive Detours : String → Record → Prop
  | nil {host : String} : Detours host []
  | cons {host next : String} {request : Http.Request} {response : Http.Response} {rest : Record}
      (hm : request.method = .get) (hu : WellKnown.legacyHttps? host = some request.url)
      (hr : response.isRedirection = true)
      (ht : (Client.redirectTarget? request.url response).bind Uri.host? = some next) (h : Detours next rest) :
      Detours host (.exchange request (.ok response) :: rest)

namespace Record

def EndsInDetours (events : Record) : Prop :=
  ∃ before host detours, events = before ++ detours ∧ detours.length = 11 ∧ Detours host detours

theorem EndsInDetours.append {events : Record} (h : EndsInDetours events) (before : Record) :
    EndsInDetours (before ++ events) := by
  obtain ⟨first, host, detours, rfl, hlength, h⟩ := h
  exact ⟨before ++ first, host, detours, (List.append_assoc ..).symm, hlength, h⟩

end Record

inductive Ending where
  | settled
  | pending
  | exceeded

/-- What a run that may follow `left` redirections leaves, if it has followed some of them. -/
def Spent (p : Event → Bool) (left : Nat) : Ending → Nat → Record → Prop
  | .settled, followed, events => events.countP p = followed ∧ followed ≤ left
  | .pending, followed, events =>
    ∃ before event, events = before ++ [event] ∧ p event = true ∧ before.countP p = followed ∧ followed ≤ left
  | .exceeded, _, events =>
    (∃ before event, events = before ++ [event] ∧ p event = true ∧ before.countP p = left) ∨
      (events.countP p ≤ left ∧ Record.EndsInDetours events)

namespace Spent

variable {p : Event → Bool} {left followed further : Nat} {ending : Ending} {events more : Record}

theorem append (h : Spent p left .settled followed events) (hmore : Spent p (left - followed) ending further more) :
    Spent p left ending (followed + further) (events ++ more) := by
  obtain ⟨hcount, hle⟩ := h
  cases ending with
  | settled =>
    obtain ⟨hmore, hfurther⟩ := hmore
    refine ⟨?_, by omega⟩
    rw [List.countP_append, hcount, hmore]
  | pending =>
    obtain ⟨before, event, rfl, hp, hbefore, hfurther⟩ := hmore
    refine ⟨events ++ before, event, (List.append_assoc ..).symm, hp, ?_, by omega⟩
    rw [List.countP_append, hcount, hbefore]
  | exceeded =>
    rcases hmore with ⟨before, event, rfl, hp, hbefore⟩ | ⟨hcountMore, hend⟩
    · left
      refine ⟨events ++ before, event, (List.append_assoc ..).symm, hp, ?_⟩
      rw [List.countP_append, hcount, hbefore]
      omega
    · right
      refine ⟨?_, hend.append events⟩
      rw [List.countP_append, hcount]
      omega

theorem of_not_counted (h : ∀ event ∈ events, p event = false) : Spent p left .settled 0 events := by
  refine ⟨?_, Nat.zero_le left⟩
  rw [List.countP_eq_zero]
  exact fun event he => by simp [h event he]

theorem append_of_not_counted (h : ∀ event ∈ events, p event = false) (hmore : Spent p left ending further more) :
    Spent p left ending further (events ++ more) := by
  have hfirst : Spent p left .settled 0 events := of_not_counted h
  have hall := hfirst.append hmore
  rwa [Nat.zero_add] at hall

theorem cons_counted {event : Event} (hp : p event = true) (hmore : Spent p left ending further more) :
    Spent p (left + 1) ending (further + 1) ([event] ++ more) := by
  have first : Spent p (left + 1) .settled 1 [event] := ⟨by simp [hp], by omega⟩
  rw [Nat.add_comm further]
  exact first.append hmore

theorem pending_of_counted {event : Event} (hp : p event = true) : Spent p left .pending 0 [event] :=
  ⟨[], event, rfl, hp, rfl, Nat.zero_le left⟩

theorem exceeded_of_counted {event : Event} (hp : p event = true) : Spent p 0 .exceeded followed [event] :=
  .inl ⟨[], event, rfl, hp, rfl⟩

theorem settle (h : Spent p left .pending followed events) (hlt : followed < left) :
    Spent p left .settled (followed + 1) events := by
  obtain ⟨before, event, rfl, hp, hbefore, -⟩ := h
  refine ⟨?_, hlt⟩
  rw [List.countP_append, hbefore]
  simp [hp]

theorem exceed (h : Spent p left .pending followed events) (hle : left ≤ followed) :
    Spent p left .exceeded further events := by
  obtain ⟨before, event, rfl, hp, hbefore, hfollowed⟩ := h
  exact .inl ⟨before, event, rfl, hp, by omega⟩

end Spent

end MailDiscovery
