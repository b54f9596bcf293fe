import MailDiscovery.Conversation

/-!
What a conversation adds to the record. A conversation meets a condition if, whatever was on record before, it only
adds events, and these satisfy the condition together with the result.
-/

namespace MailDiscovery.Conversation

variable {α β : Type} {env : Environment}

def Meets (env : Environment) (x : Conversation α) (P : α → Record → Prop) : Prop :=
  ∀ log, ∃ events, (x env log).2 = log ++ events ∧ P (x env log).1 events

/-- The condition is on all events from the beginning, of which some have been added before. -/
def MeetsAfter (env : Environment) (before : Record) (x : Conversation α) (P : α → Record → Prop) : Prop :=
  Meets env x fun a events => P a (before ++ events)

theorem Meets.mono {x : Conversation α} {P Q : α → Record → Prop} (h : Meets env x P)
    (hPQ : ∀ a events, P a events → Q a events) : Meets env x Q := by
  intro log
  obtain ⟨events, hlog, hP⟩ := h log
  exact ⟨events, hlog, hPQ _ _ hP⟩

theorem meets_pure {P : α → Record → Prop} {a : α} (h : P a []) : Meets env (pure a) P :=
  fun log => ⟨[], (List.append_nil log).symm, h⟩

theorem meets_done {P : α → Record → Prop} {a : α} {before : Record} (h : P a before) :
    MeetsAfter env before (pure a) P :=
  meets_pure ((List.append_nil before).symm ▸ h)

theorem Meets.bind {x : Conversation α} {f : α → Conversation β} {P : α → Record → Prop} {Q : β → Record → Prop}
    (hx : Meets env x P) (hf : ∀ a events, P a events → MeetsAfter env events (f a) Q) : Meets env (x >>= f) Q := by
  intro log
  obtain ⟨events, hlog, hP⟩ := hx log
  obtain ⟨more, hmore, hQ⟩ := hf _ _ hP (x env log).2
  refine ⟨events ++ more, ?_, hQ⟩
  rw [← List.append_assoc, ← hlog]
  exact hmore

theorem Meets.bindAfter {x : Conversation α} {f : α → Conversation β} {P : α → Record → Prop}
    {Q : β → Record → Prop} {before : Record} (hx : Meets env x P)
    (hf : ∀ a events, P a events → MeetsAfter env (before ++ events) (f a) Q) : MeetsAfter env before (x >>= f) Q := by
  apply hx.bind
  intro a events hP
  apply (hf a events hP).mono
  intro b more hQ
  rwa [List.append_assoc] at hQ

theorem Meets.map {x : Conversation α} {f : α → β} {P : α → Record → Prop} {Q : β → Record → Prop}
    (hx : Meets env x P) (h : ∀ a events, P a events → Q (f a) events) : Meets env (f <$> x) Q := by
  intro log
  obtain ⟨events, hlog, hP⟩ := hx log
  exact ⟨events, hlog, h _ _ hP⟩

theorem Meets.of_eq {x : Conversation α} {P : α → Record → Prop} (hx : Meets env x P) {a : α} {log events : Record}
    (h : x env log = (a, log ++ events)) : P a events := by
  obtain ⟨more, hmore, hP⟩ := hx log
  rw [h] at hmore hP
  rwa [List.append_cancel_left hmore]

theorem Meets.run {x : Conversation α} {P : α → Record → Prop} (hx : Meets env x P) (log : Record) :
    ∃ a events, x env log = (a, log ++ events) ∧ P a events := by
  obtain ⟨events, hlog, hP⟩ := hx log
  exact ⟨_, events, Prod.ext rfl hlog, hP⟩

theorem bind_of_eq {x : Conversation α} {a : α} {log after : Record} (h : x env log = (a, after))
    (f : α → Conversation β) : (x >>= f) env log = f a env after := by
  change f (x env log).1 env (x env log).2 = _
  rw [h]

theorem meets_send (request : Http.Request) :
    Meets env (send request) fun outcome events => events = [.exchange request outcome] :=
  fun _ => ⟨_, rfl, rfl⟩

theorem meets_lookUp (domain : String) :
    Meets env (lookUp domain) fun urls events => urls = env.directory domain ∧ events = [.directory domain] :=
  fun _ => ⟨_, rfl, rfl, rfl⟩

theorem meets_locate (domain : String) :
    Meets env (locate domain) fun host events => host = env.serviceHost domain ∧ events = [.records domain] :=
  fun _ => ⟨_, rfl, rfl, rfl⟩

theorem meets_approve (url : Uri) :
    Meets env (approve url) fun approved events =>
      approved = env.approves url.text ∧ events = [.approval url.text] :=
  fun _ => ⟨_, rfl, rfl, rfl⟩

end MailDiscovery.Conversation
