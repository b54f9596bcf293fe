import MailDiscovery.Proofs.HopBudget.Legacy
import MailDiscovery.Proofs.Run.Call

namespace MailDiscovery

theorem Spent.of_limit_le {p : Event → Bool} {left followed : Nat} {ending : Ending} {before after : Record}
    {event : Event} (h : Spent p left ending followed (before ++ event :: after)) (he : ending ≠ .pending)
    (hp : p event = true) (hle : left ≤ before.countP p) :
    ending = .exceeded ∧ before.countP p = left ∧ after = [] := by
  have hcount : (before ++ event :: after).countP p = before.countP p + (after.countP p + 1) := by
    rw [List.countP_append, List.countP_cons_of_pos hp]
  cases ending with
  | settled =>
    obtain ⟨hsettled, hfollowed⟩ := h
    omega
  | pending => exact absurd rfl he
  | exceeded =>
    rcases h with ⟨first, last, heq, hlast, hfirst⟩ | ⟨hover, -⟩
    · have hlength : (first ++ [last]).countP p = left + 1 := by
        rw [List.countP_append, hfirst]
        simp [hlast]
      rw [heq, hlength] at hcount
      refine ⟨rfl, by omega, ?_⟩
      -- What comes after would have to end with the last redirection.
      rcases List.eq_nil_or_concat after with rfl | ⟨rest, other, rfl⟩
      · rfl
      · rw [List.concat_eq_append, ← List.cons_append, ← List.append_assoc] at heq
        obtain ⟨-, hother⟩ := List.append_inj' heq rfl
        rw [List.singleton_inj.1 hother] at hcount
        simp [hlast] at hcount
        omega
    · omega

theorem Ending.ofResult_ne_pending {α : Type} (result : Except Failure α) : ofResult result ≠ .pending := by
  cases result with
  | ok a => simp [ofResult]
  | error e =>
    simp only [ofResult]
    split <;> simp

theorem Ending.ofResult_exceeded {α : Type} {result : Except Failure α} (h : ofResult result = .exceeded) :
    result = .error .tooManyRedirections := by
  cases result with
  | ok a => cases h
  | error e =>
    simp only [ofResult] at h
    split at h
    · rename_i he
      rw [Failure.eq_of_isFatal he]
    · cases h

namespace Service

variable {s t : Service} {env : Environment}

theorem Collected.spent {ν : Type} {q : Query} {select : Answer → Except Failure (Collection ν)}
    {identities : List String} {domain : String} {result : Except Failure (Collection ν)} {events : Record}
    (hq : q.isSoap = true) (hs : ∀ answer e, select answer = .error e → e.isPlain = true)
    (h : s.Collected env q select identities domain result t events) :
    ∃ followed, Spent (Event.counts q fun _ => false) Redirection.limit (.ofResult result) followed events := by
  cases h with
  | unresolved hr => exact ⟨_, hr.spent hq (by simp)⟩
  | @resolved t answer followed events result hr hsel =>
    have hspent : Spent (Event.counts q fun _ => false) _ _ _ _ := hr.spent hq (by simp)
    suffices heq : Ending.ofResult result = .settled by
      rw [heq]
      exact ⟨_, hspent⟩
    subst hsel
    cases hc : select answer with
    | error e => exact Ending.ofResult_error (Failure.isFatal_of_isPlain (hs _ _ hc))
    | ok c =>
      simp only [bind, Except.bind, Collection.assign]
      split <;> rfl

theorem Performed.spent {call : Call} {result : Except Failure Reply} {events : Record}
    (h : s.Performed env call result t events) :
    ∃ followed, Spent (Event.counts (call.query s.client.config.version) call.sendsOn) Redirection.limit
      (.ofResult result) followed events := by
  have rejected {p : Event → Bool} {e : Failure} (he : e.isPlain = true) :
      ∃ followed, Spent p Redirection.limit (.ofResult (.error e : Except Failure Reply)) followed [] := by
    rw [Ending.ofResult_error (Failure.isFatal_of_isPlain he)]
    exact ⟨0, .of_not_counted (by simp)⟩
  have mapped {α : Type} {f : α → Reply} {result : Except Failure α} :
      Ending.ofResult (result.map f) = .ofResult result := by
    cases result <;> rfl
  cases h with
  | blankAddress hb => exact rejected rfl
  | noSettings hb hs => exact rejected rfl
  | rounds hb hs hv hr =>
    rw [mapped, Call.query, if_pos hv]
    exact hr.spent
  | legacy hb hs hv hr =>
    rw [mapped, Call.query, if_neg (by simp [hv])]
    exact hr.spent
  | noUsers hc => exact rejected (isPlain_of_checkUsers hc)
  | users hc hr =>
    rw [mapped]
    exact hr.spent rfl fun _ _ => Answer.isPlain_of_users?
  | noDomains hc => exact rejected (isPlain_of_checkDomains hc)
  | domains hc hr =>
    rw [mapped]
    exact hr.spent rfl fun _ _ => Answer.isPlain_of_domains?
  | noDomain hc => exact rejected (isPlain_of_checkDomains hc)
  | @domain _ _ _ _ result _ _ hc hr =>
    have hspent := hr.spent rfl fun _ _ => Answer.isPlain_of_domains?
    rw [mapped]
    cases result with
    | error e => exact hspent
    | ok c =>
      suffices heq : Ending.ofResult (c.sole .noDomainResponse) = .settled by
        change ∃ followed, Spent _ _ (Ending.ofResult (c.sole .noDomainResponse)) _ _
        rw [heq]
        exact hspent
      unfold Collection.sole Collection.check
      split
      · cases c.responses <;> rfl
      · rfl

/-- Of the redirections that a call receives, at most ten come before another. With an eleventh the call ends, and it
ends so only with an eleventh, or with eleven of them for a single probe of capabilities. -/
theorem redirections_bounded (s : Service) (call : Call) (env : Environment) (log : Record) :
    ∃ events, (s.perform call env log).2 = log ++ events ∧
      (∀ before event after, events = before ++ event :: after →
        event.counts (call.query s.client.config.version) call.sendsOn = true →
        before.countP (Event.counts (call.query s.client.config.version) call.sendsOn) ≤ 10 ∧
          (before.countP (Event.counts (call.query s.client.config.version) call.sendsOn) = 10 →
            after = [] ∧ (s.perform call env log).1.1 = .error .tooManyRedirections)) ∧
      ((s.perform call env log).1.1 = .error .tooManyRedirections →
        events.countP (Event.counts (call.query s.client.config.version) call.sendsOn) = 11 ∨
          events.EndsInDetours) := by
  obtain ⟨events, hlog, hrun⟩ := s.meets_perform call log
  obtain ⟨followed, hspent⟩ := hrun.spent
  refine ⟨events, hlog, ?_, ?_⟩
  · rintro before event after rfl hp
    have last (hle : 10 ≤ before.countP (Event.counts (call.query s.client.config.version) call.sendsOn)) :=
      hspent.of_limit_le (Ending.ofResult_ne_pending _) hp hle
    refine ⟨?_, fun heq => ?_⟩
    · apply Nat.le_of_not_lt
      intro hlt
      have heq := (last (Nat.le_of_lt hlt)).2.1
      simp only [Redirection.limit] at heq
      omega
    · obtain ⟨hover, -, hafter⟩ := last (by omega)
      exact ⟨hafter, Ending.ofResult_exceeded hover⟩
  · intro hresult
    rw [hresult] at hspent
    rcases hspent with ⟨before, event, rfl, hp, hbefore⟩ | ⟨-, hend⟩
    · left
      rw [List.countP_append, hbefore]
      simp [hp, Redirection.limit]
    · exact .inr hend

end Service

end MailDiscovery
