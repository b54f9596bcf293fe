import MailDiscovery.Proofs.Run.Query
import MailDiscovery.Service.Assignment

namespace MailDiscovery

namespace Client

open Conversation (Meets meets_pure meets_done meets_lookUp meets_locate meets_approve)

variable {env : Environment} (c : Client)

inductive Followed (q : Query) : Nat → Uri → Except Failure Served → Nat → Record → Prop
  | failed {left : Nat} {url : Uri} {e : Failure} {events : Record} (h : c.Queried q url (.error e) events) :
      Followed q left url (.error e) 0 events
  | served {left : Nat} {url : Uri} {answer : Answer} {events : Record} (h : c.Queried q url (.ok answer) events)
      (hv : ∀ target, answer.verdict ≠ .redirectUrl target) : Followed q left url (.ok ⟨answer, url⟩) 0 events
  | exceeded {url : Uri} {answer : Answer} {target : String} {events : Record}
      (h : c.Queried q url (.ok answer) events) (hv : answer.verdict = .redirectUrl target) :
      Followed q 0 url (.error .tooManyRedirections) 0 events
  | lost {left : Nat} {url : Uri} {answer : Answer} {target : String} {events : Record}
      (h : c.Queried q url (.ok answer) events) (hv : answer.verdict = .redirectUrl target)
      (ht : Uri.ofText? target = none) : Followed q (left + 1) url (.error .invalidUrl) 1 events
  | onward {left followed : Nat} {url next : Uri} {answer : Answer} {target : String} {events more : Record}
      {outcome : Except Failure Served} (h : c.Queried q url (.ok answer) events)
      (hv : answer.verdict = .redirectUrl target) (ht : Uri.ofText? target = some next)
      (hn : Followed q left next outcome followed more) :
      Followed q (left + 1) url outcome (followed + 1) (events ++ more)

theorem meets_follow (q : Query) (left : Nat) (url : Uri) :
    Meets env (c.follow q left url) fun result events => c.Followed q left url result.1 result.2 events := by
  rw [follow]
  apply (c.meets_query q url).bind
  rintro (e | answer) events h
  · exact meets_done (.failed h)
  dsimp only
  split
  · rename_i target hv
    cases left with
    | zero => exact meets_done (.exceeded h hv)
    | succ left =>
      dsimp only
      split
      · exact meets_done (.lost h hv ‹_›)
      · rename_i next ht
        apply (meets_follow q left next).bindAfter
        rintro ⟨outcome, followed⟩ more hn
        exact meets_done (.onward h hv ht hn)
  · rename_i hv
    exact meets_done (.served h fun target => hv target)

inductive Attempted (q : Query) (left : Nat) (host : String) : Except Failure Served → Nat → Record → Prop
  | failed {e : Failure} {events : Record} (hg : c.Gated host (.error e) events) :
      Attempted q left host (.error e) 0 events
  | unusable {events : Record} (hg : c.Gated host (.ok none) events) :
      Attempted q left host (.error (.noUsableEndpoint host)) 0 events
  | unserved {url : Uri} {e : Failure} {followed : Nat} {events more : Record}
      (hg : c.Gated host (.ok (some url)) events) (hf : c.Followed q left url (.error e) followed more) :
      Attempted q left host (.error e) followed (events ++ more)
  | refused {url : Uri} {served : Served} {e : Failure} {followed : Nat} {events more : Record}
      (hg : c.Gated host (.ok (some url)) events) (hf : c.Followed q left url (.ok served) followed more)
      (hc : served.answer.check = .error e) : Attempted q left host (.error e) followed (events ++ more)
  | served {url : Uri} {served : Served} {followed : Nat} {events more : Record}
      (hg : c.Gated host (.ok (some url)) events) (hf : c.Followed q left url (.ok served) followed more)
      (hc : served.answer.check = .ok ()) : Attempted q left host (.ok served) followed (events ++ more)

theorem meets_attempt (q : Query) (left : Nat) (host : String) :
    Meets env (c.attempt q left host) fun result events => c.Attempted q left host result.1 result.2 events := by
  unfold attempt
  apply (c.meets_endpoint host).bind
  rintro (e | _ | url) events hg
  · exact meets_done (.failed hg)
  · exact meets_done (.unusable hg)
  apply (c.meets_follow q left url).bindAfter
  rintro ⟨e | served, followed⟩ more hf
  · exact meets_done (.unserved hg hf)
  · apply meets_done
    cases hc : served.answer.check with
    | error e => simpa only [Except.bind, Except.map, hc] using .refused hg hf hc
    | ok _ => simpa only [Except.bind, Except.map, hc] using .served hg hf hc

inductive Tried (q : Query) : Nat → Option Failure → List (Candidate String) → Search Served → Nat → Record → Prop
  | exhausted {left : Nat} {last : Option Failure} : Tried q left last [] (.exhausted last) 0 []
  | found {left followed : Nat} {last : Option Failure} {candidate : Candidate String}
      {rest : List (Candidate String)} {served : Served} {events : Record}
      (h : c.Attempted q left candidate.target (.ok served) followed events) :
      Tried q left last (candidate :: rest) (.found served candidate.origin) followed events
  | failed {left followed : Nat} {last : Option Failure} {candidate : Candidate String}
      {rest : List (Candidate String)} {e : Failure} {events : Record}
      (h : c.Attempted q left candidate.target (.error e) followed events) (he : e.isFatal = true) :
      Tried q left last (candidate :: rest) (.failed e) followed events
  | next {left followed further : Nat} {last : Option Failure} {candidate : Candidate String}
      {rest : List (Candidate String)} {e : Failure} {search : Search Served} {events more : Record}
      (h : c.Attempted q left candidate.target (.error e) followed events) (he : e.isFatal = false)
      (hn : Tried q (left - followed) (some e) rest search further more) :
      Tried q left last (candidate :: rest) search (followed + further) (events ++ more)

theorem meets_tryHosts (q : Query) (left : Nat) (last : Option Failure) (candidates : List (Candidate String)) :
    Meets env (c.tryHosts q left last candidates) fun result events =>
      c.Tried q left last candidates result.1 result.2 events := by
  induction candidates generalizing left last with
  | nil => exact meets_pure .exhausted
  | cons candidate rest ih =>
    rw [tryHosts]
    apply (c.meets_attempt q left candidate.target).bind
    rintro ⟨e | served, followed⟩ events h
    · dsimp only
      split
      · exact meets_done (.failed h ‹_›)
      · rename_i he
        apply (ih (left - followed) (some e)).bindAfter
        rintro ⟨search, further⟩ more hn
        exact meets_done (.next h (Bool.eq_false_iff.2 he) hn)
    · exact meets_done (.found h)

inductive Pointed (env : Environment) (q : Query) (domain : String) : Option Uri → Record → Prop
  | nowhere (hu : WellKnown.legacyHttp? ("autodiscover." ++ domain) = none) : Pointed env q domain none []
  | silent {url : Uri} {events : Record} (hu : WellKnown.legacyHttp? ("autodiscover." ++ domain) = some url)
      (hp : c.Probed url none events) : Pointed env q domain none events
  | useless {url : Uri} {response : Http.Response} {events : Record}
      (hu : WellKnown.legacyHttp? ("autodiscover." ++ domain) = some url)
      (hp : c.Probed url (some response) events)
      (h : ∀ target, response.isRedirection = true → redirectTarget? url response = some target →
        q.accepts target = false) : Pointed env q domain none events
  | rejected {url target : Uri} {response : Http.Response} {events : Record}
      (hu : WellKnown.legacyHttp? ("autodiscover." ++ domain) = some url)
      (hp : c.Probed url (some response) events) (hr : response.isRedirection = true)
      (ht : redirectTarget? url response = some target) (ha : q.accepts target = true)
      (hv : env.approves target.text = false) : Pointed env q domain none (events ++ [.approval target.text])
  | approved {url target : Uri} {response : Http.Response} {events : Record}
      (hu : WellKnown.legacyHttp? ("autodiscover." ++ domain) = some url)
      (hp : c.Probed url (some response) events) (hr : response.isRedirection = true)
      (ht : redirectTarget? url response = some target) (ha : q.accepts target = true)
      (hv : env.approves target.text = true) :
      Pointed env q domain (some target) (events ++ [.approval target.text])

theorem meets_approved (url : Uri) :
    Meets env (approved url) fun result events =>
      result = (if env.approves url.text then some url else none) ∧ events = [.approval url.text] := by
  unfold approved
  apply (meets_approve url).bind
  rintro approves _ ⟨rfl, rfl⟩
  split <;> exact meets_done ⟨rfl, rfl⟩

theorem meets_redirectCandidate (q : Query) (domain : String) :
    Meets env (c.redirectCandidate q domain) (c.Pointed env q domain) := by
  unfold redirectCandidate
  split
  · exact meets_pure (.nowhere ‹_›)
  rename_i url hu
  apply (c.meets_probe url).bind
  rintro (_ | response) events hp
  · exact meets_done (.silent hu hp)
  dsimp only
  split
  · rename_i hr
    split
    · rename_i ht
      exact meets_done (.useless hu hp fun target _ h => by simp [ht] at h)
    · rename_i target ht
      split
      · rename_i ha
        apply (meets_approved target).mono
        rintro result more ⟨rfl, rfl⟩
        split
        · exact .approved hu hp hr ht ha ‹_›
        · exact .rejected hu hp hr ht ha (Bool.eq_false_iff.2 ‹_›)
      · rename_i ha
        have useless (other : Uri) (h : redirectTarget? url response = some other) : q.accepts other = false := by
          rw [ht, Option.some.injEq] at h
          exact h ▸ Bool.eq_false_iff.2 ha
        exact meets_done (.useless hu hp fun other _ => useless other)
  · rename_i hr
    exact meets_done (.useless hu hp fun _ h _ => absurd h hr)

inductive Located (env : Environment) (domain : String) : Option Uri → Record → Prop
  | nowhere (h : (env.serviceHost domain).bind WellKnown.legacyHttps? = none) :
      Located env domain none [.records domain]
  | rejected {url : Uri} (h : (env.serviceHost domain).bind WellKnown.legacyHttps? = some url)
      (hv : env.approves url.text = false) : Located env domain none [.records domain, .approval url.text]
  | approved {url : Uri} (h : (env.serviceHost domain).bind WellKnown.legacyHttps? = some url)
      (hv : env.approves url.text = true) : Located env domain (some url) [.records domain, .approval url.text]

theorem meets_recordCandidate (domain : String) :
    Meets env (recordCandidate domain) (Located env domain) := by
  unfold recordCandidate
  apply (meets_locate domain).bind
  rintro host _ ⟨rfl, rfl⟩
  split
  · rename_i hh
    exact meets_done (.nowhere (by rw [hh]; rfl))
  · rename_i host hh
    split
    · rename_i hu
      exact meets_done (.nowhere (by rw [hh]; exact hu))
    · rename_i url hu
      have h : (env.serviceHost domain).bind WellKnown.legacyHttps? = some url := by rw [hh]; exact hu
      apply (meets_approved url).mono
      rintro result more ⟨rfl, rfl⟩
      split
      · exact .approved h ‹_›
      · exact .rejected h (Bool.eq_false_iff.2 ‹_›)

inductive FellBack (q : Query) (left : Nat) (origin : Origin) (P : Option Uri → Record → Prop) :
    Search Served → Nat → Search Served → Nat → Record → Prop
  | settled {search : Search Served} {followed : Nat} (h : ∀ last, search ≠ .exhausted last) :
      FellBack q left origin P search followed search followed []
  | tried {last : Option Failure} {url : Option Uri} {search : Search Served} {followed further : Nat}
      {events more : Record} (hp : P url events)
      (ht : c.Tried q (left - followed) last ((url.bind Uri.host?).toList.map (⟨·, origin⟩)) search further more) :
      FellBack q left origin P (.exhausted last) followed search (followed + further) (events ++ more)

theorem meets_fallBack (q : Query) (left : Nat) (origin : Origin) {candidate : Conversation (Option Uri)}
    {P : Option Uri → Record → Prop} (hP : Meets env candidate P) (search : Search Served) (followed : Nat) :
    Meets env (c.fallBack q left origin candidate (search, followed)) fun result events =>
      c.FellBack q left origin P search followed result.1 result.2 events := by
  unfold fallBack
  split
  · rename_i heq
    cases heq
    apply hP.bind
    rintro url events hp
    apply (c.meets_tryHosts q (left - followed) _ _).bindAfter
    rintro ⟨search, further⟩ more ht
    exact meets_done (.tried hp ht)
  · rename_i hne
    exact meets_pure (.settled fun last h => hne last followed (h ▸ rfl))

inductive Listed (env : Environment) (r : Redirection) (domain : String) : List String → Record → Prop
  | asked (h : r.directory = true) : Listed env r domain (env.directory domain) [.directory domain]
  | unasked (h : r.directory = false) : Listed env r domain [] []

theorem meets_directoryUrls (r : Redirection) (domain : String) :
    Meets env (directoryUrls r domain) (Listed env r domain) := by
  unfold directoryUrls
  split
  · apply (meets_lookUp domain).mono
    rintro urls events ⟨rfl, rfl⟩
    exact .asked ‹_›
  · exact meets_pure (.unasked (Bool.eq_false_iff.2 ‹_›))

def knownHosts (listed : List String) (domain : String) : List (Candidate String) :=
  (listed.filterMap fun url => (Uri.ofText? url).bind Uri.host?).map (⟨·, .directory⟩) ++
    (WellKnown.hostGuesses domain).map (⟨·, .guess⟩)

inductive Discovered (env : Environment) (q : Query) (domain : String) (r : Redirection) :
    Search Served → Nat → Record → Prop
  | mk {listed : List String} {first second search : Search Served} {n₁ n₂ n : Nat} {es₀ es₁ es₂ es₃ : Record}
      (hl : Listed env r domain listed es₀) (ht : c.Tried q r.left none (knownHosts listed domain) first n₁ es₁)
      (hr : c.FellBack q r.left .redirection (c.Pointed env q domain) first n₁ second n₂ es₂)
      (hs : c.FellBack q r.left .records (Located env domain) second n₂ search n es₃) :
      Discovered env q domain r search n (es₀ ++ es₁ ++ es₂ ++ es₃)

theorem meets_discover (q : Query) (domain : String) (r : Redirection) :
    Meets env (c.discover q domain r) fun result events =>
      c.Discovered env q domain r result.1 result.2 events := by
  unfold discover
  apply (meets_directoryUrls r domain).bind
  rintro listed es₀ hl
  rw [bind_assoc]
  apply (c.meets_tryHosts q r.left none _).bindAfter
  rintro ⟨first, n₁⟩ es₁ ht
  apply (c.meets_fallBack q r.left .redirection (c.meets_redirectCandidate q domain) first n₁).bindAfter
  rintro ⟨second, n₂⟩ es₂ hr
  apply (c.meets_fallBack q r.left .records (meets_recordCandidate domain) second n₂).mono
  rintro ⟨search, n⟩ es₃ hs
  exact .mk hl ht hr hs

end Client

end MailDiscovery
