import MailDiscovery.Proofs.Run.Event
import MailDiscovery.Proofs.Run.Legacy
import MailDiscovery.Proofs.Search.Discipline

namespace MailDiscovery

open Conversation (Meets)

theorem Failure.isFatal_iff {e : Failure} : e.isFatal = true ↔ e = .tooManyRedirections := by
  cases e <;> simp [isFatal]

namespace Event

def isPlainProbe : Event → Bool
  | .exchange request _ => request.method == .get && request.url.scheme? == some .http
  | _ => false

def asksRecords : Event → Bool
  | .records _ => true
  | _ => false

theorem isPlainProbe_of_isPost {event : Event} (h : event.isPost = true) : event.isPlainProbe = false := by
  cases event with
  | exchange request outcome =>
    have hm : request.method = .post := by simpa [isPost] using h
    simp [isPlainProbe, hm]
  | directory domain => rfl
  | records domain => rfl
  | approval url => rfl

theorem asksRecords_of_isPost {event : Event} (h : event.isPost = true) : event.asksRecords = false := by
  cases event with
  | exchange request outcome => rfl
  | directory domain => rfl
  | records domain => cases h
  | approval url => rfl

end Event

namespace Record

def Direct (events : Record) : Prop :=
  ∀ event ∈ events, event.isPlainProbe = false ∧ event.asksRecords = false

theorem Direct.append {events more : Record} (h : Direct events) (hmore : Direct more) : Direct (events ++ more) :=
  fun event he => (List.mem_append.1 he).elim (h event) (hmore event)

theorem direct_nil : Direct [] := by
  simp [Direct]

theorem direct_of_isPost {events : Record} (h : ∀ event ∈ events, event.isPost = true) : Direct events :=
  fun event he => ⟨Event.isPlainProbe_of_isPost (h event he), Event.asksRecords_of_isPost (h event he)⟩

end Record

namespace Client

open Record (Direct direct_nil direct_of_isPost)

variable {c : Client} {env : Environment}

theorem Queried.isPost {q : Query} {url : Uri} {result : Except Failure Answer} {events : Record}
    (h : c.Queried q url result events) : ∀ event ∈ events, event.isPost = true := by
  cases h with
  | refused h => simp
  | unheard h => simp [Event.isPost, of_queryRequest h]
  | heard h hr => simp [Event.isPost, of_queryRequest h]

theorem Followed.isPost {q : Query} {left followed : Nat} {url : Uri} {outcome : Except Failure Served}
    {events : Record} (h : c.Followed q left url outcome followed events) :
    ∀ event ∈ events, event.isPost = true := by
  induction h with
  | failed h | served h | exceeded h | lost h => exact h.isPost
  | onward h hv ht hn ih => exact fun event he => (List.mem_append.1 he).elim (h.isPost event) (ih event)

theorem QueriedLegacy.isPost {address : String} {url : Uri} {result : Except Failure LegacyAnswer}
    {events : Record} (h : c.QueriedLegacy address url result events) : ∀ event ∈ events, event.isPost = true := by
  cases h with
  | failed h | answered h => exact h.isPost

theorem Probed.direct {url : Uri} {reply : Option Http.Response} {events : Record} (h : c.Probed url reply events)
    (hs : url.scheme? = some .https) : Direct events := by
  cases h with
  | unasked h => exact direct_nil
  | unheard h => simp [Direct, Event.isPlainProbe, Event.asksRecords, of_probeRequest? h, hs]
  | heard h => simp [Direct, Event.isPlainProbe, Event.asksRecords, of_probeRequest? h, hs]

theorem Surveyed.direct {left : Nat} {host : String} {result : Except Failure (Option (String × EndpointSet))}
    {events : Record} (h : c.Surveyed left host result events) : Direct events := by
  induction h with
  | nowhere hu => exact direct_nil
  | silent hu hp | lost hu hp | exceeded hu hp | bare hu hp | answered hu hp =>
    exact hp.direct (WellKnown.scheme?_of_legacyHttps? hu)
  | onward hu hp hr ht hn ih => exact (hp.direct (WellKnown.scheme?_of_legacyHttps? hu)).append ih

theorem Gated.direct {host : String} {result : Except Failure (Option Uri)} {events : Record}
    (h : c.Gated host result events) : Direct events := by
  cases h with
  | failed h | unanswered h | answered h => exact h.direct

theorem Attempted.direct {q : Query} {left followed : Nat} {host : String} {outcome : Except Failure Served}
    {events : Record} (h : c.Attempted q left host outcome followed events) : Direct events := by
  cases h with
  | failed hg | unusable hg => exact hg.direct
  | unserved hg hf | refused hg hf | served hg hf => exact hg.direct.append (direct_of_isPost hf.isPost)

theorem Pointed.asksRecords {q : Query} {domain : String} {url : Option Uri} {events : Record}
    (h : c.Pointed env q domain url events) : ∀ event ∈ events, event.asksRecords = false := by
  have probed {url : Uri} {reply : Option Http.Response} {events : Record} (h : c.Probed url reply events) :
      ∀ event ∈ events, event.asksRecords = false := by
    cases h <;> simp [Event.asksRecords]
  have approval (url : String) : (Event.approval url).asksRecords = false := rfl
  cases h with
  | nowhere hu => simp
  | silent hu hp | useless hu hp => exact probed hp
  | rejected hu hp | approved hu hp =>
    exact fun event he => (List.mem_append.1 he).elim (probed hp event) fun he => by
      rw [List.mem_singleton.1 he, approval]

variable {α ω ν ρ : Type} (c)

def sources (q : Query) (domain : String) (r : Redirection) (known : List String → Candidates α)
    (of : Origin → Option Uri → Candidates α) : List (Conversation (Candidates α)) :=
  [known <$> directoryUrls r domain,
    of .redirection <$> c.redirectCandidate q domain,
    of .records <$> recordCandidate domain]

theorem meets_sources (q : Query) (domain : String) (r : Redirection) (known : List String → Candidates α)
    (of : Origin → Option Uri → Candidates α) :
    ∀ source ∈ c.sources q domain r known of, Meets env source fun _ _ => True := by
  simp only [sources, List.forall_mem_cons]
  refine ⟨?_, ?_, ?_, by simp⟩
  · exact (meets_directoryUrls r domain).map fun _ _ _ => trivial
  · exact (c.meets_redirectCandidate q domain).map fun _ _ _ => trivial
  · exact (meets_recordCandidate domain).map fun _ _ _ => trivial

structure Stocked (env : Environment) (q : Query) (domain : String) (r : Redirection)
    (known : List String → Candidates α) (of : Origin → Option Uri → Candidates α) (stages : List (Stage α ω)) :
    Prop where
  listed : ∀ stage, stages[0]? = some stage → Direct stage.events ∧
    stage.candidates = known (if r.directory then env.directory domain else [])
  pointed : ∀ stage, stages[1]? = some stage → (∀ event ∈ stage.events, event.asksRecords = false) ∧
    ∃ url, c.Pointed env q domain url stage.finding ∧ stage.candidates = of .redirection url
  located : ∀ stage, stages[2]? = some stage →
    ∃ url, Located env domain url stage.finding ∧ stage.candidates = of .records url

variable {c} {d : Discipline α ω ν ρ} {q : Query} {domain : String} {r : Redirection}
  {known : List String → Candidates α} {of : Origin → Option Uri → Candidates α} {stages : List (Stage α ω)}

theorem stocked (hd : ∀ left candidate, Meets env (d.attempt left candidate) fun _ events => Direct events)
    {log : Record} {left : Nat} (h : d.Searched env log left (c.sources q domain r known of) stages) :
    c.Stocked env q domain r known of stages := by
  have attempts {i : Nat} {stage : Stage α ω} (hi : stages[i]? = some stage) :
      Direct (Attempt.record stage.attempts) := by
    intro event he
    obtain ⟨a, ha, he⟩ := List.mem_flatMap.1 he
    obtain ⟨log, left, hmade⟩ := h.made (List.mem_of_getElem? hi) ha
    exact (hd left a.candidate).of_eq hmade event he
  constructor
  · intro stage hi
    obtain ⟨source, log, hsource, hrun⟩ := h.source hi
    cases hsource
    have hmeets : Meets env (known <$> directoryUrls r domain) fun candidates events =>
        Direct events ∧ candidates = known (if r.directory then env.directory domain else []) := by
      apply (meets_directoryUrls r domain).map
      intro urls events hl
      cases hl with
      | asked hr => simp [hr, Direct, Event.isPlainProbe, Event.asksRecords]
      | unasked hr => simp [hr, direct_nil]
    have hfinding := hmeets.of_eq hrun
    exact ⟨hfinding.1.append (attempts hi), hfinding.2⟩
  · intro stage hi
    obtain ⟨source, log, hsource, hrun⟩ := h.source hi
    cases hsource
    have hmeets : Meets env (of .redirection <$> c.redirectCandidate q domain) fun candidates events =>
        ∃ url, c.Pointed env q domain url events ∧ candidates = of .redirection url :=
      (c.meets_redirectCandidate q domain).map fun url _ hp => ⟨url, hp, rfl⟩
    obtain ⟨url, hp, hurl⟩ := hmeets.of_eq hrun
    refine ⟨fun event he => ?_, url, hp, hurl⟩
    rcases List.mem_append.1 he with he | he
    · exact hp.asksRecords event he
    · exact (attempts hi event he).2
  · intro stage hi
    obtain ⟨source, log, hsource, hrun⟩ := h.source hi
    cases hsource
    have hmeets : Meets env (of .records <$> recordCandidate domain) fun candidates events =>
        ∃ url, Located env domain url events ∧ candidates = of .records url :=
      (meets_recordCandidate domain).map fun url _ hp => ⟨url, hp, rfl⟩
    exact hmeets.of_eq hrun

end Client

end MailDiscovery
