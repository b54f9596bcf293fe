import MailDiscovery.Proofs.Search.Sources

namespace MailDiscovery

open Conversation (Meets bind_of_eq)

variable {env : Environment}

def Search.ofOutcome : Except (Option Failure) (Except Failure (Served × Origin)) → Search Served
  | .ok (.ok (served, origin)) => .found served origin
  | .ok (.error e) => .failed e
  | .error last => .exhausted last

namespace Client

variable (c : Client) (q : Query)

def hostSearch : Discipline String (Except Failure Served) (Option Failure) (Except Failure (Served × Origin)) where
  attempt left candidate := c.attempt q left candidate.target
  conclusion? candidate
    | .ok served => some (.ok (served, candidate.origin))
    | .error e => if e.isFatal then some (.error e) else none
  note _ _
    | .ok _ => none
    | .error e => some e

theorem hostSearch_cases {c : Client} {q : Query} {a : Attempt String (Except Failure Served)}
    {result : Except Failure (Served × Origin)} (h : (c.hostSearch q).conclusionOf? a = some result) :
    (∃ served, a.outcome = .ok served ∧ result = .ok (served, a.candidate.origin)) ∨
      result = .error .tooManyRedirections := by
  unfold Discipline.conclusionOf? hostSearch at h
  dsimp only at h
  split at h
  · rename_i served ho
    cases h
    exact .inl ⟨served, ho, rfl⟩
  · split at h
    · rename_i hfatal
      cases h
      rw [Failure.isFatal_iff.1 hfatal]
      exact .inr rfl
    · cases h

def hostOf (origin : Origin) (url : Option Uri) : Candidates String :=
  (url.bind Uri.host?).toList.map (⟨·, origin⟩)

def hostSources (domain : String) (r : Redirection) : List (Conversation (Candidates String)) :=
  c.sources q domain r (fun listed => knownHosts listed domain) hostOf

theorem tryHosts_eq (left : Nat) (last : Option Failure) (candidates : Candidates String) :
    c.tryHosts q left last candidates =
      (fun p => (Search.ofOutcome p.1, p.2)) <$>
        (c.hostSearch q).tryAll left last candidates := by
  induction candidates generalizing left last with
  | nil => rfl
  | cons candidate rest ih =>
    rw [tryHosts, Discipline.tryAll, map_bind]
    apply bind_congr
    rintro ⟨e | served, followed⟩
    · dsimp only [hostSearch]
      split
      · rfl
      · rw [ih]
        simp only [map_eq_pure_bind, bind_assoc, pure_bind]
        rfl
    · rfl

theorem fallBack_eq (left : Nat) (origin : Origin) (candidate : Conversation (Option Uri))
    (p : Except (Option Failure) (Except Failure (Served × Origin)) × Nat) :
    c.fallBack q left origin candidate (Search.ofOutcome p.1, p.2) =
      (fun p => (Search.ofOutcome p.1, p.2)) <$>
        (c.hostSearch q).proceed left [hostOf origin <$> candidate] p := by
  rcases p with ⟨last | e | ⟨served, origin⟩, followed⟩
  · simp only [Search.ofOutcome, fallBack, Discipline.proceed, Discipline.search_single, map_eq_pure_bind, bind_assoc,
      pure_bind]
    apply bind_congr
    intro url
    rw [tryHosts_eq]
    simp only [map_eq_pure_bind, bind_assoc, pure_bind]
    rfl
  · rfl
  · rfl

theorem discover_eq (domain : String) (r : Redirection) :
    c.discover q domain r =
      (fun p => (Search.ofOutcome p.1, p.2)) <$>
        (c.hostSearch q).search r.left none (c.hostSources q domain r) := by
  have hrest (p : Except (Option Failure) (Except Failure (Served × Origin)) × Nat) :=
    (c.hostSearch q).proceed_cons r.left (hostOf .redirection <$> c.redirectCandidate q domain)
      [hostOf .records <$> recordCandidate domain] p
  unfold discover hostSources sources
  rw [Discipline.search_cons, funext hrest]
  simp only [tryHosts_eq, fallBack_eq, map_bind, bind_map_left, bind_assoc]
  rfl

theorem meets_hostSearch (left : Nat) (candidate : Candidate String) :
    Meets env ((c.hostSearch q).attempt left candidate) fun p events =>
      c.Attempted q left candidate.target p.1 p.2 events :=
  c.meets_attempt q left candidate.target

theorem discover_searched (domain : String) (r : Redirection) (log : Record) :
    ∃ stages, (c.hostSearch q).Searched env log r.left (c.hostSources q domain r) stages ∧
      c.discover q domain r env log =
        ((Search.ofOutcome ((c.hostSearch q).outcome none (Stage.allAttempts stages)),
          Attempt.spent (Stage.allAttempts stages)), log ++ Stage.record stages) := by
  have hattempt (left : Nat) (candidate : Candidate String) :
      Meets env ((c.hostSearch q).attempt left candidate) fun _ _ => True :=
    (c.meets_hostSearch q left candidate).mono fun _ _ _ => trivial
  have hsources : ∀ source ∈ c.hostSources q domain r, Meets env source fun _ _ => True :=
    c.meets_sources q domain r _ _
  obtain ⟨stages, hstages, hrun⟩ := (c.hostSearch q).search_searched hattempt hsources log r.left none
  refine ⟨stages, hstages, ?_⟩
  rw [discover_eq, map_eq_pure_bind, bind_of_eq hrun]
  rfl

theorem hostSources_stocked {c : Client} {q : Query} {domain : String} {r : Redirection} {log : Record} {left : Nat}
    {stages : List (Stage String (Except Failure Served))}
    (h : (c.hostSearch q).Searched env log left (c.hostSources q domain r) stages) :
    c.Stocked env q domain r (fun listed => knownHosts listed domain) hostOf stages := by
  refine stocked (fun left candidate => ?_) h
  apply (c.meets_hostSearch q left candidate).mono
  intro p events ha
  exact ha.direct

end Client

namespace Service

def conclude (s : Service) :
    Except (Option Failure) (Except Failure (Served × Origin)) → Except Failure (Answer × Service)
  | .ok (.ok (served, origin)) =>
    .ok (served.answer, { s.adopt served.url with isExternal := some (origin != .directory) })
  | .ok (.error e) => .error e
  | .error last => .error (.notLocated last)

theorem resolve_searched (s : Service) (hl : s.locator = .undetermined) (q : Query) (domain : String)
    (r : Redirection) (log : Record) :
    ∃ stages, (s.client.hostSearch q).Searched env log r.left (s.client.hostSources q domain r) stages ∧
      s.resolve q domain r env log =
        ((s.conclude ((s.client.hostSearch q).outcome none (Stage.allAttempts stages)),
          Attempt.spent (Stage.allAttempts stages)), log ++ Stage.record stages) := by
  obtain ⟨stages, hs, hrun⟩ := s.client.discover_searched q domain r log
  refine ⟨stages, hs, ?_⟩
  obtain ⟨client, locator, isExternal⟩ := s
  cases hl
  unfold resolve
  dsimp only
  rw [bind_of_eq hrun]
  rcases (client.hostSearch q).outcome none (Stage.allAttempts stages) with last | e | ⟨served, origin⟩
  · rfl
  · rfl
  · rfl

end Service

end MailDiscovery
