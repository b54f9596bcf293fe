import MailDiscovery.Proofs.Search.Sources

namespace MailDiscovery

open Conversation (Meets meets_done bind_of_eq)

variable {env : Environment}

/-- What a URL comes to that is tried again wherever it redirects to: an answer that names no other URL, a failure, a
redirection to what is no URL, or one that there is no redirection left for. -/
inductive LegacyOutcome where
  | answered (answer : LegacyAnswer)
  | failed (e : Failure)
  | lost (target : String)
  | exceeded

inductive LegacyConclusion where
  | found (settings : Settings UserSetting) (origin : Origin)
  | restart (address : String)
  | failed (e : Failure)

def LegacyStep.ofOutcome : Except LegacyFailures LegacyConclusion → LegacyStep
  | .ok (.found settings origin) => .found settings origin
  | .ok (.restart address) => .restart address
  | .ok (.failed e) => .failed e
  | .error failures => .exhausted failures

namespace Client

variable (c : Client) (address : String)

def followLegacy : (left : Nat) → (url : Uri) → Conversation (LegacyOutcome × Nat)
  | left, url => do
    match ← c.queryLegacy address url with
    | .error e => pure (.failed e, 0)
    | .ok (.redirectUrl target) =>
      match left with
      | 0 => pure (.exceeded, 0)
      | left + 1 =>
        match Uri.ofText? target with
        | none => pure (.lost target, 1)
        | some next => do
          let (outcome, followed) ← followLegacy left next
          pure (outcome, followed + 1)
    | .ok answer => pure (.answered answer, 0)

/-- Settings end the search, another address ends it for this one, and so does an error, unless a service from the
directory reports it. -/
def slotSearch : Discipline Uri LegacyOutcome LegacyFailures LegacyConclusion where
  attempt left candidate := c.followLegacy address left candidate.target
  conclusion? candidate
    | .answered (.settings found) => some (.found found candidate.origin)
    | .answered (.redirectAddress target) => some (.restart target)
    | .answered (.error e) => if candidate.origin = .directory then none else some (.failed (.legacyService e))
    | .answered (.redirectUrl _) => none
    | .failed e => if e.isFatal then some (.failed e) else none
    | .lost _ => none
    | .exceeded => some (.failed .tooManyRedirections)
  note failures _
    | .answered (.error e) => failures.keepFirst e
    | .failed e => { failures with last := some e }
    | _ => failures

theorem slotSearch_cases {c : Client} {address : String} {a : Attempt Uri LegacyOutcome}
    {conclusion : LegacyConclusion} (h : (c.slotSearch address).conclusionOf? a = some conclusion) :
    (∃ found, a.outcome = .answered (.settings found) ∧ conclusion = .found found a.candidate.origin) ∨
    (∃ target, a.outcome = .answered (.redirectAddress target) ∧ conclusion = .restart target) ∨
    (∃ e, a.outcome = .answered (.error e) ∧ a.candidate.origin ≠ .directory ∧
      conclusion = .failed (.legacyService e)) ∨
    conclusion = .failed .tooManyRedirections := by
  unfold Discipline.conclusionOf? slotSearch at h
  dsimp only at h
  split at h
  · rename_i found ho
    cases h
    exact .inl ⟨found, ho, rfl⟩
  · rename_i target ho
    cases h
    exact .inr (.inl ⟨target, ho, rfl⟩)
  · rename_i e ho
    split at h
    · cases h
    · rename_i horigin
      cases h
      exact .inr (.inr (.inl ⟨e, ho, horigin, rfl⟩))
  · cases h
  · split at h
    · rename_i hfatal
      cases h
      rw [Failure.isFatal_iff.1 hfatal]
      exact .inr (.inr (.inr rfl))
    · cases h
  · cases h
  · cases h
    exact .inr (.inr (.inr rfl))

def slotOf (origin : Origin) (url : Option Uri) : Candidates Uri :=
  url.toList.map (⟨·, origin⟩)

def slotSources (domain : String) (r : Redirection) : List (Conversation (Candidates Uri)) :=
  c.sources (.legacy address) domain r (fun listed => knownUrls listed domain) slotOf

def afterFollowing (left : Nat) (failures : LegacyFailures) (candidate : Candidate Uri) (rest : Candidates Uri)
    (p : LegacyOutcome × Nat) : Conversation (LegacyStep × Nat) :=
  match (c.slotSearch address).conclusion? candidate p.1 with
  | some result => pure (.ofOutcome (.ok result), p.2)
  | none => do
    let (step, further) ← c.tryLegacy address (left - p.2) ((c.slotSearch address).note failures candidate p.1) rest
    pure (step, p.2 + further)

theorem afterFollowing_succ (left followed : Nat) (failures : LegacyFailures) (candidate : Candidate Uri) (url : Uri)
    (rest : Candidates Uri) (outcome : LegacyOutcome) :
    (fun p => (p.1, p.2 + 1)) <$>
        c.afterFollowing address left failures { candidate with target := url } rest (outcome, followed) =
      c.afterFollowing address (left + 1) failures candidate rest (outcome, followed + 1) := by
  have horigin : (c.slotSearch address).conclusion? { candidate with target := url } outcome =
      (c.slotSearch address).conclusion? candidate outcome := rfl
  unfold afterFollowing
  rw [horigin, Nat.add_sub_add_right]
  cases (c.slotSearch address).conclusion? candidate outcome with
  | some result => rfl
  | none =>
    simp only [map_bind, map_pure, Nat.add_right_comm]
    rfl

theorem tryLegacy_cons (left : Nat) (failures : LegacyFailures) (candidate : Candidate Uri)
    (rest : Candidates Uri) :
    c.tryLegacy address left failures (candidate :: rest) =
      c.followLegacy address left candidate.target >>= c.afterFollowing address left failures candidate rest := by
  rw [tryLegacy, followLegacy, bind_assoc]
  apply bind_congr
  rintro (e | found | target | target | e)
  · simp only [pure_bind, afterFollowing, slotSearch]
    split
    · rfl
    · simp
  · rfl
  · cases left with
    | zero => rfl
    | succ left =>
      dsimp only
      cases Uri.ofText? target with
      | none =>
        simp [afterFollowing, slotSearch, Nat.add_comm]
      | some url =>
        dsimp only
        -- The URL takes the place of the candidate, with one redirection less to follow.
        rw [tryLegacy_cons left, bind_assoc, bind_assoc]
        apply bind_congr
        rintro ⟨outcome, followed⟩
        rw [pure_bind, ← afterFollowing_succ]
        rfl
  · rfl
  · simp only [pure_bind, afterFollowing, slotSearch]
    split
    · simp
    · rfl
termination_by left

theorem tryLegacy_eq (left : Nat) (failures : LegacyFailures) (candidates : Candidates Uri) :
    c.tryLegacy address left failures candidates =
      (fun p => (LegacyStep.ofOutcome p.1, p.2)) <$> (c.slotSearch address).tryAll left failures candidates := by
  induction candidates generalizing left failures with
  | nil =>
    rw [tryLegacy]
    rfl
  | cons candidate rest ih =>
    rw [tryLegacy_cons, Discipline.tryAll, map_bind]
    apply bind_congr
    rintro ⟨outcome, followed⟩
    unfold afterFollowing
    dsimp only
    cases (c.slotSearch address).conclusion? candidate outcome with
    | some result => rfl
    | none =>
      simp only [ih, map_bind, map_pure, bind_map_left]

theorem fallBackLegacy_eq (left : Nat) (origin : Origin) (candidate : Conversation (Option Uri))
    (p : Except LegacyFailures LegacyConclusion × Nat) :
    c.fallBackLegacy address left origin candidate (LegacyStep.ofOutcome p.1, p.2) =
      (fun p => (LegacyStep.ofOutcome p.1, p.2)) <$>
        (c.slotSearch address).proceed left [slotOf origin <$> candidate] p := by
  rcases p with ⟨failures | found | target | e, followed⟩
  · simp only [LegacyStep.ofOutcome, fallBackLegacy, Discipline.proceed, Discipline.search_single, map_eq_pure_bind,
      bind_assoc, pure_bind]
    apply bind_congr
    intro url
    rw [tryLegacy_eq]
    simp only [map_eq_pure_bind, bind_assoc, pure_bind]
    rfl
  · rfl
  · rfl
  · rfl

theorem legacyRound_eq (domain : String) (r : Redirection) :
    c.legacyRound address domain r =
      (fun p => (LegacyStep.ofOutcome p.1, p.2)) <$>
        (c.slotSearch address).search r.left {} (c.slotSources address domain r) := by
  have hrest (p : Except LegacyFailures LegacyConclusion × Nat) :=
    (c.slotSearch address).proceed_cons r.left
      (slotOf .redirection <$> c.redirectCandidate (.legacy address) domain)
      [slotOf .records <$> recordCandidate domain] p
  unfold legacyRound slotSources sources
  rw [Discipline.search_cons, funext hrest]
  simp only [tryLegacy_eq, fallBackLegacy_eq, map_bind, bind_map_left, bind_assoc]
  rfl

inductive FollowedLegacy : Nat → Uri → LegacyOutcome → Nat → Record → Prop
  | failed {left : Nat} {url : Uri} {e : Failure} {events : Record} (h : c.QueriedLegacy address url (.error e) events) :
      FollowedLegacy left url (.failed e) 0 events
  | answered {left : Nat} {url : Uri} {answer : LegacyAnswer} {events : Record}
      (h : c.QueriedLegacy address url (.ok answer) events) (ha : ∀ target, answer ≠ .redirectUrl target) :
      FollowedLegacy left url (.answered answer) 0 events
  | exceeded {url : Uri} {target : String} {events : Record}
      (h : c.QueriedLegacy address url (.ok (.redirectUrl target)) events) : FollowedLegacy 0 url .exceeded 0 events
  | lost {left : Nat} {url : Uri} {target : String} {events : Record}
      (h : c.QueriedLegacy address url (.ok (.redirectUrl target)) events) (ht : Uri.ofText? target = none) :
      FollowedLegacy (left + 1) url (.lost target) 1 events
  | onward {left followed : Nat} {url next : Uri} {target : String} {outcome : LegacyOutcome} {events more : Record}
      (h : c.QueriedLegacy address url (.ok (.redirectUrl target)) events) (ht : Uri.ofText? target = some next)
      (hn : FollowedLegacy left next outcome followed more) :
      FollowedLegacy (left + 1) url outcome (followed + 1) (events ++ more)

theorem meets_followLegacy (left : Nat) (url : Uri) :
    Meets env (c.followLegacy address left url) fun p events => c.FollowedLegacy address left url p.1 p.2 events := by
  rw [followLegacy]
  apply (c.meets_queryLegacy address url).bind
  rintro (e | found | target | target | e) events h
  · exact meets_done (.failed h)
  · exact meets_done (.answered h (by simp))
  · cases left with
    | zero => exact meets_done (.exceeded h)
    | succ left =>
      dsimp only
      split
      · exact meets_done (.lost h ‹_›)
      · rename_i next ht
        apply (meets_followLegacy left next).bindAfter
        rintro ⟨outcome, followed⟩ more hn
        exact meets_done (.onward h ht hn)
  · exact meets_done (.answered h (by simp))
  · exact meets_done (.answered h (by simp))

theorem legacyRound_searched (domain : String) (r : Redirection) (log : Record) :
    ∃ stages, (c.slotSearch address).Searched env log r.left (c.slotSources address domain r) stages ∧
      c.legacyRound address domain r env log =
        ((LegacyStep.ofOutcome ((c.slotSearch address).outcome {} (Stage.allAttempts stages)),
          Attempt.spent (Stage.allAttempts stages)), log ++ Stage.record stages) := by
  have hattempt (left : Nat) (candidate : Candidate Uri) :
      Meets env ((c.slotSearch address).attempt left candidate) fun _ _ => True :=
    (c.meets_followLegacy address left candidate.target).mono fun _ _ _ => trivial
  have hsources : ∀ source ∈ c.slotSources address domain r, Meets env source fun _ _ => True :=
    c.meets_sources (.legacy address) domain r _ _
  obtain ⟨stages, hstages, hrun⟩ := (c.slotSearch address).search_searched hattempt hsources log r.left {}
  refine ⟨stages, hstages, ?_⟩
  rw [legacyRound_eq, map_eq_pure_bind, bind_of_eq hrun]
  rfl

theorem FollowedLegacy.isPost {c : Client} {address : String} {left followed : Nat} {url : Uri}
    {outcome : LegacyOutcome} {events : Record} (h : c.FollowedLegacy address left url outcome followed events) :
    ∀ event ∈ events, event.isPost = true := by
  induction h with
  | failed h | answered h | exceeded h | lost h => exact h.isPost
  | onward h ht hn ih => exact fun event he => (List.mem_append.1 he).elim (h.isPost event) (ih event)

theorem slotSources_stocked {c : Client} {address domain : String} {r : Redirection} {log : Record} {left : Nat}
    {stages : List (Stage Uri LegacyOutcome)}
    (h : (c.slotSearch address).Searched env log left (c.slotSources address domain r) stages) :
    c.Stocked env (.legacy address) domain r (fun listed => knownUrls listed domain) slotOf stages := by
  refine stocked (fun left candidate => ?_) h
  apply (c.meets_followLegacy address left candidate.target).mono
  intro p events ha
  exact Record.direct_of_isPost ha.isPost

end Client

end MailDiscovery
