import MailDiscovery.Proofs.Search.Hosts
import MailDiscovery.Proofs.Search.Rounds

namespace MailDiscovery

namespace Client

variable (c : Client) {env : Environment}

structure HostsInOrder (env : Environment) (log : Record) (q : Query) (domain : String) (r : Redirection)
    (stages : List (Stage String (Except Failure Served))) (result : Except Failure (Answer × Service)) : Prop where
  searched : (c.hostSearch q).Searched env log r.left (c.hostSources q domain r) stages
  stocked : c.Stocked env q domain r (fun listed => knownHosts listed domain) hostOf stages
  ordered : (c.hostSearch q).FirstSuccess 3 stages
  succeeded : ∀ a ∈ Stage.allAttempts stages, ∀ served, a.outcome = .ok served →
    ∃ t, result = .ok (served.answer, t)
  failed : ∀ a ∈ Stage.allAttempts stages, ∀ e, a.outcome = .error e → e.isFatal = true → result = .error e
  unlocated : (∃ last, result = .error (.notLocated last)) ↔ stages.length = 3 ∧ (c.hostSearch q).Exhausted stages

theorem hostsInOrder {log : Record} {q : Query} {domain : String} {r : Redirection}
    {stages : List (Stage String (Except Failure Served))}
    (hs : (c.hostSearch q).Searched env log r.left (c.hostSources q domain r) stages) (s : Service) :
    c.HostsInOrder env log q domain r stages
      (s.conclude ((c.hostSearch q).outcome none (Stage.allAttempts stages))) := by
  have hordered : (c.hostSearch q).FirstSuccess 3 stages := hs.firstSuccess
  constructor
  case searched => exact hs
  case stocked => exact hostSources_stocked hs
  case ordered => exact hordered
  case succeeded =>
    intro a ha served ho
    have hc : (c.hostSearch q).conclusionOf? a = some (.ok (served, a.candidate.origin)) := by
      simp [Discipline.conclusionOf?, hostSearch, ho]
    rw [hordered.decided ha hc]
    exact ⟨_, rfl⟩
  case failed =>
    intro a ha e ho he
    have hc : (c.hostSearch q).conclusionOf? a = some (.error e) := by
      simp [Discipline.conclusionOf?, hostSearch, ho, he]
    rw [hordered.decided ha hc]
    rfl
  case unlocated =>
    rw [hordered.exhausted_iff, ← (c.hostSearch q).outcome_error_iff]
    generalize ho : (c.hostSearch q).outcome none (Stage.allAttempts stages) = outcome
    constructor
    · rintro ⟨last, hlast⟩
      rcases outcome with last | e | served
      · exact ⟨last, rfl⟩
      · -- The failure that ends a search is never that nothing was located.
        obtain ⟨before, a, after, -, hc⟩ := (c.hostSearch q).outcome_eq_ok ho
        rcases hostSearch_cases hc with ⟨served, -, he⟩ | he
        · cases he
        · cases he
          cases hlast
      · cases hlast
    · rintro ⟨last, hlast⟩
      rw [hlast]
      exact ⟨last, rfl⟩

structure SlotsInOrder (env : Environment) (round : Round) (result : Except Failure (Settings UserSetting × Origin)) :
    Prop where
  searched : ∃ log r domain, MailAddress.domain round.address = .ok domain ∧
    (c.slotSearch round.address).Searched env log r.left (c.slotSources round.address domain r) round.stages ∧
    c.Stocked env (.legacy round.address) domain r (fun listed => knownUrls listed domain) slotOf round.stages
  ordered : (c.slotSearch round.address).FirstSuccess 3 round.stages
  succeeded : ∀ a ∈ round.attempts, ∀ found, a.outcome = .answered (.settings found) →
    result = .ok (found, a.candidate.origin)
  failed : ∀ a ∈ round.attempts, ∀ e, (c.slotSearch round.address).conclusionOf? a = some (.failed e) →
    result = .error e

variable {c} {log : Record} {r : Redirection} {address : String} {rounds : List Round}
  {result : Except Failure (Settings UserSetting × Origin)}

theorem RoundsLegacy.slotsInOrder (h : c.RoundsLegacy env log r address rounds result) {round : Round}
    (hmem : round ∈ rounds) : c.SlotsInOrder env round result := by
  have hordered := h.firstSuccess hmem
  have decided {a : Attempt Uri LegacyOutcome} (ha : a ∈ round.attempts) {conclusion : LegacyConclusion}
      (hc : (c.slotSearch round.address).conclusionOf? a = some conclusion)
      {own : Except Failure (Settings UserSetting × Origin)}
      (hr : (LegacyStep.ofOutcome (.ok conclusion)).result? = some own) : result = own := by
    obtain ⟨earlier, later, heq⟩ := List.append_of_mem hmem
    have hstep : c.step round = .ofOutcome (.ok conclusion) := by
      rw [step, Round.attempts, hordered.decided ha hc]
    exact (h.result_of_step heq (hstep ▸ hr)).2
  constructor
  case ordered => exact hordered
  case searched =>
    obtain ⟨log, r, domain, hd, hs⟩ := h.searched hmem
    exact ⟨log, r, domain, hd, hs, slotSources_stocked hs⟩
  case succeeded =>
    intro a ha found ho
    have hc : (c.slotSearch round.address).conclusionOf? a = some (.found found a.candidate.origin) := by
      simp [Discipline.conclusionOf?, slotSearch, ho]
    exact decided ha hc rfl
  case failed =>
    intro a ha e hc
    exact decided ha hc rfl

theorem RoundsLegacy.unlocated_iff (h : c.RoundsLegacy env log r address rounds result) :
    (∃ failures : LegacyFailures, result = .error failures.verdict) ↔
      ∃ earlier round, rounds = earlier ++ [round] ∧ round.stages.length = 3 ∧
        (c.slotSearch round.address).Exhausted round.stages := by
  constructor
  · rintro ⟨failures, hresult⟩
    have hkind : (∃ last, result = .error (.notLocated last)) ∨ ∃ e, result = .error (.directoryService e) := by
      rcases failures.verdict_cases rfl with ⟨hv, -⟩ | ⟨e, hv, -⟩
      · exact .inl ⟨_, hv ▸ hresult⟩
      · exact .inr ⟨e, hv ▸ hresult⟩
    rcases h.conclusion with
      ⟨earlier, round, heq, ⟨_, _, _, -, -, rfl⟩ | ⟨_, _, _, -, -, -, rfl⟩ | ⟨noted, ho, -⟩⟩ | rfl | ⟨e, rfl⟩
    · simp at hkind
    · simp at hkind
    · have hround : round ∈ rounds := by simp [heq]
      have hordered := h.firstSuccess hround
      exact ⟨earlier, round, heq, hordered.complete ((c.slotSearch round.address).outcome_error_iff.1 ⟨noted, ho⟩)⟩
    · simp at hkind
    · simp at hkind
  · rintro ⟨earlier, round, heq, hall⟩
    have hround : round ∈ rounds := by simp [heq]
    have hordered := h.firstSuccess hround
    rw [hordered.exhausted_iff, ← (c.slotSearch round.address).outcome_error_iff] at hall
    obtain ⟨failures, ho⟩ := hall
    have hr : (c.step round).result? = some (.error failures.verdict) := by
      rw [step, Round.attempts, ho]
      rfl
    exact ⟨failures, (h.result_of_step heq hr).2⟩

theorem discovery_takes_first_success (c : Client) (env : Environment) (log : Record) :
    (∀ isExternal q domain r, ∃ stages result followed, c.HostsInOrder env log q domain r stages result ∧
      (⟨c, .undetermined, isExternal⟩ : Service).resolve q domain r env log =
        ((result, followed), log ++ Stage.record stages)) ∧
    ∀ r address, ∃ rounds result, c.RoundsLegacy env log r address rounds result ∧
      c.discoverLegacy r address env log = (result, log ++ Round.record rounds) ∧
      (∀ round ∈ rounds, c.SlotsInOrder env round result) ∧
      ((∃ failures : LegacyFailures, result = .error failures.verdict) ↔
        ∃ earlier round, rounds = earlier ++ [round] ∧ round.stages.length = 3 ∧
          (c.slotSearch round.address).Exhausted round.stages) := by
  constructor
  · intro isExternal q domain r
    obtain ⟨stages, hs, hrun⟩ := Service.resolve_searched ⟨c, .undetermined, isExternal⟩ rfl q domain r log
    exact ⟨stages, _, _, c.hostsInOrder hs ⟨c, .undetermined, isExternal⟩, hrun⟩
  · intro r address
    obtain ⟨rounds, result, h, hrun⟩ := @discoverLegacy_rounds env c r address log
    exact ⟨rounds, result, h, hrun, fun round hmem => h.slotsInOrder hmem, h.unlocated_iff⟩

end Client

end MailDiscovery
