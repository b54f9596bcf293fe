import MailDiscovery.Proofs.Search.Slots
import MailDiscovery.Service.Call

namespace MailDiscovery

variable {env : Environment}

structure Round where
  address : String
  stages : List (Stage Uri LegacyOutcome)

namespace Round

def attempts (round : Round) : List (Attempt Uri LegacyOutcome) :=
  Stage.allAttempts round.stages

def record (rounds : List Round) : Record :=
  rounds.flatMap fun round => Stage.record round.stages

theorem record_cons (round : Round) (rounds : List Round) :
    record (round :: rounds) = Stage.record round.stages ++ record rounds :=
  List.flatMap_cons

end Round

def LegacyStep.result? : LegacyStep → Option (Except Failure (Settings UserSetting × Origin))
  | .found settings origin => some (.ok (settings, origin))
  | .restart _ => none
  | .failed e => some (.error e)
  | .exhausted failures => some (.error failures.verdict)

theorem LegacyFailures.verdict_cases {failures : LegacyFailures} {e : Failure} (h : failures.verdict = e) :
    e = .notLocated failures.last ∧ failures.directory = none ∨
      ∃ cause, e = .directoryService cause ∧ failures.directory = some cause := by
  unfold verdict at h
  split at h
  · rename_i cause hd
    exact .inr ⟨cause, h.symm, hd⟩
  · rename_i hd
    exact .inl ⟨h.symm, hd⟩

namespace Client

variable (c : Client)

def step (round : Round) : LegacyStep :=
  .ofOutcome ((c.slotSearch round.address).outcome {} round.attempts)

inductive RoundsLegacy (env : Environment) :
    Record → Redirection → String → List Round → Except Failure (Settings UserSetting × Origin) → Prop
  | unaddressed {log : Record} {r : Redirection} {address : String} {e : AddressError}
      (ha : MailAddress.domain address = .error e) :
      RoundsLegacy env log r address [] (.error (.invalidAddress e))
  | ended {log : Record} {r : Redirection} {address domain : String} {stages : List (Stage Uri LegacyOutcome)}
      {result : Except Failure (Settings UserSetting × Origin)} (ha : MailAddress.domain address = .ok domain)
      (hs : (c.slotSearch address).Searched env log r.left (c.slotSources address domain r) stages)
      (hr : (c.step ⟨address, stages⟩).result? = some result) :
      RoundsLegacy env log r address [⟨address, stages⟩] result
  | exceeded {log : Record} {r : Redirection} {address domain target : String}
      {stages : List (Stage Uri LegacyOutcome)} (ha : MailAddress.domain address = .ok domain)
      (hs : (c.slotSearch address).Searched env log r.left (c.slotSources address domain r) stages)
      (hr : c.step ⟨address, stages⟩ = .restart target)
      (hh : (r.spend (Attempt.spent (Stage.allAttempts stages))).hop? = none) :
      RoundsLegacy env log r address [⟨address, stages⟩] (.error .tooManyRedirections)
  | restarted {log : Record} {r next : Redirection} {address domain target : String}
      {stages : List (Stage Uri LegacyOutcome)} {rounds : List Round}
      {result : Except Failure (Settings UserSetting × Origin)} (ha : MailAddress.domain address = .ok domain)
      (hs : (c.slotSearch address).Searched env log r.left (c.slotSources address domain r) stages)
      (hr : c.step ⟨address, stages⟩ = .restart target)
      (hh : (r.spend (Attempt.spent (Stage.allAttempts stages))).hop? = some next)
      (hn : RoundsLegacy env (log ++ Stage.record stages) (next.visit target).1 (next.visit target).2 rounds result) :
      RoundsLegacy env log r address (⟨address, stages⟩ :: rounds) result

theorem discoverLegacy_rounds (r : Redirection) (address : String) (log : Record) :
    ∃ rounds result, c.RoundsLegacy env log r address rounds result ∧
      c.discoverLegacy r address env log = (result, log ++ Round.record rounds) := by
  rw [discoverLegacy]
  cases ha : MailAddress.domain address with
  | error e =>
    refine ⟨[], _, .unaddressed ha, ?_⟩
    rw [Round.record, List.flatMap_nil, List.append_nil]
    rfl
  | ok domain =>
    obtain ⟨stages, hs, hrun⟩ := c.legacyRound_searched address domain r log
    have hrecord : Round.record [⟨address, stages⟩] = Stage.record stages := by simp [Round.record]
    have hstep : c.legacyRound address domain r env log =
        ((c.step ⟨address, stages⟩, Attempt.spent (Stage.allAttempts stages)), log ++ Stage.record stages) := hrun
    dsimp only
    rw [Conversation.bind_of_eq hstep]
    cases hr : c.step ⟨address, stages⟩ with
    | found settings origin =>
      refine ⟨_, _, .ended ha hs (by rw [hr]; rfl), ?_⟩
      rw [hrecord]
      rfl
    | failed e =>
      refine ⟨_, _, .ended ha hs (by rw [hr]; rfl), ?_⟩
      rw [hrecord]
      rfl
    | exhausted failures =>
      refine ⟨_, _, .ended ha hs (by rw [hr]; rfl), ?_⟩
      rw [hrecord]
      rfl
    | restart target =>
      dsimp only
      generalize hh : (r.spend (Attempt.spent (Stage.allAttempts stages))).hop? = hop
      cases hop with
      | none =>
        refine ⟨_, _, .exceeded ha hs hr hh, ?_⟩
        rw [hrecord]
        rfl
      | some next =>
        obtain ⟨rounds, result, hrounds, hmore⟩ :=
          discoverLegacy_rounds (next.visit target).1 (next.visit target).2 (log ++ Stage.record stages)
        refine ⟨_, result, .restarted ha hs hr hh hrounds, ?_⟩
        rw [Round.record_cons, ← List.append_assoc]
        exact hmore
termination_by r.left
decreasing_by
  rw [Redirection.left_visit]
  exact Redirection.left_hop?_lt (by assumption)

namespace RoundsLegacy

variable {c} {log : Record} {r : Redirection} {address : String} {rounds : List Round}
  {result : Except Failure (Settings UserSetting × Origin)}

theorem first (h : c.RoundsLegacy env log r address rounds result) {domain : String}
    (hd : MailAddress.domain address = .ok domain) :
    ∃ stages rest, rounds = ⟨address, stages⟩ :: rest ∧
      (c.slotSearch address).Searched env log r.left (c.slotSources address domain r) stages := by
  cases h with
  | unaddressed ha =>
    rw [hd] at ha
    cases ha
  | ended ha hs hr | exceeded ha hs hr hh | restarted ha hs hr hh hn =>
    rw [hd] at ha
    cases ha
    exact ⟨_, _, rfl, hs⟩

theorem searched (h : c.RoundsLegacy env log r address rounds result) {round : Round} (hmem : round ∈ rounds) :
    ∃ log r domain, MailAddress.domain round.address = .ok domain ∧
      (c.slotSearch round.address).Searched env log r.left (c.slotSources round.address domain r) round.stages := by
  induction h with
  | unaddressed ha => simp at hmem
  | ended ha hs hr =>
    rw [List.mem_singleton.1 hmem]
    exact ⟨_, _, _, ha, hs⟩
  | exceeded ha hs hr hh =>
    rw [List.mem_singleton.1 hmem]
    exact ⟨_, _, _, ha, hs⟩
  | restarted ha hs hr hh hn ih =>
    rcases List.mem_cons.1 hmem with rfl | hmem
    · exact ⟨_, _, _, ha, hs⟩
    · exact ih hmem

theorem firstSuccess (h : c.RoundsLegacy env log r address rounds result) {round : Round} (hmem : round ∈ rounds) :
    (c.slotSearch round.address).FirstSuccess 3 round.stages := by
  obtain ⟨log, r, domain, -, hs⟩ := h.searched hmem
  exact hs.firstSuccess

theorem result_of_step (h : c.RoundsLegacy env log r address rounds result) {earlier later : List Round}
    {round : Round} (heq : rounds = earlier ++ round :: later)
    {found : Except Failure (Settings UserSetting × Origin)} (hr : (c.step round).result? = some found) :
    later = [] ∧ result = found := by
  have single {own : Round} {first : List Round} (heq : [own] = first ++ round :: later) :
      round = own ∧ later = [] := by
    cases first with
    | nil =>
      rw [List.nil_append, List.cons.injEq] at heq
      exact ⟨heq.1.symm, heq.2.symm⟩
    | cons other first => simp at heq
  induction h generalizing earlier with
  | unaddressed ha => simp at heq
  | ended ha hs hown =>
    obtain ⟨rfl, rfl⟩ := single heq
    rw [hr, Option.some.injEq] at hown
    exact ⟨rfl, hown.symm⟩
  | exceeded ha hs hown hh =>
    obtain ⟨rfl, rfl⟩ := single heq
    rw [hown] at hr
    cases hr
  | restarted ha hs hown hh hn ih =>
    cases earlier with
    | nil =>
      rw [List.nil_append, List.cons.injEq] at heq
      rw [← heq.1, hown] at hr
      cases hr
    | cons first earlier =>
      rw [List.cons_append, List.cons.injEq] at heq
      exact ih heq.2

theorem result_eq (h : c.RoundsLegacy env log r address rounds result) :
    (∃ earlier round, rounds = earlier ++ [round] ∧ (c.step round).result? = some result) ∨
      result = .error .tooManyRedirections ∨ ∃ e, result = .error (.invalidAddress e) := by
  induction h with
  | unaddressed ha => exact .inr (.inr ⟨_, rfl⟩)
  | ended ha hs hr => exact .inl ⟨[], _, rfl, hr⟩
  | exceeded ha hs hr hh => exact .inr (.inl rfl)
  | restarted ha hs hr hh hn ih =>
    rcases ih with ⟨earlier, round, rfl, hr⟩ | h
    · exact .inl ⟨_ :: earlier, round, rfl, hr⟩
    · exact .inr h

theorem conclusion (h : c.RoundsLegacy env log r address rounds result) :
    (∃ earlier round, rounds = earlier ++ [round] ∧
      ((∃ before a found, round.attempts = before ++ [a] ∧ a.outcome = .answered (.settings found) ∧
          result = .ok (found, a.candidate.origin)) ∨
        (∃ before a e, round.attempts = before ++ [a] ∧ a.outcome = .answered (.error e) ∧
          a.candidate.origin ≠ .directory ∧ result = .error (.legacyService e)) ∨
        ∃ failures, (c.slotSearch round.address).outcome {} round.attempts = .error failures ∧
          result = .error failures.verdict)) ∨
    result = .error .tooManyRedirections ∨ ∃ e, result = .error (.invalidAddress e) := by
  rcases h.result_eq with ⟨earlier, round, heq, hr⟩ | hr
  · have hround : round ∈ rounds := by simp [heq]
    have hordered := h.firstSuccess hround
    unfold step at hr
    cases ho : (c.slotSearch round.address).outcome {} round.attempts with
    | error failures =>
      rw [ho] at hr
      cases hr
      exact .inl ⟨earlier, round, heq, .inr (.inr ⟨failures, ho, rfl⟩)⟩
    | ok conclusion =>
      rw [ho] at hr
      obtain ⟨before, a, after, hsplit, hc⟩ := (c.slotSearch round.address).outcome_eq_ok ho
      -- No attempt follows the one that concludes the search, so it is the last of its round.
      obtain ⟨rfl, -⟩ := hordered.concluded hsplit hc {}
      rcases slotSearch_cases hc with ⟨found, ha, rfl⟩ | ⟨target, -, rfl⟩ | ⟨e, ha, horigin, rfl⟩ | rfl
      · cases hr
        exact .inl ⟨earlier, round, heq, .inl ⟨before, a, found, hsplit, ha, rfl⟩⟩
      · cases hr
      · cases hr
        exact .inl ⟨earlier, round, heq, .inr (.inl ⟨before, a, e, hsplit, ha, horigin, rfl⟩)⟩
      · cases hr
        exact .inr (.inl rfl)
  · exact .inr hr

end RoundsLegacy

end Client

namespace Service

variable (s : Service)

inductive CalledLegacy (env : Environment) (log : Record) (address : String) (settings : List UserSetting) :
    List Round → Except Failure Reply → Service → Prop
  | blank (hb : Text.isBlankText address = true) :
      CalledLegacy env log address settings [] (.error (.misuse .blankAddress)) s
  | unasked (hs : settings.isEmpty = true) :
      CalledLegacy env log address settings [] (.error (.misuse .noSettings)) s
  | failed {rounds : List Round} {e : Failure}
      (h : s.client.RoundsLegacy env log (.start (some address) s.client.config.directoryEnabled) address rounds
        (.error e)) : CalledLegacy env log address settings rounds (.error e) s
  | found {rounds : List Round} {found : Settings UserSetting} {origin : Origin}
      (h : s.client.RoundsLegacy env log (.start (some address) s.client.config.directoryEnabled) address rounds
        (.ok (found, origin))) :
      CalledLegacy env log address settings rounds
        (.ok (.user (LegacyAnswer.toResponse address settings (.settings found))))
        { s with isExternal := some (origin != .directory) }

theorem perform_calledLegacy (hl : s.locator = .undetermined) (hv : s.client.config.version.supportsSoap = false)
    (address : String) (settings : List UserSetting) (env : Environment) (log : Record) :
    ∃ rounds result t, s.CalledLegacy env log address settings rounds result t ∧
      s.perform (.user address settings) env log = ((result, t), log ++ Round.record rounds) := by
  have hnone : log = log ++ Round.record [] := (List.append_nil log).symm
  change ∃ rounds result t, _ ∧
    ((((s.userSettings address settings env log).1.1.map Reply.user, (s.userSettings address settings env log).1.2),
      (s.userSettings address settings env log).2) = ((result, t), log ++ Round.record rounds))
  unfold userSettings
  split
  · exact ⟨[], _, s, .blank ‹_›, Prod.ext rfl hnone⟩
  split
  · exact ⟨[], _, s, .unasked ‹_›, Prod.ext rfl hnone⟩
  obtain ⟨rounds, result, hrounds, hrun⟩ :=
    @Client.discoverLegacy_rounds env s.client (.start (some address) s.client.config.directoryEnabled) address log
  rw [if_neg (by simp [hv])]
  have hlegacy : s.legacyUserSettings address settings env log =
      (match result with
        | .error e => (.error e, s)
        | .ok (found, origin) =>
          (.ok (LegacyAnswer.toResponse address settings (.settings found)),
            { s with isExternal := some (origin != .directory) }), log ++ Round.record rounds) := by
    obtain ⟨client, locator, isExternal⟩ := s
    cases hl
    unfold legacyUserSettings
    dsimp only
    rw [Conversation.bind_of_eq hrun]
    cases result <;> rfl
  rw [hlegacy]
  cases result with
  | error e => exact ⟨rounds, _, s, .failed hrounds, rfl⟩
  | ok p => exact ⟨rounds, _, _, .found hrounds, rfl⟩

end Service

end MailDiscovery
