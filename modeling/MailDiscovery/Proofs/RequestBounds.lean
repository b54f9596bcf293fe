import MailDiscovery.Proofs.HopBudget.Rounds
import MailDiscovery.Proofs.Run.Call
import MailDiscovery.Proofs.Run.Forward

/-!
How many requests a call can send, whatever is answered. A candidate is queried once, and once more for each redirection
that is followed from it; a candidate host is probed at most eleven times; and each address but the first costs a
redirection.
-/

namespace MailDiscovery

def Event.isGet : Event → Bool
  | .exchange request _ => request.method == .get
  | _ => false

structure Charged (left followed candidates probes : Nat) (events : Record) : Prop where
  followed_le : followed ≤ left
  posts_le : events.countP Event.isPost ≤ candidates + followed
  gets_le : events.countP Event.isGet ≤ probes

namespace Charged

variable {left n m candidates further probes reserve : Nat} {events more : Record}

theorem append (h : Charged left n candidates probes events) (hmore : Charged (left - n) m further reserve more) :
    Charged left (n + m) (candidates + further) (probes + reserve) (events ++ more) := by
  have hle := h.followed_le
  have hmoreLe := hmore.followed_le
  have hposts := h.posts_le
  have hmorePosts := hmore.posts_le
  refine ⟨by omega, ?_, ?_⟩
  · rw [List.countP_append]
    omega
  · rw [List.countP_append]
    exact Nat.add_le_add h.gets_le hmore.gets_le

theorem weaken (h : Charged left n candidates probes events) (hc : candidates ≤ further) (hp : probes ≤ reserve) :
    Charged left n further reserve events :=
  ⟨h.followed_le, Nat.le_trans h.posts_le (Nat.add_le_add_right hc n), Nat.le_trans h.gets_le hp⟩

theorem nil (left : Nat) : Charged left 0 0 0 [] :=
  ⟨Nat.zero_le left, Nat.zero_le 0, Nat.zero_le 0⟩

theorem follow (h : Charged left 0 1 probes events) : Charged (left + 1) 1 0 probes events :=
  ⟨by omega, by simpa using h.posts_le, h.gets_le⟩

theorem of_quiet (hq : events.Quiet) (hg : events.countP Event.isGet ≤ probes) (left : Nat) :
    Charged left 0 0 probes events := by
  refine ⟨Nat.zero_le left, ?_, hg⟩
  have hnone : events.countP Event.isPost = 0 := by
    rw [List.countP_eq_zero]
    exact fun event he => by simp [hq event he]
  omega

end Charged

structure ChargedRounds (left candidates probes : Nat) (events : Record) : Prop where
  posts_le : events.countP Event.isPost ≤ (left + 1) * candidates + left
  gets_le : events.countP Event.isGet ≤ (left + 1) * probes

namespace ChargedRounds

variable {left followed rest candidates probes : Nat} {events more : Record}

theorem nil (left candidates probes : Nat) : ChargedRounds left candidates probes [] :=
  ⟨Nat.zero_le _, Nat.zero_le _⟩

theorem last (h : Charged left followed candidates probes events) : ChargedRounds left candidates probes events := by
  have hle := h.followed_le
  have hposts := h.posts_le
  have hcandidates : candidates ≤ (left + 1) * candidates := Nat.le_mul_of_pos_left _ (Nat.succ_pos left)
  exact ⟨by omega, Nat.le_trans h.gets_le (Nat.le_mul_of_pos_left _ (Nat.succ_pos left))⟩

theorem weaken (h : ChargedRounds left candidates rest events) (hp : rest ≤ probes) :
    ChargedRounds left candidates probes events :=
  ⟨h.posts_le, Nat.le_trans h.gets_le (Nat.mul_le_mul_left _ hp)⟩

theorem next (h : Charged left followed candidates probes events) (hlt : rest < left - followed)
    (hmore : ChargedRounds rest candidates probes more) :
    ChargedRounds left candidates probes (events ++ more) := by
  have one_more (k : Nat) : k + (rest + 1) * k ≤ (left + 1) * k := by
    rw [Nat.add_comm, ← Nat.succ_mul]
    exact Nat.mul_le_mul_right k (by omega)
  have hcandidates := one_more candidates
  have hprobes := one_more probes
  have hposts := h.posts_le
  have hgets := h.gets_le
  have hmorePosts := hmore.posts_le
  have hmoreGets := hmore.gets_le
  constructor
  · rw [List.countP_append]
    omega
  · rw [List.countP_append]
    omega

end ChargedRounds

namespace Client

variable {c : Client} {env : Environment} {q : Query} {left followed : Nat} {events : Record}

theorem Queried.charged {url : Uri} {result : Except Failure Answer} (h : c.Queried q url result events) (left : Nat) :
    Charged left 0 1 0 events := by
  cases h with
  | refused h => exact (Charged.nil left).weaken (by omega) (by omega)
  | unheard h | heard h hr => exact ⟨Nat.zero_le left, by simp [Event.isPost, of_queryRequest h],
      by simp [Event.isGet, of_queryRequest h]⟩

theorem Followed.charged {url : Uri} {outcome : Except Failure Served}
    (h : c.Followed q left url outcome followed events) : Charged left followed 1 0 events := by
  induction h with
  | failed h | served h | exceeded h => exact h.charged _
  | lost h hv ht => exact (h.charged _).follow.weaken (by omega) (by omega)
  | @onward left followed url next answer target events more outcome h hv ht hn ih =>
    rw [Nat.add_comm followed]
    exact (h.charged _).follow.append ih

theorem Probed.gets_le {url : Uri} {reply : Option Http.Response} (h : c.Probed url reply events) :
    events.countP Event.isGet ≤ 1 := by
  cases h <;> simp [Event.isGet, List.countP_cons]
  · split <;> omega
  · split <;> omega

theorem Surveyed.gets_le {host : String} {result : Except Failure (Option (String × EndpointSet))}
    (h : c.Surveyed left host result events) : events.countP Event.isGet ≤ left + 1 := by
  induction h with
  | nowhere hu => exact Nat.zero_le _
  | silent hu hp | lost hu hp | exceeded hu hp | bare hu hp | answered hu hp =>
    exact Nat.le_trans hp.gets_le (Nat.le_add_left 1 _)
  | onward hu hp hr ht hn ih =>
    have hprobe := hp.gets_le
    rw [List.countP_append]
    omega

theorem Gated.charged {host : String} {result : Except Failure (Option Uri)} (h : c.Gated host result events)
    (left : Nat) : Charged left 0 0 11 events := by
  cases h with
  | failed h | unanswered h | answered h => exact .of_quiet h.quiet h.gets_le left

theorem Attempted.charged {host : String} {outcome : Except Failure Served}
    (h : c.Attempted q left host outcome followed events) : Charged left followed 1 11 events := by
  cases h with
  | failed hg | unusable hg => exact (hg.charged left).weaken (by omega) (by omega)
  | unserved hg hf | refused hg hf | served hg hf =>
    have hall := (hg.charged left).append hf.charged
    simpa using hall

theorem Tried.charged {last : Option Failure} {candidates : List (Candidate String)} {search : Search Served}
    (h : c.Tried q left last candidates search followed events) :
    Charged left followed candidates.length (11 * candidates.length) events := by
  induction h with
  | exhausted => exact .nil _
  | found h | failed h =>
    exact h.charged.weaken (by simp) (by simp only [List.length_cons]; omega)
  | next h he hn ih =>
    refine (h.charged.append ih).weaken ?_ ?_
    · simp only [List.length_cons]
      omega
    · simp only [List.length_cons]
      omega

theorem Pointed.charged {domain : String} {url : Option Uri} (h : c.Pointed env q domain url events) (left : Nat) :
    Charged left 0 0 1 events := by
  refine .of_quiet h.quiet ?_ left
  have approval (url : String) : [Event.approval url].countP Event.isGet = 0 := rfl
  cases h with
  | nowhere hu => exact Nat.zero_le 1
  | silent hu hp | useless hu hp => exact hp.gets_le
  | rejected hu hp | approved hu hp =>
    rw [List.countP_append, approval]
    exact hp.gets_le

theorem Located.charged {domain : String} {url : Option Uri} (h : Located env domain url events) (left : Nat) :
    Charged left 0 0 0 events := by
  refine .of_quiet h.quiet ?_ left
  cases h <;> simp [Event.isGet]

theorem Listed.charged {r : Redirection} {domain : String} {urls : List String} (h : Listed env r domain urls events)
    (left : Nat) : Charged left 0 0 0 events := by
  refine .of_quiet h.quiet ?_ left
  cases h <;> simp [Event.isGet]

theorem Listed.length_le {S : Nat} (hS : ∀ domain, (env.directory domain).length ≤ S) {r : Redirection}
    {domain : String} {urls : List String} (h : Listed env r domain urls events) : urls.length ≤ S := by
  cases h with
  | asked h => exact hS domain
  | unasked h => exact Nat.zero_le S

theorem length_knownHosts_le (listed : List String) (domain : String) :
    (knownHosts listed domain).length ≤ listed.length + 2 := by
  simp only [knownHosts, List.length_append, List.length_map, WellKnown.hostGuesses, List.length_cons,
    List.length_nil]
  exact Nat.add_le_add_right (List.length_filterMap_le _ listed) 2

theorem length_knownUrls_le (listed : List String) (domain : String) :
    (knownUrls listed domain).length ≤ listed.length + 2 := by
  simp only [knownUrls, List.length_append, List.length_map]
  exact Nat.add_le_add (List.length_filterMap_le _ listed)
    (List.length_filterMap_le _ (WellKnown.hostGuesses domain))

theorem FellBack.charged {n m candidates probes finding : Nat} {origin : Origin} {P : Option Uri → Record → Prop}
    {search found : Search Served} {more : Record}
    (hP : ∀ url events, P url events → Charged (left - n) 0 0 finding events)
    (hs : Charged left n candidates probes events) (h : c.FellBack q left origin P search n found m more) :
    Charged left m (candidates + 1) (probes + (finding + 11)) (events ++ more) := by
  cases h with
  | settled h =>
    rw [List.append_nil]
    exact hs.weaken (by omega) (by omega)
  | @tried last url _ _ further _ _ hp ht =>
    have hone : ((url.bind Uri.host?).toList.map fun host => (⟨host, origin⟩ : Candidate String)).length ≤ 1 := by
      cases url.bind Uri.host? <;> simp
    have hrest := (hP _ _ hp).append ht.charged
    rw [Nat.zero_add, Nat.zero_add] at hrest
    exact hs.append (hrest.weaken hone (by omega))

theorem Discovered.charged {S : Nat} (hS : ∀ domain, (env.directory domain).length ≤ S) {domain : String}
    {r : Redirection} {search : Search Served} (h : c.Discovered env q domain r search followed events) :
    Charged r.left followed (S + 4) (11 * (S + 4) + 1) events := by
  cases h with
  | @mk listed first second _ n₁ n₂ _ es₀ es₁ es₂ es₃ hl ht hr hs =>
    have hknown : (knownHosts listed domain).length ≤ S + 2 :=
      Nat.le_trans (length_knownHosts_le listed domain) (Nat.add_le_add_right (hl.length_le hS) 2)
    have known := (hl.charged r.left).append ht.charged
    rw [Nat.zero_add] at known
    have redirected := hr.charged (fun _ _ h => h.charged _) known
    have recorded := hs.charged (fun _ _ h => h.charged _) redirected
    exact recorded.weaken (by omega) (by omega)

theorem QueriedLegacy.charged {address : String} {url : Uri} {result : Except Failure LegacyAnswer}
    (h : c.QueriedLegacy address url result events) (left : Nat) : Charged left 0 1 0 events := by
  cases h with
  | failed h | answered h => exact h.charged left

theorem TriedLegacy.charged {address : String} {failures : LegacyFailures} {candidates : List (Candidate Uri)}
    {step : LegacyStep} (h : c.TriedLegacy address left failures candidates step followed events) :
    Charged left followed candidates.length 0 events := by
  induction h with
  | exhausted => exact .nil _
  | failed h | found h | restarted h | refused h | exceeded h =>
    exact (h.charged _).weaken (by simp) (Nat.le_refl 0)
  | @skipped _ followed _ _ _ _ _ _ _ h _ _ ih | @kept _ followed _ _ _ _ _ _ _ h _ _ ih =>
    have hall := (h.charged _).append ih
    rw [Nat.zero_add] at hall
    exact hall.weaken (by simp [Nat.add_comm]) (Nat.le_refl 0)
  | @onward _ followed _ _ _ _ _ _ _ _ h _ _ ih =>
    have hall := (h.charged _).follow.append ih
    rw [Nat.add_comm 1] at hall
    exact hall.weaken (by simp) (Nat.le_refl 0)
  | @lost _ followed _ _ _ _ _ _ _ h _ _ ih =>
    have hall := (h.charged _).follow.append ih
    rw [Nat.add_comm 1] at hall
    exact hall.weaken (by simp) (Nat.le_refl 0)

theorem FellBackLegacy.charged {address : String} {n m candidates probes finding : Nat} {origin : Origin}
    {P : Option Uri → Record → Prop} {step found : LegacyStep} {more : Record}
    (hP : ∀ url events, P url events → Charged (left - n) 0 0 finding events)
    (hs : Charged left n candidates probes events)
    (h : c.FellBackLegacy address left origin P step n found m more) :
    Charged left m (candidates + 1) (probes + finding) (events ++ more) := by
  cases h with
  | settled h =>
    rw [List.append_nil]
    exact hs.weaken (by omega) (by omega)
  | @tried _ url _ _ _ _ _ hp ht =>
    have hone : (url.toList.map fun target => (⟨target, origin⟩ : Candidate Uri)).length ≤ 1 := by
      cases url <;> simp
    have hrest := (hP _ _ hp).append ht.charged
    rw [Nat.zero_add, Nat.zero_add] at hrest
    exact hs.append (hrest.weaken hone (by omega))

theorem RoundLegacy.charged {S : Nat} (hS : ∀ domain, (env.directory domain).length ≤ S) {address domain : String}
    {r : Redirection} {step : LegacyStep} (h : c.RoundLegacy env address domain r step followed events) :
    Charged r.left followed (S + 4) 1 events := by
  cases h with
  | @mk listed first second _ n₁ n₂ _ es₀ es₁ es₂ es₃ hl ht hr hs =>
    have hknown : (knownUrls listed domain).length ≤ S + 2 :=
      Nat.le_trans (length_knownUrls_le listed domain) (Nat.add_le_add_right (hl.length_le hS) 2)
    have known := (hl.charged r.left).append ht.charged
    rw [Nat.zero_add] at known
    have redirected := hr.charged (fun _ _ h => h.charged _) known
    have recorded := hs.charged (fun _ _ h => h.charged _) redirected
    exact recorded.weaken (by omega) (by omega)

theorem DiscoveredLegacy.charged {S : Nat} (hS : ∀ domain, (env.directory domain).length ≤ S) {address : String}
    {r : Redirection} {result : Except Failure (Settings UserSetting × Origin)}
    (h : c.DiscoveredLegacy env r address result events) : ChargedRounds r.left (S + 4) 1 events := by
  induction h with
  | unaddressed ha => exact .nil _ _ _
  | found ha hr | failed ha hr | exhausted ha hr | exceeded ha hr hh => exact .last (hr.charged hS)
  | restarted ha hr hh hn ih =>
    have hlt := Redirection.left_of_hop? hh
    rw [Redirection.left_visit] at ih
    exact .next (hr.charged hS) (Nat.lt_of_succ_le (Nat.le_of_eq hlt.symm)) ih

end Client

namespace Service

variable {s t : Service} {env : Environment} {S : Nat} {events : Record}

theorem Resolved.charged (hS : ∀ domain, (env.directory domain).length ≤ S) {q : Query} {domain : String}
    {r : Redirection} {result : Except Failure (Answer × Service)} {followed : Nat}
    (h : s.Resolved env q domain r result followed events) :
    Charged r.left followed (S + 4) (11 * (S + 4) + 1) events := by
  cases h with
  | unserved hl hf | served hl hf => exact hf.charged.weaken (by omega) (by omega)
  | ungated hl hg | unusable hl hg => exact (hg.charged _).weaken (by omega) (by omega)
  | unservedAt hl hg hf | servedAt hl hg hf =>
    have hall := (hg.charged _).append hf.charged
    rw [Nat.zero_add] at hall
    exact hall.weaken (by omega) (by omega)
  | found hl hd | failed hl hd | exhausted hl hd => exact hd.charged hS

theorem Rounds.charged (hS : ∀ domain, (env.directory domain).length ≤ S) {settings : List UserSetting}
    {address : String} {r : Redirection} {result : Except Failure (Response UserSetting)}
    (h : Rounds env settings s address r result t events) :
    ChargedRounds r.left (S + 4) (11 * (S + 4) + 1) events := by
  induction h with
  | unaddressed ha => exact .nil _ _ _
  | unresolved ha hr | refused ha hr hs | answered ha hr hs ht | stuck ha hr hs ht => exact .last (hr.charged hS)
  | turned ha hr hs ht hn ih =>
    have hlt := (turned_of_turn? ht).2.left_eq
    exact .next (hr.charged hS) (Nat.lt_of_succ_le (Nat.le_of_eq hlt.symm)) ih

theorem AskedLegacy.charged (hS : ∀ domain, (env.directory domain).length ≤ S) {address : String}
    {settings : List UserSetting} {result : Except Failure (Response UserSetting)}
    (h : s.AskedLegacy env address settings result t events) : ChargedRounds Redirection.limit (S + 4) 1 events := by
  cases h with
  | unfound hl hd | found hl hd => exact hd.charged hS
  | unplaced hl hu | unnamed hl hu => exact .nil _ _ _
  | asked hl hu hq | askedAt hl hu hq => exact .last ((hq.charged _).weaken (by omega) (by omega))

theorem Collected.charged (hS : ∀ domain, (env.directory domain).length ≤ S) {ν : Type} {q : Query}
    {select : Answer → Except Failure (Collection ν)} {identities : List String} {domain : String}
    {result : Except Failure (Collection ν)} (h : s.Collected env q select identities domain result t events) :
    ChargedRounds Redirection.limit (S + 4) (11 * (S + 4) + 1) events := by
  cases h with
  | unresolved hr | resolved hr hs => exact .last (hr.charged hS)

theorem Performed.charged (hS : ∀ domain, (env.directory domain).length ≤ S) {call : Call}
    {result : Except Failure Reply} (h : s.Performed env call result t events) :
    ChargedRounds Redirection.limit (S + 4) (11 * (S + 4) + 1) events := by
  cases h with
  | blankAddress hb | noSettings hb hs | noUsers hc | noDomains hc | noDomain hc => exact .nil _ _ _
  | rounds hb hs hv hr => exact hr.charged hS
  | legacy hb hs hv hr => exact (hr.charged hS).weaken (by omega)
  | users hc hr | domains hc hr | domain hc hr => exact hr.charged hS

theorem AskedPartner.charged (hS : ∀ domain, (env.directory domain).length ≤ S) {domain : String}
    {result : Except Failure (Option PartnerAccess)} (h : s.AskedPartner env domain result t events) :
    ChargedRounds Redirection.limit (S + 4) (11 * (S + 4) + 1) events := by
  cases h with
  | rejected hc => exact .nil _ _ _
  | unresolved hc hr | ungranted hc hr ht | granted hc hr ht => exact .last (hr.charged hS)

theorem requests_bounded (hS : ∀ domain, (env.directory domain).length ≤ S) (s : Service) (log : Record) :
    (∀ call, ∃ events, (s.perform call env log).2 = log ++ events ∧
      events.countP Event.isPost ≤ 11 * (S + 4) + 10 ∧ events.countP Event.isGet ≤ 11 * (11 * (S + 4) + 1)) ∧
    (∀ domain, ∃ events, (s.partnerAccess domain env log).2 = log ++ events ∧
      events.countP Event.isPost ≤ 11 * (S + 4) + 10 ∧ events.countP Event.isGet ≤ 11 * (11 * (S + 4) + 1)) ∧
    ∀ host, ∃ events, (s.client.capabilities Redirection.limit host env log).2 = log ++ events ∧
      events.countP Event.isGet ≤ 11 := by
  refine ⟨fun call => ?_, fun domain => ?_, fun host => ?_⟩
  · obtain ⟨events, hlog, h⟩ := s.meets_perform call log
    exact ⟨events, hlog, (h.charged hS).posts_le, (h.charged hS).gets_le⟩
  · obtain ⟨events, hlog, h⟩ := s.meets_partnerAccess domain log
    exact ⟨events, hlog, (h.charged hS).posts_le, (h.charged hS).gets_le⟩
  · obtain ⟨events, hlog, h⟩ := s.client.meets_capabilities Redirection.limit host log
    exact ⟨events, hlog, h.gets_le⟩

def circling (listed : String) : Environment where
  transport _ request := .ok ⟨302, [("location", request.url.text.toUTF8)], ByteArray.empty⟩
  directory _ := [listed]
  serviceHost _ := none
  approves _ := true

theorem requests_bounded_circling :
    (∀ domain, ((circling "https://a.example").directory domain).length ≤ 1) ∧
      (∀ call, ∃ events, (olderService.perform call (circling "https://a.example") []).2 = [] ++ events ∧
        events.countP Event.isPost ≤ 65 ∧ events.countP Event.isGet ≤ 616) ∧
      (∀ domain, ∃ events, (olderService.partnerAccess domain (circling "https://a.example") []).2 = [] ++ events ∧
        events.countP Event.isPost ≤ 65 ∧ events.countP Event.isGet ≤ 616) ∧
      ∀ host, ∃ events,
        (olderService.client.capabilities Redirection.limit host (circling "https://a.example") []).2 = [] ++ events ∧
          events.countP Event.isGet ≤ 11 :=
  have hS (domain : String) : ((circling "https://a.example").directory domain).length ≤ 1 := Nat.le_refl 1
  ⟨hS, requests_bounded hS olderService []⟩

end Service

end MailDiscovery
