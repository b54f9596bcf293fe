import MailDiscovery.Proofs.DirectoryLookups.Resolution
import MailDiscovery.Proofs.LowerCase
import MailDiscovery.Proofs.Run.Call
import MailDiscovery.Proofs.Run.Turn

namespace MailDiscovery

def addressNow (address : String) (named : List String) : String :=
  named.getLast?.elim address Text.lower

theorem addressNow_append_singleton (address target : String) (named : List String) :
    addressNow address (named ++ [target]) = Text.lower target := by
  rw [addressNow, List.getLast?_concat]
  rfl

theorem lower_addressNow {address : String} {named : List String} :
    ∃ init last, address :: named = init ++ [last] ∧ Text.lower (addressNow address named) = Text.lower last := by
  rcases List.eq_nil_or_concat named with rfl | ⟨init, last, rfl⟩
  · exact ⟨[], address, rfl, rfl⟩
  · refine ⟨address :: init, last, by simp, ?_⟩
    rw [List.concat_eq_append, addressNow_append_singleton, Text.lower_lower]

/-- A call may ask the directory for a domain: it is that of the address that the call is at, which is none that it
was at before. -/
structure MayLookUp (enabled : Bool) (q : Query) (address : String) (before : Record) (domain : String) : Prop where
  enabled : enabled = true
  domain : MailAddress.domain (addressNow address (before.named q)) = .ok domain
  distinct : ((address :: before.named q).map Text.lower).Nodup
  fresh : before.Fresh q

structure LooksUpInTurn (q : Query) (address : String) (events : Record) : Prop where
  domain : ∀ (before : Record) domain after, events = before ++ .directory domain :: after →
    MailAddress.domain (addressNow address (before.named q)) = .ok domain
  apart : ∀ (before : Record) first between second after,
    events = before ++ .directory first :: (between ++ .directory second :: after) →
    Text.lower (addressNow address (before.named q)) ≠
      Text.lower (addressNow address (Record.named q (before ++ .directory first :: between)))
  afterReturn : ∀ (before : Record) event after target, events = before ++ event :: after →
    event.namedAddress? q = some target → Text.lower target ∈ (address :: before.named q).map Text.lower →
    Record.lookups after = []
  atMost : events.lookups.length ≤ 11

theorem LooksUpInTurn.of_looksUp {enabled : Bool} {q : Query} {address : String} {events : Record}
    (h : Record.LooksUp (MayLookUp enabled q address) [] events) (hcount : events.lookups.length ≤ 11) :
    LooksUpInTurn q address events := by
  refine ⟨fun before domain after heq => (h before domain after heq).domain, ?_, ?_, hcount⟩
  · intro before first between second after heq hsame
    have hmay := h (before ++ .directory first :: between) second after (by simp [heq])
    rw [List.nil_append] at hmay
    have hnamed : Record.named q between ≠ [] := hmay.fresh before first between rfl
    obtain ⟨init, last, hinit, hlast⟩ := @lower_addressNow address (before.named q)
    obtain ⟨rest, target, hrest⟩ : ∃ rest target, Record.named q between = rest ++ [target] := by
      rcases List.eq_nil_or_concat (Record.named q between) with hnil | ⟨rest, target, hrest⟩
      · exact absurd hnil hnamed
      · exact ⟨rest, target, by rw [hrest, List.concat_eq_append]⟩
    have hall : Record.named q (before ++ .directory first :: between) = before.named q ++ rest ++ [target] := by
      rw [Record.named_append, Record.named_cons, hrest, List.append_assoc]
      rfl
    have hnodup := hmay.distinct
    rw [hall, addressNow_append_singleton, Text.lower_lower, hlast] at hsame
    rw [hall, List.append_assoc, ← List.cons_append, hinit] at hnodup
    simp [List.nodup_append, hsame] at hnodup
  · intro before event after target heq hevent htarget
    refine Decidable.byContradiction fun hlookups => ?_
    obtain ⟨first, domain, rest, rfl⟩ := Record.exists_lookup hlookups
    have hmay := h (before ++ event :: first) domain rest (by simp [heq])
    have hnodup := hmay.distinct
    rw [List.nil_append, Record.named_append, Record.named_cons, hevent, Option.toList_some, ← List.cons_append,
      List.map_append, List.nodup_append] at hnodup
    exact hnodup.2.2 _ htarget _ (by simp) rfl

namespace Redirection

variable {r next : Redirection}

/-- What is remembered of the redirections of a call agrees with the addresses that its answers have named. -/
structure Tracks (r : Redirection) (enabled : Bool) (start : String) (named : List String) (address : String) :
    Prop where
  address_eq : addressNow start named = address
  tried : ∀ text, text ∈ r.tried ↔ text ∈ (start :: named).map Text.lower
  directory : r.directory = true ↔ enabled = true ∧ ((start :: named).map Text.lower).Nodup

theorem tracks_start (enabled : Bool) (address : String) :
    (start (some address) enabled).Tracks enabled address [] address := by
  refine ⟨rfl, ?_, ?_⟩ <;> simp [start]

variable {enabled : Bool} {start address : String} {named : List String}

theorem Tracks.of_remembered (h : r.Tracks enabled start named address) (ht : next.tried = r.tried)
    (hd : next.directory = r.directory) : next.Tracks enabled start named address :=
  ⟨h.address_eq, ht ▸ h.tried, hd ▸ h.directory⟩

theorem nodup_map_concat {target : String} :
    ((start :: (named ++ [target])).map Text.lower).Nodup ↔
      ((start :: named).map Text.lower).Nodup ∧ Text.lower target ∉ (start :: named).map Text.lower := by
  rw [← List.cons_append, List.map_append, List.map_singleton, List.nodup_append]
  constructor
  · rintro ⟨hnodup, -, hne⟩
    exact ⟨hnodup, fun hmem => hne _ hmem _ (List.mem_singleton_self _) rfl⟩
  · rintro ⟨hnodup, hnew⟩
    refine ⟨hnodup, by simp, ?_⟩
    intro other hother last hlast heq
    rw [List.mem_singleton] at hlast
    exact hnew (hlast ▸ heq ▸ hother)

theorem Tracks.visit (h : r.Tracks enabled start named address) (target : String) :
    (r.visit target).1.Tracks enabled start (named ++ [target]) (r.visit target).2 := by
  have htarget := h.tried (Text.lower target)
  by_cases hseen : Text.lower target ∈ r.tried
  · have hvisit : r.visit target = ({ r with directory := false }, Text.lower target) := by
      simp [Redirection.visit, hseen]
    rw [hvisit]
    refine ⟨addressNow_append_singleton .., fun text => ?_, ?_⟩
    · rw [← List.cons_append, List.map_append, List.mem_append, ← h.tried, List.map_singleton, List.mem_singleton]
      exact (or_iff_left_of_imp fun heq => heq ▸ hseen).symm
    · rw [nodup_map_concat, ← htarget]
      simp [hseen]
  · have hvisit : r.visit target = ({ r with tried := Text.lower target :: r.tried }, Text.lower target) := by
      simp [Redirection.visit, hseen]
    rw [hvisit]
    refine ⟨addressNow_append_singleton .., fun text => ?_, ?_⟩
    · rw [← List.cons_append, List.map_append, List.mem_append, ← h.tried, List.mem_cons, List.map_singleton,
        List.mem_singleton, or_comm]
    · rw [nodup_map_concat, ← htarget, h.directory]
      simp [hseen]

theorem Tracks.mayLookUp {q : Query} {before : Record} {domain : String}
    (h : r.Tracks enabled start (before.named q) address) (hd : r.directory = true)
    (ha : MailAddress.domain address = .ok domain) (hf : before.Fresh q) :
    MayLookUp enabled q start before domain :=
  ⟨(h.directory.1 hd).1, by rw [h.address_eq, ha], (h.directory.1 hd).2, hf⟩

end Redirection

namespace Service

variable {s t : Service} {env : Environment} {address : String} {settings : List UserSetting}

theorem Rounds.looksUp {enabled : Bool} {start : String} {r : Redirection}
    {result : Except Failure (Response UserSetting)} {events before : Record}
    (h : Rounds env settings s address r result t events)
    (ht : r.Tracks enabled start (before.named (.users [start] settings)) address)
    (hf : s.locator = .undetermined → before.Fresh (.users [start] settings)) :
    Record.LooksUp (MayLookUp enabled (.users [start] settings) start) before events := by
  induction h generalizing before with
  | unaddressed ha => exact .of_lookups rfl
  | unresolved ha hr | refused ha hr | answered ha hr | stuck ha hr =>
    exact hr.asksFirst.looksUp fun ⟨hl, hd⟩ => ht.mayLookUp hd ha (hf hl)
  | turned ha hr hs hturn hn ih =>
    refine .append (hr.asksFirst.looksUp fun ⟨hl, hd⟩ => ht.mayLookUp hd ha (hf hl)) ?_
    obtain ⟨c, -, -, -, rfl, -⟩ := hr.users
    have hnamed := hr.named rfl
    rw [namedAddress?_of_soleResponse hs, Record.named_users _ [start]] at hnamed
    cases (turned_of_turn? hturn).2 with
    | toAddress hc hh htarget =>
      rw [if_pos hc, htarget, Option.toList_some] at hnamed
      obtain ⟨htried, hdirectory⟩ := Redirection.remembered_of_hop? hh
      apply ih
      · rw [Record.named_append, hnamed]
        exact (ht.of_remembered htried hdirectory).visit _
      · intro hl
        exact (hr.asksFirst.fresh (by simp [hnamed])).append (by simp [hnamed]) before
    | toUrl hc hh htarget hu ha hhost =>
      rw [if_neg (by simp [hc]), Option.toList_none] at hnamed
      obtain ⟨htried, hdirectory⟩ := Redirection.remembered_of_hop? hh
      apply ih
      · rw [Record.named_append, hnamed, List.append_nil]
        exact ht.of_remembered htried hdirectory
      · intro hl
        cases hl

theorem Rounds.length_lookups_le {r : Redirection} {result : Except Failure (Response UserSetting)} {events : Record}
    (h : Rounds env settings s address r result t events) : events.lookups.length ≤ r.left + 1 := by
  induction h with
  | unaddressed ha => exact Nat.zero_le _
  | unresolved ha hr | refused ha hr | answered ha hr | stuck ha hr =>
    exact Nat.le_trans hr.asksFirst.length_le (Nat.le_add_left 1 _)
  | turned ha hr hs hturn hn ih =>
    have hround := hr.asksFirst.length_le
    have hleft := left_turn?_lt hturn
    rw [Record.lookups_append, List.length_append]
    omega

end Service

namespace LegacyStep

def namedAddress? : LegacyStep → Option String
  | .restart target => some target
  | _ => none

end LegacyStep

namespace Client

variable {c : Client} {env : Environment} {address domain start : String} {enabled : Bool} {r : Redirection}
  {events more before : Record}

theorem QueriedLegacy.named {url : Uri} {outcome : Except Failure LegacyAnswer}
    (h : c.QueriedLegacy address url outcome events) :
    events.named (.legacy address) =
      (outcome.toOption.bind fun answer => (Answer.legacy answer).namedAddress?).toList := by
  cases h with
  | failed h => exact Record.named_eq_nil fun event he => (h.of_error.2 event he).2
  | answered h =>
    obtain ⟨request, response, rfl, -, -, ⟨target, hr, heq⟩ | ha⟩ := h.of_ok
    · cases heq
      refine Record.named_eq_nil fun event he => ?_
      rw [List.mem_singleton.1 he]
      exact Event.answer?_of_redirection? hr
    · rw [Record.named_cons, Event.namedAddress?, ha]
      exact List.append_nil _

theorem TriedLegacy.named {left followed : Nat} {failures : LegacyFailures} {candidates : List (Candidate Uri)}
    {step : LegacyStep} (h : c.TriedLegacy address left failures candidates step followed events) :
    events.named (.legacy address) = step.namedAddress?.toList := by
  induction h with
  | exhausted => rfl
  | failed h | found h | restarted h | refused h | exceeded h => exact h.named
  | skipped h he hn ih | kept h ho hn ih | onward h ht hn ih | lost h ht hn ih =>
    rw [Record.named_append, h.named, ih]
    rfl

theorem TriedLegacy.isPost {left followed : Nat} {failures : LegacyFailures} {candidates : List (Candidate Uri)}
    {step : LegacyStep} (h : c.TriedLegacy address left failures candidates step followed events) :
    ∀ event ∈ events, event.isPost = true := by
  induction h with
  | exhausted => simp
  | failed h | found h | restarted h | refused h | exceeded h => exact h.isPost
  | skipped h he hn ih | kept h ho hn ih | onward h ht hn ih | lost h ht hn ih =>
    exact fun event he => (List.mem_append.1 he).elim (h.isPost event) (ih event)

theorem FellBackLegacy.named {left n m : Nat} {origin : Origin} {P : Option Uri → Record → Prop}
    {step next : LegacyStep} (hP : ∀ url events, P url events → events.Quiet)
    (h : c.FellBackLegacy address left origin P step n next m more)
    (hstep : events.named (.legacy address) = step.namedAddress?.toList) :
    (events ++ more).named (.legacy address) = next.namedAddress?.toList := by
  cases h with
  | settled h => rwa [List.append_nil]
  | tried hp ht =>
    rw [Record.named_append, Record.named_append, hstep, (hP _ _ hp).named, ht.named]
    rfl

theorem FellBackLegacy.lookups {left n m : Nat} {origin : Origin} {P : Option Uri → Record → Prop}
    {step next : LegacyStep} (hP : ∀ url events, P url events → events.lookups = [])
    (h : c.FellBackLegacy address left origin P step n next m events) : events.lookups = [] := by
  cases h with
  | settled h => rfl
  | tried hp ht => rw [Record.lookups_append, hP _ _ hp, Record.lookups_of_isPost ht.isPost, List.append_nil]

theorem RoundLegacy.named {step : LegacyStep} {n : Nat} (h : c.RoundLegacy env address domain r step n events) :
    events.named (.legacy address) = step.namedAddress?.toList := by
  cases h with
  | mk hl ht hr hs =>
    apply hs.named fun _ _ h => h.quiet
    apply hr.named fun _ _ h => h.quiet
    rw [Record.named_append, hl.quiet.named, ht.named]
    rfl

theorem RoundLegacy.asksFirst {step : LegacyStep} {n : Nat} (h : c.RoundLegacy env address domain r step n events) :
    events.AsksFirst (r.directory = true) domain := by
  cases h with
  | mk hl ht hr hs =>
    rw [List.append_assoc, List.append_assoc]
    apply hl.asksFirst
    simp [Record.lookups_of_isPost ht.isPost, hr.lookups fun _ _ => Pointed.lookups,
      hs.lookups fun _ _ => Located.lookups]

theorem DiscoveredLegacy.looksUp {result : Except Failure (Settings UserSetting × Origin)}
    (h : c.DiscoveredLegacy env r address result events)
    (ht : r.Tracks enabled start (before.named (.legacy start)) address) (hf : before.Fresh (.legacy start)) :
    Record.LooksUp (MayLookUp enabled (.legacy start) start) before events := by
  induction h generalizing before with
  | unaddressed ha => exact .of_lookups rfl
  | found ha hr | failed ha hr | exhausted ha hr | exceeded ha hr =>
    exact hr.asksFirst.looksUp fun hd => ht.mayLookUp hd ha hf
  | @restarted r next address domain target followed events more result ha hr hh hn ih =>
    refine .append (hr.asksFirst.looksUp fun hd => ht.mayLookUp hd ha hf) ?_
    have hnamed : events.named (.legacy start) = [target] := hr.named
    obtain ⟨htried, hdirectory⟩ := Redirection.remembered_of_hop? hh
    apply ih
    · rw [Record.named_append, hnamed]
      exact (ht.of_remembered htried hdirectory).visit _
    · exact (hr.asksFirst.fresh (by simp [hnamed])).append (by simp [hnamed]) before

theorem DiscoveredLegacy.length_lookups_le {result : Except Failure (Settings UserSetting × Origin)}
    (h : c.DiscoveredLegacy env r address result events) : events.lookups.length ≤ r.left + 1 := by
  induction h with
  | unaddressed ha => exact Nat.zero_le _
  | found ha hr | failed ha hr | exhausted ha hr | exceeded ha hr =>
    exact Nat.le_trans hr.asksFirst.length_le (Nat.le_add_left 1 _)
  | restarted ha hr hh hn ih =>
    have hround := hr.asksFirst.length_le
    have hleft := Redirection.left_hop?_lt hh
    rw [Redirection.left_visit] at ih
    rw [Record.lookups_append, List.length_append]
    omega

end Client

namespace Service

variable {s t : Service} {env : Environment} {events : Record}

theorem AskedLegacy.looksUp {address : String} {settings : List UserSetting}
    {result : Except Failure (Response UserSetting)} (h : s.AskedLegacy env address settings result t events) :
    Record.LooksUp (MayLookUp s.client.config.directoryEnabled (.legacy address) address) [] events ∧
      events.lookups.length ≤ 11 := by
  have fresh_nil : Record.Fresh (.legacy address) [] := by simp [Record.Fresh]
  cases h with
  | unfound hl hd | found hl hd =>
    exact ⟨hd.looksUp (Redirection.tracks_start ..) fresh_nil, hd.length_lookups_le⟩
  | unplaced hl hu | unnamed hl hu => exact ⟨.of_lookups rfl, Nat.zero_le _⟩
  | asked hl hu hq | askedAt hl hu hq =>
    have hnone := Record.lookups_of_isPost hq.isPost
    exact ⟨.of_lookups hnone, by simp [hnone]⟩

theorem Collected.asksFirst {ν : Type} {q : Query} {select : Answer → Except Failure (Collection ν)}
    {identities : List String} {domain : String} {result : Except Failure (Collection ν)}
    (h : s.Collected env q select identities domain result t events) :
    events.AsksFirst (s.locator = .undetermined ∧ s.client.config.directoryEnabled = true) domain := by
  cases h with
  | unresolved hr | resolved hr => exact hr.asksFirst

theorem AskedPartner.lookups {domain : String} {result : Except Failure (Option PartnerAccess)}
    (h : s.AskedPartner env domain result t events) : events.lookups = [] := by
  cases h with
  | rejected hc => rfl
  | unresolved hc hr | ungranted hc hr | granted hc hr =>
    exact hr.asksFirst.resolve_right fun h => absurd h.1.2 Bool.false_ne_true

def AsksInTurn (s : Service) (events : Record) : Call → Prop
  | .user address settings =>
    LooksUpInTurn (Call.query s.client.config.version (.user address settings)) address events
  | _ => events.lookups.length ≤ 1

theorem Performed.asksInTurn {call : Call} {result : Except Failure Reply}
    (h : s.Performed env call result t events) :
    (s.client.config.directoryEnabled = false → events.lookups = []) ∧ s.AsksInTurn events call := by
  have forUser {q : Query} {address : String}
      (hlooks : Record.LooksUp (MayLookUp s.client.config.directoryEnabled q address) [] events)
      (hcount : events.lookups.length ≤ 11) :
      (s.client.config.directoryEnabled = false → events.lookups = []) ∧ LooksUpInTurn q address events := by
    refine ⟨fun hd => Decidable.byContradiction fun hlookups => ?_, .of_looksUp hlooks hcount⟩
    obtain ⟨first, domain, rest, heq⟩ := Record.exists_lookup hlookups
    simpa [hd] using (hlooks first domain rest heq).enabled
  have forMany {domain : String}
      (hasks : events.AsksFirst (s.locator = .undetermined ∧ s.client.config.directoryEnabled = true) domain) :
      (s.client.config.directoryEnabled = false → events.lookups = []) ∧ events.lookups.length ≤ 1 :=
    ⟨fun hd => hasks.resolve_right fun h => by simpa [hd] using h.1.2, hasks.length_le⟩
  have fresh_nil {q : Query} : Record.Fresh q [] := by simp [Record.Fresh]
  have inTurn_nil {q : Query} {address : String} : LooksUpInTurn q address [] := by
    refine ⟨?_, ?_, ?_, Nat.zero_le _⟩ <;> simp
  cases h with
  | blankAddress hb | noSettings hb hs => exact ⟨fun _ => rfl, inTurn_nil⟩
  | rounds hb hs hv hr =>
    rw [AsksInTurn, Call.query, if_pos hv]
    exact forUser (hr.looksUp (Redirection.tracks_start ..) fun _ => fresh_nil) hr.length_lookups_le
  | legacy hb hs hv hr =>
    rw [AsksInTurn, Call.query, if_neg (by simp [hv])]
    exact forUser hr.looksUp.1 hr.looksUp.2
  | noUsers hc | noDomains hc | noDomain hc => exact ⟨fun _ => rfl, Nat.zero_le 1⟩
  | users hc hr | domains hc hr | domain hc hr => exact forMany hr.asksFirst

/-- The directory is asked only where that is enabled, for a domain of an address that the call is at for the first
time, and no more once an address has come back. Calls for several users or for domains ask at most once, and a
request for the access of a partner never does. -/
theorem directory_asked_in_turn (s : Service) (env : Environment) (log : Record) :
    (∀ call, ∃ events, (s.perform call env log).2 = log ++ events ∧
      (s.client.config.directoryEnabled = false → events.lookups = []) ∧ s.AsksInTurn events call) ∧
    ∀ domain, ∃ events, (s.partnerAccess domain env log).2 = log ++ events ∧ events.lookups = [] := by
  constructor
  · intro call
    obtain ⟨events, hlog, hrun⟩ := s.meets_perform call log
    exact ⟨events, hlog, hrun.asksInTurn⟩
  · intro domain
    obtain ⟨events, hlog, hrun⟩ := s.meets_partnerAccess domain log
    exact ⟨events, hlog, hrun.lookups⟩

end Service

end MailDiscovery
