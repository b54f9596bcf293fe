import MailDiscovery.Proofs.KnownUrl
import MailDiscovery.Proofs.UriSpelling
import MailDiscovery.Proofs.UriText

namespace MailDiscovery

namespace Uri

variable {base target : Uri} {scheme : Scheme} {name : String} {location : ByteArray}

theorem regular_of_resolve? (hs : base.scheme? = some scheme) (hn : base.authority? = some name)
    (hv : ValidAuthority name.toList) (h : base.resolve? location = some target) : target.Regular := by
  cases base with
  | bare | origin => cases hs
  | absolute =>
    cases hs
    cases hn
    -- Only the scheme and the authority of the base matter, so that its target may be taken for the root.
    have hroot : Target.Regular ⟨"/", none⟩ := ⟨⟨[], rfl⟩, by simp; decide, by simp⟩
    have hbase : Regular (.absolute scheme name ⟨"/", none⟩) :=
      .absolute (by simpa using hv.ne) hv.valid hv.endsAuthority_eq_false hroot
    exact hbase.resolve? h

end Uri

namespace Query

theorem isWeb_of_accepts {q : Query} {target : Uri} (h : q.accepts target = true) :
    ∃ scheme : Scheme, scheme.IsWeb ∧ target.scheme? = some scheme := by
  cases q with
  | legacy address => exact ⟨.https, .inr rfl, by simp_all [accepts]⟩
  | users | domains =>
    simp only [accepts, Bool.or_eq_true, beq_iff_eq] at h
    rcases h with h | h
    · exact ⟨.https, .inr rfl, h⟩
    · exact ⟨.http, .inl rfl, h⟩

theorem verdict_of_redirection (q : Query) (target : Uri) :
    (q.redirection target).verdict = .redirectUrl target.text := by
  cases q with
  | legacy | users | domains => rfl

end Query

namespace Client

variable {c : Client} {env : Environment} {q : Query} {url target : Uri} {log after : Record}

theorem QueriedLegacy.beginsAt {address : String} {result : Except Failure LegacyAnswer} {events : Record}
    (h : c.QueriedLegacy address url result events) : c.BeginsAt url events := by
  cases h with
  | failed h | answered h => exact h.beginsAt

theorem TriedLegacy.beginsAt {address : String} {left followed : Nat} {failures : LegacyFailures}
    {candidate : Candidate Uri} {rest : List (Candidate Uri)} {step : LegacyStep} {events : Record}
    (h : c.TriedLegacy address left failures (candidate :: rest) step followed events) (hc : c.canAsk = true) :
    c.BeginsAt candidate.target events := by
  cases h with
  | failed h | found h | restarted h | refused h | exceeded h => exact h.beginsAt
  | skipped h | kept h | onward h | lost h => exact h.beginsAt.append hc _

/-- A loop that has been redirected goes on at the target, which is asked next, with one redirection less to follow. -/
structure GoesOn {α : Type} (loop further : Conversation (α × Nat)) (env : Environment) (log after : Record)
    (target : Uri) : Prop where
  onward : loop env log = (Prod.map id (· + 1) <$> further) env after
  asks : ∃ event more, (loop env log).2 = after ++ event :: more ∧ event.postedTo? = some target

theorem goesOn_of_meets {α : Type} {loop further : Conversation (α × Nat)} {P : α × Nat → Record → Prop}
    (honward : loop env log = (Prod.map id (· + 1) <$> further) env after) (hm : Conversation.Meets env further P)
    (hb : ∀ result events, P result events → c.BeginsAt target events) (hc : c.canAsk = true) :
    GoesOn loop further env log after target := by
  refine ⟨honward, ?_⟩
  obtain ⟨events, hlog, hP⟩ := hm after
  have hbegins := hb _ _ hP
  rw [BeginsAt, if_pos hc] at hbegins
  obtain ⟨event, more, rfl, hevent⟩ := hbegins
  exact ⟨event, more, by rw [honward]; exact hlog, hevent⟩

theorem follow_of_redirection {answer : Answer} {text : String} (hq : c.query q url env log = (.ok answer, after))
    (hv : answer.verdict = .redirectUrl text) (ht : Uri.ofText? text = some target) (left : Nat) :
    c.follow q (left + 1) url env log = (Prod.map id (· + 1) <$> c.follow q left target) env after := by
  rw [follow, Conversation.bind_of_eq hq]
  dsimp only
  rw [hv]
  dsimp only
  rw [ht]
  rfl

theorem tryLegacy_of_redirection {address text : String}
    (hq : c.queryLegacy address url env log = (.ok (.redirectUrl text), after)) (ht : Uri.ofText? text = some target)
    (left : Nat) (failures : LegacyFailures) (origin : Origin) (rest : List (Candidate Uri)) :
    c.tryLegacy address (left + 1) failures (⟨url, origin⟩ :: rest) env log =
      (Prod.map id (· + 1) <$> c.tryLegacy address left failures (⟨target, origin⟩ :: rest)) env after := by
  rw [tryLegacy, Conversation.bind_of_eq hq]
  dsimp only
  rw [ht]
  rfl

theorem readAnswer_of_resolve? {response : Http.Response} {location : ByteArray}
    (hr : response.isRedirection = true) (hl : response.header? "location" = some location)
    (ht : url.resolve? location = some target) (ha : q.accepts target = true) :
    readAnswer q url response = .ok (q.redirection target) := by
  rw [readAnswer, if_pos hr, readRedirection, hl]
  dsimp only
  rw [ht]
  dsimp only
  rw [if_pos ha]

theorem redirections_followed_exactly {base target : Uri} {scheme : Scheme} {name : String} {location : ByteArray}
    {q : Query} (hs : base.scheme? = some scheme) (hn : base.authority? = some name)
    (hv : Uri.ValidAuthority name.toList) (ht : base.resolve? location = some target) (ha : q.accepts target = true)
    (hl : target.text.utf8ByteSize ≤ Uri.longestText) :
    (q.redirection target).verdict = .redirectUrl target.text ∧ Uri.ofText? target.text = some target ∧
      ∀ (c : Client) (env : Environment) (log : Record) (request : Http.Request) (response : Http.Response),
        c.queryRequest q base = .ok request → env.transport log.requests request = .ok response →
        response.isRedirection = true → response.header? "location" = some location →
        (∀ left, GoesOn (c.follow q (left + 1) base) (c.follow q left target) env log
          (log ++ [.exchange request (.ok response)]) target) ∧
        ∀ address, q = .legacy address → ∀ left failures origin rest,
          GoesOn (c.tryLegacy address (left + 1) failures (⟨base, origin⟩ :: rest))
            (c.tryLegacy address left failures (⟨target, origin⟩ :: rest)) env log
            (log ++ [.exchange request (.ok response)]) target := by
  obtain ⟨own, hweb, hown⟩ := Query.isWeb_of_accepts ha
  have hverdict := q.verdict_of_redirection target
  have hread : Uri.ofText? target.text = some target :=
    (Uri.regular_of_resolve? hs hn hv ht).ofText?_text hweb hown hl
  refine ⟨hverdict, hread, ?_⟩
  intro c env log request response hrequest hanswer hr hlocation
  have hcan : c.canAsk = true := by
    rw [← c.isOk_queryRequest q base, hrequest]
    rfl
  have hquery := query_of_transport hrequest hanswer
  rw [readAnswer_of_resolve? hr hlocation ht ha] at hquery
  constructor
  · intro left
    exact goesOn_of_meets (follow_of_redirection hquery hverdict hread left) (c.meets_follow q left target)
      (fun _ _ h => h.beginsAt) hcan
  · rintro address rfl left failures origin rest
    have hlegacy : c.queryLegacy address base env log =
        (.ok (.redirectUrl target.text), log ++ [.exchange request (.ok response)]) := by
      unfold queryLegacy
      exact Conversation.bind_of_eq hquery _
    exact goesOn_of_meets (tryLegacy_of_redirection hlegacy hread left failures origin rest)
      (c.meets_tryLegacy address left failures _) (fun _ _ h => h.beginsAt hcan) hcan

def redirecting : Environment where
  transport _ _ := .ok ⟨302, [("location", "/autodiscover/autodiscover.xml?page=2#top".toUTF8)], ByteArray.empty⟩
  directory _ := []
  serviceHost _ := none
  approves _ := false

def firstPage : Uri :=
  .absolute .https "[2001:db8::1]:8443" ⟨"/autodiscover/autodiscover.xml", none⟩

def secondPage : Uri :=
  .absolute .https "[2001:db8::1]:8443" ⟨"/autodiscover/autodiscover.xml", some "page=2"⟩

theorem redirections_followed_exactly_redirecting :
    firstPage.resolve? "/autodiscover/autodiscover.xml?page=2#top".toUTF8 = some secondPage ∧
      (Query.legacy "jane@a.example").accepts secondPage = true ∧ Uri.ofText? secondPage.text = some secondPage ∧
      ∃ request response,
        Service.olderService.client.queryRequest (.legacy "jane@a.example") firstPage = .ok request ∧
        redirecting.transport [] request = .ok response ∧
        GoesOn (Service.olderService.client.tryLegacy "jane@a.example" 1 {} [⟨firstPage, .guess⟩])
          (Service.olderService.client.tryLegacy "jane@a.example" 0 {} [⟨secondPage, .guess⟩]) redirecting []
          [.exchange request (.ok response)] secondPage := by
  have hresolve : firstPage.resolve? "/autodiscover/autodiscover.xml?page=2#top".toUTF8 = some secondPage := by
    decide +kernel
  have haccepts : (Query.legacy "jane@a.example").accepts secondPage = true := by decide +kernel
  have hcan : Service.olderService.client.canAsk = true := by decide +kernel
  have hasks := Service.olderService.client.isOk_queryRequest (.legacy "jane@a.example") firstPage
  obtain ⟨-, hread, hgoes⟩ := redirections_followed_exactly rfl rfl ⟨by decide, by decide⟩ hresolve haccepts (by decide)
  cases hrequest : Service.olderService.client.queryRequest (.legacy "jane@a.example") firstPage with
  | error e =>
    rw [hrequest, hcan] at hasks
    cases hasks
  | ok request =>
    have hloops := hgoes Service.olderService.client redirecting [] request _ hrequest rfl rfl rfl
    exact ⟨hresolve, haccepts, hread, request, _, rfl, rfl, hloops.2 _ rfl 0 {} .guess []⟩

end Client

end MailDiscovery
