import MailDiscovery.Proofs.DirectoryLookups.Rounds
import MailDiscovery.Proofs.Run.Forward
import MailDiscovery.Proofs.Search.Rounds
import MailDiscovery.Proofs.UriText

namespace MailDiscovery

variable {env : Environment} {before events more : Record} {start : String} {enabled : Bool}

def Record.Justified (P : Record → Uri → Prop) (before events : Record) : Prop :=
  ∀ first request outcome after, events = first ++ .exchange request outcome :: after → request.method = .post →
    P (before ++ first) request.url

namespace Record.Justified

variable {P : Record → Uri → Prop}

theorem append (h : Justified P before events) (hmore : Justified P (before ++ events) more) :
    Justified P before (events ++ more) := by
  intro first request outcome after heq hm
  rcases List.append_eq_append_iff.1 heq with ⟨rest, rfl, hrest⟩ | ⟨rest, hevents, hrest⟩
  · rw [← List.append_assoc]
    exact hmore rest request outcome after hrest hm
  · cases rest with
    | nil =>
      rw [List.append_nil] at hevents
      have hlast := hmore [] request outcome after hrest.symm hm
      rwa [List.append_nil, hevents] at hlast
    | cons event rest =>
      rw [List.cons_append, List.cons.injEq] at hrest
      rw [← hrest.1] at hevents
      exact h first request outcome rest hevents hm

theorem mono {Q : Record → Uri → Prop} (h : Justified P before events)
    (hPQ : ∀ before url, P before url → Q before url) : Justified Q before events :=
  fun first request outcome after heq hm => hPQ _ _ (h first request outcome after heq hm)

theorem of_quiet (h : events.Quiet) : Justified P before events := by
  rintro first request outcome after rfl hm
  have hquiet := h (.exchange request outcome) (by simp)
  simp [Event.isPost, hm] at hquiet

theorem nil : Justified P before [] :=
  of_quiet (by simp [Record.Quiet])

theorem single {request : Http.Request} {outcome : Except TransportError Http.Response}
    (h : P before request.url) : Justified P before [.exchange request outcome] := by
  intro first other result after heq hm
  cases first with
  | nil =>
    rw [List.nil_append, List.cons.injEq, Event.exchange.injEq] at heq
    rw [List.append_nil, ← heq.1.1]
    exact h
  | cons event first => simp at heq

end Record.Justified

open Record (Justified)

def DomainNow (start : String) (before : Record) (domain : String) : Prop :=
  MailAddress.domain (addressNow start (before.named (.legacy start))) = .ok domain

/-- The directory was asked for a domain since an answer last named an address. -/
def LookedUp (start : String) (before : Record) (domain : String) : Prop :=
  ∃ first since, before = first ++ [.directory domain] ++ since ∧ Record.named (.legacy start) since = []

/-- Why a query of a legacy call that looks for a service may go to a URL, given the events of the call before it: the
URL was found for the address that the call is at, or the exchange right before sent the query there. Guesses come after
a lookup, unless the directory may not be asked, or not for an address that has come back. -/
inductive Directed (env : Environment) (enabled : Bool) (start : String) : Record → Uri → Prop
  | listed {before : Record} {domain text : String} {url : Uri} (hd : DomainNow start before domain)
      (ha : LookedUp start before domain) (hl : text ∈ env.directory domain) (hu : Uri.ofText? text = some url) :
      Directed env enabled start before url
  | guessed {before : Record} {domain host : String} {url : Uri} (hd : DomainNow start before domain)
      (ha : enabled = true → ((start :: before.named (.legacy start)).map Text.lower).Nodup →
        LookedUp start before domain)
      (hh : host ∈ WellKnown.hostGuesses domain) (hu : WellKnown.legacyHttps? host = some url) :
      Directed env enabled start before url
  | located {before : Record} {domain host : String} {url : Uri} (hd : DomainNow start before domain)
      (hh : env.serviceHost domain = some host) (hu : WellKnown.legacyHttps? host = some url)
      (hv : env.approves url.text = true) : Directed env enabled start (before ++ [.records domain, .approval url.text]) url
  | pointed {before : Record} {domain : String} {location : ByteArray} {request : Http.Request}
      {response : Http.Response} {url : Uri} (hd : DomainNow start before domain) (hm : request.method = .get)
      (hu : WellKnown.legacyHttp? ("autodiscover." ++ domain) = some request.url)
      (hr : response.isRedirection = true) (hl : response.header? "location" = some location)
      (ht : request.url.resolve? location = some url) (hs : url.scheme? = some .https)
      (hp : isLegacyPath url.path = true) (hv : env.approves url.text = true) :
      Directed env enabled start (before ++ [.exchange request (.ok response), .approval url.text]) url
  | redirected {before : Record} {location : ByteArray} {request : Http.Request} {response : Http.Response} {url : Uri}
      (hm : request.method = .post) (hr : response.isRedirection = true)
      (hl : response.header? "location" = some location) (ht : request.url.resolve? location = some url)
      (hs : url.scheme? = some .https) (hp : isLegacyPath url.path = true) :
      Directed env enabled start (before ++ [.exchange request (.ok response)]) url
  | named {before : Record} {target : String} {request : Http.Request} {response : Http.Response} {url : Uri}
      (hm : request.method = .post) (hr : response.isSuccess = true)
      (hb : Legacy.ofBody response.body = .ok (.redirectUrl target)) (hu : Uri.ofText? target = some url) :
      Directed env enabled start (before ++ [.exchange request (.ok response)]) url

theorem DomainNow.append {domain : String} (hd : DomainNow start before domain)
    (hn : events.named (.legacy start) = []) : DomainNow start (before ++ events) domain := by
  unfold DomainNow
  rwa [Record.named_append, hn, List.append_nil]

theorem DomainNow.of_tracks {r : Redirection} {address domain : String}
    (ht : r.Tracks enabled start (before.named (.legacy start)) address)
    (ha : MailAddress.domain address = .ok domain) : DomainNow start before domain := by
  rw [DomainNow, ht.address_eq, ha]

def Standing (env : Environment) (enabled : Bool) (start : String) (before : Record) (url : Uri) : Prop :=
  ∀ since, Record.named (.legacy start) since = [] → Directed env enabled start (before ++ since) url

namespace Standing

variable {url : Uri}

theorem directed (h : Standing env enabled start before url) : Directed env enabled start before url := by
  rw [← before.append_nil]
  exact h [] rfl

theorem append (h : Standing env enabled start before url) (hn : events.named (.legacy start) = []) :
    Standing env enabled start (before ++ events) url := by
  intro since hsince
  rw [List.append_assoc]
  apply h
  rw [Record.named_append, hn, hsince]
  rfl

end Standing

namespace Client

variable {c : Client} {address : String}

theorem accepts_legacy {url : Uri} (h : (Query.legacy address).accepts url = true) :
    url.scheme? = some .https ∧ isLegacyPath url.path = true := by
  simpa [Query.accepts] using h

theorem Queried.justified {P : Record → Uri → Prop} {q : Query} {url : Uri} {result : Except Failure Answer}
    (h : c.Queried q url result events) (hP : P before url) : Justified P before events := by
  cases h with
  | refused hr => exact .nil
  | unheard hr =>
    apply Justified.single
    rwa [(of_queryRequest hr).2]
  | heard hr hread =>
    apply Justified.single
    rwa [(of_queryRequest hr).2]

theorem QueriedLegacy.justified {P : Record → Uri → Prop} {url : Uri} {result : Except Failure LegacyAnswer}
    (h : c.QueriedLegacy address url result events) (hP : P before url) : Justified P before events := by
  cases h with
  | failed h | answered h => exact h.justified hP

theorem QueriedLegacy.directed {url next : Uri} {target : String} (hreg : url.Regular)
    (h : c.QueriedLegacy address url (.ok (.redirectUrl target)) events) (ht : Uri.ofText? target = some next) :
    Directed env enabled start (before ++ events) next := by
  cases h with
  | answered h =>
    obtain ⟨request, response, rfl, hm, rfl, ⟨uri, hr, hown⟩ | hown⟩ := h.of_ok
    · rw [Query.redirection, Answer.legacy.injEq, LegacyAnswer.redirectUrl.injEq] at hown
      subst hown
      simp only [Event.redirection?] at hr
      split at hr
      · rename_i hredirect
        obtain ⟨hr, haccepts⟩ := Option.filter_eq_some_iff.1 hr
        obtain ⟨location, hl, hresolve⟩ := Option.bind_eq_some_iff.1 hr
        obtain ⟨hs, hp⟩ := accepts_legacy haccepts
        -- The URL goes on as its text and is read again: what was checked has to be what is asked.
        have hnext : next = uri := (hreg.resolve? hresolve).eq_of_ofText? Scheme.isWeb_https hs ht
        subst hnext
        exact .redirected hm hredirect.2 hl hresolve hs hp
      · cases hr
    · obtain ⟨_, _, heq, -, hsuccess, hread⟩ := Event.read_of_answer? hown
      cases heq
      have hb : Legacy.ofBody response.body = .ok (.redirectUrl target) := by
        simp only [Query.read, Except.map] at hread
        split at hread
        · cases hread
        · cases hread
          assumption
      exact .named hm hsuccess hb ht

theorem TriedLegacy.justified {left followed : Nat} {failures : LegacyFailures} {candidates : List (Candidate Uri)}
    {step : LegacyStep} (h : c.TriedLegacy address left failures candidates step followed events)
    (hreg : ∀ candidate ∈ candidates, candidate.target.Regular)
    (hfirst : ∀ candidate ∈ candidates.head?, Directed env enabled start before candidate.target)
    (hrest : ∀ candidate ∈ candidates.tail, Standing env enabled start before candidate.target) :
    Justified (Directed env enabled start) before events := by
  induction h generalizing before with
  | exhausted => exact .nil
  | failed h | found h | restarted h | refused h | exceeded h => exact h.justified (hfirst _ rfl)
  | skipped h he hn ih | kept h ho hn ih | lost h ht hn ih =>
    -- An answer after which the next candidate is tried names no address, so that all stay candidates.
    have hnext := fun candidate hmem => (hrest candidate hmem).append h.named
    refine (h.justified (hfirst _ rfl)).append (ih ?_ ?_ ?_)
    · exact fun candidate hmem => hreg candidate (List.mem_cons_of_mem _ hmem)
    · exact fun candidate hmem => (hnext candidate (List.mem_of_mem_head? hmem)).directed
    · exact fun candidate hmem => hnext candidate (List.mem_of_mem_tail hmem)
  | @onward left followed failures candidate rest target url step events more h ht hn ih =>
    refine (h.justified (hfirst _ rfl)).append (ih ?_ ?_ ?_)
    · rw [List.forall_mem_cons] at hreg ⊢
      exact ⟨Uri.regular_of_ofText? ht, hreg.2⟩
    · intro other hmem
      cases hmem
      exact h.directed (hreg _ List.mem_cons_self) ht
    · exact fun candidate hmem => (hrest candidate hmem).append h.named

theorem regular_of_legacyHttps? {host : String} {url : Uri} (h : WellKnown.legacyHttps? host = some url) :
    url.Regular :=
  Uri.regular_of_ofText? h

theorem knownUrls_standing {r : Redirection} {listed : List String} {domain : String}
    (hl : Listed env r domain listed events) (hd : DomainNow start before domain)
    (ht : r.Tracks enabled start (before.named (.legacy start)) address) :
    ∀ candidate ∈ knownUrls listed domain, candidate.target.Regular ∧
      Standing env enabled start (before ++ events) candidate.target := by
  have hnone : events.named (.legacy start) = [] := hl.quiet.named
  intro candidate hmem
  rcases List.mem_append.1 hmem with hmem | hmem
  · obtain ⟨url, hurl, rfl⟩ := List.mem_map.1 hmem
    obtain ⟨text, htext, hu⟩ := List.mem_filterMap.1 hurl
    cases hl with
    | asked h =>
      exact ⟨Uri.regular_of_ofText? hu, fun since hn =>
        .listed ((hd.append hnone).append hn) ⟨before, since, rfl, hn⟩ htext hu⟩
    | unasked h => cases htext
  · obtain ⟨url, hurl, rfl⟩ := List.mem_map.1 hmem
    obtain ⟨host, hhost, hu⟩ := List.mem_filterMap.1 hurl
    refine ⟨regular_of_legacyHttps? hu, fun since hn => .guessed ((hd.append hnone).append hn) ?_ hhost hu⟩
    intro henabled hnodup
    rw [Record.named_append, Record.named_append, hnone, hn, List.append_nil, List.append_nil] at hnodup
    cases hl with
    | asked h => exact ⟨before, since, rfl, hn⟩
    | unasked h => simp [ht.directory.2 ⟨henabled, hnodup⟩] at h

theorem Pointed.directed {domain : String} {url : Uri} (h : c.Pointed env (.legacy address) domain (some url) events)
    (hd : DomainNow start before domain) : url.Regular ∧ Directed env enabled start (before ++ events) url := by
  cases h with
  | approved hu hp hr ht ha hv =>
    cases hp with
    | heard hp =>
      obtain ⟨hm, rfl⟩ := of_probeRequest? hp
      obtain ⟨location, hl, hresolve⟩ := Option.bind_eq_some_iff.1 ht
      obtain ⟨hs, hpath⟩ := accepts_legacy ha
      exact ⟨(Uri.regular_of_ofText? hu).resolve? hresolve, .pointed hd hm hu hr hl hresolve hs hpath hv⟩

theorem Located.directed {domain : String} {url : Uri} (h : Located env domain (some url) events)
    (hd : DomainNow start before domain) : url.Regular ∧ Directed env enabled start (before ++ events) url := by
  cases h with
  | approved h hv =>
    obtain ⟨host, hh, hu⟩ := Option.bind_eq_some_iff.1 h
    exact ⟨regular_of_legacyHttps? hu, .located hd hh hu hv⟩

theorem FellBackLegacy.justified {left n m : Nat} {origin : Origin} {P : Option Uri → Record → Prop}
    {step final : LegacyStep} (h : c.FellBackLegacy address left origin P step n final m events)
    (hquiet : ∀ url events, P url events → events.Quiet)
    (hP : step.namedAddress? = none → ∀ url events, P (some url) events →
      url.Regular ∧ Directed env enabled start (before ++ events) url) :
    Justified (Directed env enabled start) before events := by
  cases h with
  | settled h => exact .nil
  | @tried failures url step followed further events more hp ht =>
    refine (Justified.of_quiet (hquiet _ _ hp)).append ?_
    cases url with
    | none => exact ht.justified (by simp) (by simp) (by simp)
    | some url =>
      obtain ⟨hreg, hdirected⟩ := hP rfl url events hp
      exact ht.justified (by simpa using hreg) (by simpa using hdirected) (by simp)

theorem RoundLegacy.justified {domain : String} {r : Redirection} {step : LegacyStep} {followed : Nat}
    (h : c.RoundLegacy env address domain r step followed events) (ha : MailAddress.domain address = .ok domain)
    (ht : r.Tracks enabled start (before.named (.legacy start)) address) :
    Justified (Directed env enabled start) before events := by
  have hd := DomainNow.of_tracks ht ha
  cases h with
  | @mk listed first second _ _ _ _ es₀ es₁ es₂ _ hl hf hr hs =>
    have hknown := knownUrls_standing hl hd ht
    have hfirst : Record.named (.legacy address) (es₀ ++ es₁) = first.namedAddress?.toList := by
      rw [Record.named_append, hl.quiet.named]
      exact hf.named
    have hsecond := hr.named (fun _ _ hp => hp.quiet) hfirst
    refine .append (.append (.append (.of_quiet hl.quiet) ?_) ?_) ?_
    · refine hf.justified (fun candidate hmem => (hknown candidate hmem).1) ?_ ?_
      · exact fun candidate hmem => (hknown candidate (List.mem_of_mem_head? hmem)).2.directed
      · exact fun candidate hmem => (hknown candidate (List.mem_of_mem_tail hmem)).2
    · refine hr.justified (fun _ _ hp => hp.quiet) fun hnone _ _ hp => hp.directed ?_
      exact hd.append (hfirst.trans (congrArg Option.toList hnone))
    · refine hs.justified (fun _ _ hp => hp.quiet) fun hnone _ _ hp => hp.directed ?_
      exact hd.append (hsecond.trans (congrArg Option.toList hnone))

theorem DiscoveredLegacy.justified {r : Redirection} {result : Except Failure (Settings UserSetting × Origin)}
    (h : c.DiscoveredLegacy env r address result events)
    (ht : r.Tracks enabled start (before.named (.legacy start)) address) :
    Justified (Directed env enabled start) before events := by
  induction h generalizing before with
  | unaddressed ha => exact .nil
  | found ha hr | failed ha hr | exhausted ha hr | exceeded ha hr hh => exact hr.justified ha ht
  | @restarted r next address domain target followed events more result ha hr hh hn ih =>
    have hnamed : events.named (.legacy start) = [target] := hr.named
    obtain ⟨htried, hdirectory⟩ := Redirection.remembered_of_hop? hh
    refine (hr.justified ha ht).append (ih ?_)
    rw [Record.named_append, hnamed]
    exact (ht.of_remembered htried hdirectory).visit target

end Client

namespace Service

variable {s t : Service}

def legacyUrl? (s : Service) : Option Uri :=
  match s.locator with
  | .undetermined => none
  | .url url _ => WellKnown.legacyOn? url
  | .domain name => WellKnown.legacyHttps? name

inductive MayQuery (s : Service) (env : Environment) (start : String) : Record → Uri → Prop
  | known {url : Uri} (h : s.legacyUrl? = some url) : MayQuery s env start [] url
  | found {before : Record} {url : Uri} (hl : s.locator = .undetermined)
      (h : Directed env s.client.config.directoryEnabled start before url) :
      MayQuery s env start before url

theorem AskedLegacy.justified {settings : List UserSetting} {result : Except Failure (Response UserSetting)}
    (h : s.AskedLegacy env start settings result t events) : Justified (s.MayQuery env start) [] events := by
  cases h with
  | unfound hl hd | found hl hd =>
    exact (hd.justified (Redirection.tracks_start ..)).mono fun _ _ => .found hl
  | unplaced hl hu | unnamed hl hu => exact .nil
  | asked hl hu hq | askedAt hl hu hq =>
    exact hq.justified (.known (by rw [legacyUrl?, hl]; exact hu))

theorem Performed.justified (hv : s.client.config.version.supportsSoap = false) {settings : List UserSetting}
    {result : Except Failure Reply} (h : s.Performed env (.user start settings) result t events) :
    Justified (s.MayQuery env start) [] events := by
  cases h with
  | blankAddress | noSettings => exact .nil
  | rounds hb hset hsoap hr => simp [hv] at hsoap
  | legacy hb hset hsoap hr => exact hr.justified

/-- A redirection and an approved answer to a probe send a legacy query only to legacy services over a safe connection.
An answer that names another URL sends it anywhere. -/
theorem legacy_queries_directed (hv : s.client.config.version.supportsSoap = false) (address : String)
    (settings : List UserSetting) (env : Environment) (log : Record) :
    ∃ events, (s.perform (.user address settings) env log).2 = log ++ events ∧
      ∀ before request outcome after, events = before ++ .exchange request outcome :: after →
        request.method = .post → s.MayQuery env address before request.url := by
  obtain ⟨events, hlog, hrun⟩ := s.meets_perform (.user address settings) log
  exact ⟨events, hlog, hrun.justified hv⟩

def plainText : String :=
  "http://plain.example/autodiscover/autodiscover.xml"

def plainUrl : Uri :=
  .absolute .http "plain.example" ⟨"/autodiscover/autodiscover.xml", none⟩

def namingBody : String :=
  "<Autodiscover><Response><Account><Action>redirectUrl</Action><RedirectUrl>" ++ plainText ++
    "</RedirectUrl></Account></Response></Autodiscover>"

def naming : Environment where
  transport _ request :=
    if request.url = firstGuess then .ok ⟨200, [], namingBody.toUTF8⟩ else .error (.timedOut request.timeout)
  directory _ := []
  serviceHost _ := none
  approves _ := false

def namesPlain : LegacyAnswer → Bool
  | .redirectUrl url => url == plainText
  | _ => false

theorem namingBody_read : Legacy.ofBody namingBody.toUTF8 = .ok (.redirectUrl plainText) := by
  have hread : ((Xml.Node.ofDocument? namingBody).any fun root =>
      (Legacy.ofRoot root).toOption.any namesPlain) = true := by
    unfold Xml.Node.ofDocument? namingBody plainText
    simp only [String.toList_append]
    decide +kernel
  obtain ⟨answer, hanswer, hnames⟩ := Legacy.exists_ofBody hread
  rw [hanswer]
  unfold namesPlain at hnames
  split at hnames
  · rw [beq_iff_eq] at hnames
    rw [hnames]
  · cases hnames

theorem followLegacy_naming (address : String) (log : Record) :
    ∃ asked request outcome, asked.method = .post ∧ request.method = .post ∧ request.url = plainUrl ∧
      (olderService.client.followLegacy address 10 firstGuess naming log).2 =
        log ++ [.exchange asked (.ok ⟨200, [], namingBody.toUTF8⟩), .exchange request outcome] := by
  have built (url : Uri) : ∃ request, olderService.client.queryRequest (.legacy address) url = .ok request :=
    ⟨_, rfl⟩
  obtain ⟨asked, hasked⟩ := built firstGuess
  obtain ⟨request, hrequest⟩ := built plainUrl
  obtain ⟨hm, hu⟩ := Client.of_queryRequest hasked
  obtain ⟨hm', hu'⟩ := Client.of_queryRequest hrequest
  have hnamed : naming.transport log.requests asked = .ok ⟨200, [], namingBody.toUTF8⟩ := if_pos hu
  let after := log ++ [.exchange asked (.ok ⟨200, [], namingBody.toUTF8⟩)]
  have hsilent : naming.transport (Record.requests after) request = .error (.timedOut request.timeout) :=
    if_neg (by rw [hu']; decide)
  have hfirst : olderService.client.queryLegacy address firstGuess naming log =
      (.ok (.redirectUrl plainText), after) :=
    Client.queryLegacy_of_transport hasked hnamed rfl namingBody_read
  have hsecond : olderService.client.queryLegacy address plainUrl naming after =
      (.error (.transport (.timedOut request.timeout)),
        after ++ [.exchange request (.error (.timedOut request.timeout))]) := by
    unfold Client.queryLegacy
    rw [Conversation.bind_of_eq (Client.query_of_transport_error hrequest hsilent)]
    rfl
  have hplain : Uri.ofText? plainText = some plainUrl := by decide +kernel
  refine ⟨asked, request, .error (.timedOut request.timeout), hm, hm', hu', ?_⟩
  rw [Client.followLegacy, Conversation.bind_of_eq hfirst]
  dsimp only
  rw [hplain]
  dsimp only
  rw [Client.followLegacy, bind_assoc, Conversation.bind_of_eq hsecond]
  exact List.append_assoc ..

theorem olderService_naming :
    ∃ before asked request outcome after,
      (olderService.perform (.user "jane@a.example" [.userDisplayName]) naming []).2 =
        before ++ .exchange asked (.ok ⟨200, [], namingBody.toUTF8⟩) :: .exchange request outcome :: after ∧
      asked.method = .post ∧ request.method = .post ∧ request.url = plainUrl := by
  obtain ⟨rounds, result, t, hcalled, hrun⟩ := olderService.perform_calledLegacy rfl rfl "jane@a.example"
    [.userDisplayName] naming []
  have hrounds : ∃ result, olderService.client.RoundsLegacy naming [] (.start (some "jane@a.example") true)
      "jane@a.example" rounds result := by
    cases hcalled with
    | blank hb => exact absurd hb (by decide +kernel)
    | unasked hs => cases hs
    | failed h | found h => exact ⟨_, h⟩
  obtain ⟨result, hrounds⟩ := hrounds
  have hdomain : MailAddress.domain "jane@a.example" = .ok "a.example" := by rfl
  obtain ⟨stages, later, rfl, hsearched⟩ := hrounds.first hdomain
  obtain ⟨stage, further, rfl, hsource, hwalked⟩ := hsearched.first
  have hguess : WellKnown.legacyHttps? "a.example" = some firstGuess := by decide +kernel
  obtain ⟨rest, hknown⟩ : ∃ rest, Client.knownUrls [] "a.example" = ⟨firstGuess, .guess⟩ :: rest := by
    simp [Client.knownUrls, WellKnown.hostGuesses, hguess]
  have hcandidates : stage.candidates = ⟨firstGuess, .guess⟩ :: rest :=
    (congrArg Prod.fst hsource).symm.trans hknown
  rw [hcandidates] at hwalked
  obtain ⟨a, others, hattempts, hcandidate, hmade⟩ := hwalked.first
  obtain ⟨asked, request, outcome, hm, hm', hu, hfollow⟩ := followLegacy_naming "jane@a.example" ([] ++ stage.finding)
  have hevents : a.events = [.exchange asked (.ok ⟨200, [], namingBody.toUTF8⟩), .exchange request outcome] := by
    have hlog := congrArg Prod.snd hmade
    rw [hcandidate] at hlog
    exact List.append_cancel_left (hlog.symm.trans hfollow)
  refine ⟨stage.finding, asked, request, outcome,
    Attempt.record others ++ Stage.record further ++ Round.record later, ?_, hm, hm', hu⟩
  rw [hrun, Round.record_cons, Stage.record_cons, Stage.events, hattempts, Attempt.record_cons, hevents]
  simp

theorem legacy_query_may_go_plain :
    ¬ ∀ (s : Service) (address : String) (settings : List UserSetting) (env : Environment) (log events : Record),
      s.client.config.version.supportsSoap = false →
      (s.perform (.user address settings) env log).2 = log ++ events →
      ∀ before asked response target request outcome after,
        events = before ++ .exchange asked (.ok response) :: .exchange request outcome :: after →
        asked.method = .post → response.isSuccess = true →
        Legacy.ofBody response.body = .ok (.redirectUrl target) → Uri.ofText? target = some request.url →
        request.method = .post → request.url.scheme? = some .https ∧ isLegacyPath request.url.path = true := by
  intro h
  obtain ⟨before, asked, request, outcome, after, hrun, hm, hm', hu⟩ := olderService_naming
  have hplain : Uri.ofText? plainText = some request.url := by
    rw [hu]
    decide +kernel
  have hsafe := (h olderService "jane@a.example" [.userDisplayName] naming [] _ rfl hrun before asked _ plainText
    request outcome after rfl hm rfl namingBody_read hplain hm').1
  rw [hu] at hsafe
  cases hsafe

theorem legacy_queries_directed_naming :
    olderService.client.config.version.supportsSoap = false ∧
      ∃ events, (olderService.perform (.user "jane@a.example" [.userDisplayName]) naming []).2 = [] ++ events ∧
        ∀ before request outcome after, events = before ++ .exchange request outcome :: after →
          request.method = .post → olderService.MayQuery naming "jane@a.example" before request.url :=
  ⟨rfl, legacy_queries_directed rfl "jane@a.example" [.userDisplayName] naming []⟩

end Service

end MailDiscovery
