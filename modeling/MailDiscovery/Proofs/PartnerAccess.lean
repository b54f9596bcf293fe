import MailDiscovery.Proofs.FlavourPath
import MailDiscovery.Proofs.KnownUrl

namespace MailDiscovery

open Conversation (Meets bind_of_eq)

inductive Xml.Node.Says (n : Node) (text : String) : Prop
  | mk {raw : String} (hn : n.isNil = false) (hf : n.firstText? = some raw) (ht : text = Text.trim raw)
      (hne : text ≠ "") : Says n text

theorem Xml.Node.content?_eq_some {n : Node} {text : String} : n.content? = some text ↔ n.Says text := by
  unfold content?
  split
  · rename_i hnil
    constructor
    · intro h
      cases h
    · rintro ⟨hn, -, -, -⟩
      simp [hnil] at hn
  · rename_i hnil
    rw [Bool.not_eq_true] at hnil
    rw [Option.filter_eq_some_iff, Option.map_eq_some_iff]
    constructor
    · rintro ⟨⟨raw, hraw, rfl⟩, hne⟩
      exact .mk hnil hraw rfl (by simpa using hne)
    · rintro ⟨-, hraw, rfl, hne⟩
      exact ⟨⟨_, hraw, rfl⟩, by simpa using hne⟩

theorem Soap.text?_eq_some {n : Xml.Node} {base text : String} :
    text? n base = some text ↔ ∃ child, n.child? (name base) = some child ∧ child.Says text := by
  unfold text? Xml.Node.contentOf?
  simp only [Option.bind_eq_some_iff, Xml.Node.content?_eq_some]

theorem Soap.tokens_of_ofRoot {ν : Type} [DecidableEq ν] [SettingName ν] {layout : Layout} {root : Xml.Node}
    {c : Collection ν} (h : ofRoot layout root = .ok c) :
    c.partnerToken = (part? root "Header").bind (text? · "PartnerToken") ∧
      c.partnerReference = (part? root "Header").bind (text? · "PartnerTokenReference") := by
  unfold ofRoot at h
  split at h
  · cases h
  obtain ⟨own, hown, h⟩ := Failure.of_bind_ok h
  obtain ⟨body, -, h⟩ := Failure.of_bind_ok h
  split at h
  · cases h
  obtain ⟨message, -, h⟩ := Failure.of_bind_ok h
  obtain ⟨answer, -, h⟩ := Failure.of_bind_ok h
  obtain ⟨responses, -, h⟩ := Failure.of_bind_ok h
  cases h
  unfold heading at hown
  split at hown
  · rename_i hheader
    cases hown
    rw [hheader]
    exact ⟨rfl, rfl⟩
  · rename_i header hheader
    rw [hheader]
    dsimp only at hown
    split at hown
    · cases hown
      exact ⟨rfl, rfl⟩
    · obtain ⟨info, -, hown⟩ := Failure.of_bind_ok hown
      cases hown
      exact ⟨rfl, rfl⟩

namespace PartnerAccess

inductive Grants (body : ByteArray) (token reference : String) : Prop
  | mk {root header tokenNode referenceNode : Xml.Node} {c : Collection UserSetting} {first : Response UserSetting}
      {rest : List (Response UserSetting)} (hroot : Xml.rootOfBody body = .ok root)
      (hread : Soap.ofRoot .users root = .ok c) (hheader : Soap.part? root "Header" = some header)
      (htoken : header.child? (Soap.name "PartnerToken") = some tokenNode) (htext : tokenNode.Says token)
      (hreference : header.child? (Soap.name "PartnerTokenReference") = some referenceNode)
      (hnames : referenceNode.Says reference) (hfirst : c.responses = first :: rest)
      (hcode : first.code = .noError ∨ first.code = .redirectUrl) : Grants body token reference

theorem token?_eq_some {c : Collection UserSetting} {token reference : String} :
    token? c = some (token, reference) ↔ c.partnerToken = some token ∧ c.partnerReference = some reference ∧
      ∃ first rest, c.responses = first :: rest ∧ (first.code = .noError ∨ first.code = .redirectUrl) := by
  unfold token?
  split
  · rename_i own other first rest htoken hreference hfirst
    rw [htoken, hreference, hfirst]
    split
    · rename_i hcode
      simp [hcode]
    · rename_i hcode
      simp [hcode]
  · rename_i hnone
    constructor
    · intro h
      cases h
    · rintro ⟨htoken, hreference, first, rest, hfirst, -⟩
      exact absurd hfirst (hnone _ _ _ _ htoken hreference)

theorem grants_iff {body : ByteArray} {token reference : String} :
    Grants body token reference ↔ ∃ c, Soap.ofBody .users body = .ok c ∧ token? c = some (token, reference) := by
  constructor
  · rintro ⟨hroot, hread, hheader, htoken, htext, hreference, hnames, hfirst, hcode⟩
    obtain ⟨htokenOf, hreferenceOf⟩ := Soap.tokens_of_ofRoot hread
    refine ⟨_, ?_, token?_eq_some.2 ⟨?_, ?_, _, _, hfirst, hcode⟩⟩
    · unfold Soap.ofBody
      rw [hroot]
      exact hread
    · rw [htokenOf, hheader]
      exact Soap.text?_eq_some.2 ⟨_, htoken, htext⟩
    · rw [hreferenceOf, hheader]
      exact Soap.text?_eq_some.2 ⟨_, hreference, hnames⟩
  · rintro ⟨c, hbody, htoken⟩
    obtain ⟨root, hroot, hread⟩ := Failure.of_bind_ok hbody
    obtain ⟨htokenOf, hreferenceOf⟩ := Soap.tokens_of_ofRoot hread
    obtain ⟨htoken, hreference, first, rest, hfirst, hcode⟩ := token?_eq_some.1 htoken
    rw [htokenOf] at htoken
    rw [hreferenceOf] at hreference
    obtain ⟨header, hheader, htoken⟩ := Option.bind_eq_some_iff.1 htoken
    rw [hheader, Option.bind_some] at hreference
    obtain ⟨tokenNode, htokenNode, htext⟩ := Soap.text?_eq_some.1 htoken
    obtain ⟨referenceNode, hreferenceNode, hnames⟩ := Soap.text?_eq_some.1 hreference
    exact .mk hroot hread hheader htokenNode htext hreferenceNode hnames hfirst hcode

end PartnerAccess

namespace Client

variable {c : Client} {env : Environment} {q : Query} {left : Nat} {log : Record} {url : Uri}

/-- A query that is sent on at most `left` times, each time to what the text of an accepted redirection reads as, before
a URL answers it with a status of success. -/
inductive Arrives (c : Client) (env : Environment) (q : Query) :
    Nat → Record → Uri → Uri → Http.Response → Prop
  | here {left : Nat} {log : Record} {url : Uri} {request : Http.Request} {response : Http.Response}
      (hr : c.queryRequest q url = .ok request) (ht : env.transport log.requests request = .ok response)
      (hs : response.isSuccess = true) : Arrives c env q left log url url response
  | onward {left : Nat} {log : Record} {url target next final : Uri} {request : Http.Request}
      {response last : Http.Response} (hr : c.queryRequest q url = .ok request)
      (ht : env.transport log.requests request = .ok response)
      (hn : Event.redirection? q (.exchange request (.ok response)) = some target)
      (hu : Uri.ofText? target.text = some next)
      (h : Arrives c env q left (log ++ [.exchange request (.ok response)]) next final last) :
      Arrives c env q (left + 1) log url final last

theorem readAnswer_of_redirection? {request : Http.Request} {response : Http.Response} {target : Uri}
    (hm : request.method = .post) (h : Event.redirection? q (.exchange request (.ok response)) = some target) :
    readAnswer q request.url response = .ok (q.redirection target) := by
  cases ha : readAnswer q request.url response with
  | error e =>
    rw [(readAnswer_eq_error ha).2.1] at h
    cases h
  | ok answer =>
    rcases readAnswer_eq_ok hm ha with ⟨other, hother, rfl⟩ | hanswer
    · rw [h, Option.some.injEq] at hother
      rw [hother]
    · rw [Event.answer?_of_redirection? h] at hanswer
      cases hanswer

theorem arrives_of_follow (hq : q.isSoap = true) (left : Nat) (log : Record) (url : Uri) {served : Served}
    (h : (c.follow q left url env log).1.1 = .ok served) :
    ∃ response, c.Arrives env q left log url served.url response ∧ q.read response.body = .ok served.answer := by
  generalize hquery : c.query q url env log = asked
  obtain ⟨outcome, after⟩ := asked
  cases outcome with
  | error e =>
    rw [follow, bind_of_eq hquery] at h
    cases h
  | ok answer =>
    obtain ⟨request, response, hr, ht, ha, rfl⟩ := of_query_ok hquery
    obtain ⟨hm, rfl⟩ := of_queryRequest hr
    rcases readAnswer_eq_ok hm ha with ⟨target, hn, rfl⟩ | hanswer
    · rw [follow, bind_of_eq hquery] at h
      dsimp only at h
      rw [Query.verdict_redirection hq] at h
      cases left with
      | zero => cases h
      | succ left =>
        dsimp only at h
        cases hu : Uri.ofText? target.text with
        | none =>
          rw [hu] at h
          cases h
        | some next =>
          rw [hu] at h
          obtain ⟨last, harrives, hread⟩ := arrives_of_follow hq left _ next h
          exact ⟨last, .onward hr ht hn hu harrives, hread⟩
    · obtain ⟨_, _, heq, -, hs, hread⟩ := Event.read_of_answer? hanswer
      cases heq
      rw [follow_of_query hquery (Query.verdict_of_read hq hread)] at h
      cases h
      exact ⟨response, .here hr ht hs, hread⟩

theorem Arrives.follow (hq : q.isSoap = true) {final : Uri} {response : Http.Response} {answer : Answer}
    (h : c.Arrives env q left log url final response) (hread : q.read response.body = .ok answer) :
    (c.follow q left url env log).1.1 = .ok ⟨answer, final⟩ := by
  induction h with
  | @here left log url request response hr ht hs =>
    have hanswer : readAnswer q url response = .ok answer := by
      rw [readAnswer_of_isSuccess hs, hread]
      rfl
    have hquery := query_of_transport hr ht
    rw [hanswer] at hquery
    rw [follow_of_query hquery (Query.verdict_of_read hq hread)]
  | onward hr ht hn hu h ih =>
    obtain ⟨hm, rfl⟩ := of_queryRequest hr
    have hquery := query_of_transport hr ht
    rw [readAnswer_of_redirection? hm hn] at hquery
    rw [Client.follow, bind_of_eq hquery]
    dsimp only
    rw [Query.verdict_redirection hq]
    dsimp only
    rw [hu]
    exact ih hread

theorem Arrives.isSome_scheme? (hq : q.isSoap = true) {final : Uri} {response : Http.Response}
    (h : c.Arrives env q left log url final response) (hs : url.scheme?.isSome = true) :
    final.scheme?.isSome = true := by
  induction h with
  | here hr ht hsuccess => exact hs
  | onward hr ht hn hu h ih =>
    refine ih ?_
    rcases Event.scheme?_of_redirection? hq hn hu with hscheme | hscheme <;> rw [hscheme] <;> rfl

end Client

namespace PartnerAccess

def Issued (c : Client) (env : Environment) (log : Record) (url : Uri) (domain : String) (final : Uri)
    (token reference : String) : Prop :=
  ∃ response, c.Arrives env (.users [mailbox domain] [.externalEwsUrl]) 10 log url final response ∧
    Grants response.body token reference

structure Fits (access : PartnerAccess) (final : Uri) (token reference : String) : Prop where
  credential : access.credential = .partnerToken token reference
  scheme : access.url.scheme? = final.scheme?
  authority : access.url.authority? = final.authority?
  query : access.url.query? = final.query?
  path : ∃ rest, Flavour.Bare final.path.toList rest ∧
    access.url.path = String.ofList rest ++ "/wssecurity/symmetrickey"

variable {c : Client} {env : Environment} {log : Record} {url final : Uri} {domain token reference : String}

def offered? : Except Failure Served → Option (Uri × String × String)
  | .error _ => none
  | .ok served => (served.answer.users?.toOption.bind token?).map (served.url, ·)

theorem offered?_eq_some {outcome : Except Failure Served} : offered? outcome = some (final, token, reference) ↔
    ∃ collection, outcome = .ok ⟨.users collection, final⟩ ∧ token? collection = some (token, reference) := by
  constructor
  · intro h
    cases outcome with
    | error e => cases h
    | ok served =>
      obtain ⟨answer, url⟩ := served
      obtain ⟨tokens, htokens, heq⟩ := Option.map_eq_some_iff.1 h
      cases heq
      obtain ⟨collection, hcollection, htoken⟩ := Option.bind_eq_some_iff.1 htokens
      cases answer with
      | legacy | domains => cases hcollection
      | users c =>
        cases hcollection
        exact ⟨_, rfl, htoken⟩
  · rintro ⟨collection, rfl, htoken⟩
    simp [offered?, Answer.users?, Except.toOption, htoken]

theorem issued_iff : Issued c env log url domain final token reference ↔
    offered? (c.follow (.users [mailbox domain] [.externalEwsUrl]) 10 url env log).1.1 =
      some (final, token, reference) := by
  rw [offered?_eq_some]
  constructor
  · rintro ⟨response, harrives, hgrants⟩
    obtain ⟨collection, hbody, htoken⟩ := grants_iff.1 hgrants
    refine ⟨collection, harrives.follow rfl ?_, htoken⟩
    rw [Query.read, hbody]
    rfl
  · rintro ⟨collection, hfollow, htoken⟩
    obtain ⟨response, harrives, hread⟩ := Client.arrives_of_follow rfl 10 log url hfollow
    refine ⟨response, harrives, grants_iff.2 ⟨collection, ?_, htoken⟩⟩
    rw [Query.read] at hread
    cases hbody : (Soap.ofBody .users response.body : Except ReadingError (Collection UserSetting)) with
    | error e =>
      rw [hbody] at hread
      cases hread
    | ok other =>
      rw [hbody] at hread
      cases hread
      rfl

end PartnerAccess

namespace Service

open PartnerAccess (Issued Fits token? mailbox offered?)

variable {s : Service} {env : Environment} {log : Record} {url : Uri} {domain : String}

theorem resolve_of_follow {host : String} {q : Query} {r : Redirection} {outcome : Except Failure Served}
    {followed : Nat} {after : Record} (hl : s.locator = .url url host)
    (h : s.client.follow q r.left url env log = ((outcome, followed), after)) :
    s.resolve q domain r env log =
      ((outcome.map fun served => (served.answer, s.adopt served.url), followed), after) := by
  unfold resolve
  rw [hl]
  exact bind_of_eq h _

theorem grant_fits (s : Service) {final : Uri} (hs : final.scheme?.isSome = true) (token reference : String) :
    ∃ access, (s.adopt final).grant token reference = .ok access ∧ access.Fits final token reference := by
  obtain ⟨scheme, hscheme⟩ := Option.isSome_iff_exists.1 hs
  obtain ⟨host, hhost⟩ := Option.isSome_iff_exists.1 (Uri.isSome_host?_of_scheme? hscheme)
  have hurl : (s.adopt final).url? = some final := by
    unfold url?
    rw [locator_adopt hhost]
    rfl
  have hflavour : (Credential.partnerToken token reference).flavour ≠ .plain := by simp [Credential.flavour]
  obtain ⟨adjusted, hadjusted, hown, hauthority, hquery, hpath⟩ := Credential.adjust?_of_scheme hflavour hscheme
  refine ⟨⟨.partnerToken token reference, adjusted⟩, ?_, rfl, hown, hauthority, hquery,
    Flavour.strip final.path.toList, Flavour.bare_strip _, hpath⟩
  unfold grant
  rw [hurl]
  dsimp only
  rw [hadjusted]

theorem checkPartner_eq_ok {host : String} (hl : s.locator = .url url host)
    (hx : s.client.credential.isX509 = true)
    (hv : ServerVersion.exchange2010Sp1.reaches s.client.config.version = true)
    (hb : Text.isBlankText domain = false) : s.checkPartner domain = .ok () := by
  have hurl : s.url? = some url := by
    unfold url?
    rw [hl]
    rfl
  have hversion : s.checkVersion .partnerAccess = .ok () := if_pos hv
  unfold checkPartner
  rw [hversion]
  simp [bind, Except.bind, hx, hurl, hb]

theorem partnerAccess_of_follow {host : String} (hl : s.locator = .url url host)
    (hc : s.checkPartner domain = .ok ()) (env : Environment) (log : Record) :
    (s.partnerAccess domain env log).1.1 =
      match offered? (s.client.follow (.users [mailbox domain] [.externalEwsUrl]) 10 url env log).1.1 with
      | none => .ok none
      | some (final, token, reference) => ((s.adopt final).grant token reference).map some := by
  generalize hf : s.client.follow (.users [mailbox domain] [.externalEwsUrl]) 10 url env log = run
  obtain ⟨⟨outcome, followed⟩, after⟩ := run
  unfold partnerAccess
  rw [hc]
  dsimp only
  rw [bind_of_eq (resolve_of_follow hl hf)]
  cases outcome with
  | error e => rfl
  | ok served =>
    simp only [Except.map, offered?]
    cases served.answer.users?.toOption.bind token? <;> rfl

theorem partnerAccess_issued {host : String} (hl : s.locator = .url url host)
    (hc : s.checkPartner domain = .ok ()) (hs : url.scheme?.isSome = true) :
    ∃ granted, (s.partnerAccess domain env log).1.1 = .ok granted ∧
      (granted.isSome = true ↔ ∃ final token reference, Issued s.client env log url domain final token reference) ∧
      ∀ access, granted = some access → ∃ final token reference,
        Issued s.client env log url domain final token reference ∧ access.Fits final token reference := by
  rw [partnerAccess_of_follow hl hc]
  cases ho : offered? (s.client.follow (.users [mailbox domain] [.externalEwsUrl]) 10 url env log).1.1 with
  | none =>
    refine ⟨none, rfl, ?_, by simp⟩
    constructor
    · intro h
      cases h
    · rintro ⟨final, token, reference, hissued⟩
      rw [PartnerAccess.issued_iff.1 hissued] at ho
      cases ho
  | some offer =>
    obtain ⟨final, token, reference⟩ := offer
    obtain ⟨response, harrives, hgrants⟩ := PartnerAccess.issued_iff.2 ho
    have hissued : Issued s.client env log url domain final token reference := ⟨response, harrives, hgrants⟩
    obtain ⟨access, hgrant, hfits⟩ := s.grant_fits (harrives.isSome_scheme? rfl hs) token reference
    refine ⟨some access, ?_, ⟨fun _ => ⟨final, token, reference, hissued⟩, fun _ => rfl⟩, ?_⟩
    · dsimp only
      rw [hgrant]
      rfl
    · rintro _ ⟨⟩
      exact ⟨final, token, reference, hissued, hfits⟩

/-- Whoever asks a known URL for access to the tenant of a partner is told whether it is granted, at the cost of queries
alone. It is exactly if the redirections from that URL, at most ten, lead to an answer that grants it. -/
theorem partner_access_granted {host : String} (hl : s.locator = .url url host) (hs : url.scheme?.isSome = true)
    (hx : s.client.credential.isX509 = true)
    (hv : ServerVersion.exchange2010Sp1.reaches s.client.config.version = true)
    (hb : Text.isBlankText domain = false) (env : Environment) (log : Record) :
    ∃ granted events, (s.partnerAccess domain env log).1.1 = .ok granted ∧
      (s.partnerAccess domain env log).2 = log ++ events ∧ (∀ event ∈ events, event.isPost = true) ∧
      (granted.isSome = true ↔ ∃ final token reference, Issued s.client env log url domain final token reference) ∧
      ∀ access, granted = some access → ∃ final token reference,
        Issued s.client env log url domain final token reference ∧ access.Fits final token reference := by
  obtain ⟨events, hlog, hasked⟩ := s.meets_partnerAccess domain log
  obtain ⟨granted, hgranted, hiff, hfits⟩ := partnerAccess_issued hl (checkPartner_eq_ok hl hx hv hb) hs
  exact ⟨granted, events, hgranted, hlog, (hasked.atUrl hl).1, hiff, hfits⟩

def certifiedUrl : Uri :=
  .absolute .https "mail.a.example" ⟨"/autodiscover/autodiscover.svc/wssecurity/x509cert", none⟩

def certifiedService : Service where
  client := ⟨{}, .x509 "<token/>"⟩
  locator := .url certifiedUrl "mail.a.example"

def grantingBody : String :=
  "<e:Envelope xmlns:e=\"http://schemas.xmlsoap.org/soap/envelope/\" " ++
    "xmlns=\"http://schemas.microsoft.com/exchange/2010/Autodiscover\"><e:Header>" ++
    "<PartnerToken> token </PartnerToken><PartnerTokenReference>reference</PartnerTokenReference></e:Header><e:Body>" ++
    "<GetUserSettingsResponseMessage><Response><UserResponses><UserResponse/></UserResponses></Response>" ++
    "</GetUserSettingsResponseMessage></e:Body></e:Envelope>"

theorem grantingBody_grants : PartnerAccess.Grants grantingBody.toUTF8 "token" "reference" := by
  have hread : ((Xml.Node.ofDocument? grantingBody).any fun root =>
      (Soap.ofRoot .users root).toOption.any (token? · == some ("token", "reference"))) = true := by
    unfold Xml.Node.ofDocument? grantingBody
    simp only [String.toList_append]
    decide +kernel
  obtain ⟨c, hc, htoken⟩ := Soap.exists_ofBody hread
  exact PartnerAccess.grants_iff.2 ⟨c, hc, beq_iff_eq.1 htoken⟩

def granting : Environment where
  transport _ _ := .ok ⟨200, [], grantingBody.toUTF8⟩
  directory _ := []
  serviceHost _ := none
  approves _ := false

theorem partner_access_granted_certified :
    certifiedService.locator = .url certifiedUrl "mail.a.example" ∧ certifiedUrl.scheme?.isSome = true ∧
      certifiedService.client.credential.isX509 = true ∧
      ServerVersion.exchange2010Sp1.reaches certifiedService.client.config.version = true ∧
      Text.isBlankText "b.example" = false ∧
      ∃ access, (certifiedService.partnerAccess "b.example" granting []).1.1 = .ok (some access) := by
  have hb : Text.isBlankText "b.example" = false := by decide +kernel
  refine ⟨rfl, rfl, rfl, rfl, hb, ?_⟩
  have hissued : Issued certifiedService.client granting [] certifiedUrl "b.example" certifiedUrl "token" "reference" := by
    refine ⟨⟨200, [], grantingBody.toUTF8⟩, ?_, grantingBody_grants⟩
    exact .here rfl rfl rfl
  obtain ⟨granted, events, hgranted, -, -, hiff, -⟩ := partner_access_granted (s := certifiedService)
    rfl rfl rfl rfl hb granting []
  obtain ⟨access, rfl⟩ := Option.isSome_iff_exists.1 (hiff.2 ⟨_, _, _, hissued⟩)
  exact ⟨access, hgranted⟩

end Service

end MailDiscovery
