import MailDiscovery.Proofs.Coupling.Call
import MailDiscovery.Proofs.Run.Forward
import MailDiscovery.Proofs.Run.Query

/-!
Passwords and tokens influence nothing but the header that carries them. Two services that differ in their secret are
run side by side, where nobody looks at that header: whatever is done with them, they cannot be told apart.
-/

namespace MailDiscovery

def Http.Header.isAuthorization (header : Http.Header) : Bool :=
  Text.sameLetters "authorization" header.name

namespace Http.Request

def concealed (request : Http.Request) : Http.Request :=
  { request with headers := request.headers.filter fun header => !header.isAuthorization }

def isBare (request : Http.Request) : Bool :=
  request.headers.all fun header => !header.isAuthorization

end Http.Request

namespace Event

def concealed : Event → Event
  | exchange request outcome => .exchange request.concealed outcome
  | event => event

def isDiscreet : Event → Bool
  | exchange request _ => request.method == .post || request.isBare
  | _ => true

theorem request?_concealed (event : Event) : event.concealed.request? = event.request?.map Http.Request.concealed := by
  cases event <;> rfl

end Event

namespace Record

def concealed (log : Record) : Record :=
  log.map Event.concealed

def Discreet (log : Record) : Prop :=
  ∀ event ∈ log, event.isDiscreet = true

theorem concealed_append (log events : Record) : concealed (log ++ events) = log.concealed ++ events.concealed :=
  List.map_append

theorem requests_concealed (log : Record) : log.concealed.requests = log.requests.map Http.Request.concealed := by
  simp only [requests, concealed, List.filterMap_map, List.map_filterMap]
  congr 1
  funext event
  exact event.request?_concealed

def DifferInSecrets (before log log' : Record) : Prop :=
  ∃ events events', log = before ++ events ∧ log' = before ++ events' ∧
    concealed events = concealed events' ∧ Discreet events ∧ Discreet events'

variable {before log log' : Record}

theorem DifferInSecrets.refl (log : Record) : DifferInSecrets log log log :=
  ⟨[], [], by simp, by simp, rfl, by simp [Discreet], by simp [Discreet]⟩

theorem Discreet.concat {events : Record} {event : Event} (hall : events.Discreet) (hone : event.isDiscreet = true) :
    Discreet (events ++ [event]) :=
  List.forall_mem_append.2 ⟨hall, List.forall_mem_singleton.2 hone⟩

theorem DifferInSecrets.requests (h : DifferInSecrets before log log') :
    log.requests.map Http.Request.concealed = log'.requests.map Http.Request.concealed := by
  obtain ⟨events, events', rfl, rfl, hevents, -, -⟩ := h
  rw [← requests_concealed, ← requests_concealed, concealed_append, concealed_append, hevents]

theorem DifferInSecrets.append {event event' : Event} (h : DifferInSecrets before log log')
    (heq : event.concealed = event'.concealed) (hd : event.isDiscreet = true) (hd' : event'.isDiscreet = true) :
    DifferInSecrets before (log ++ [event]) (log' ++ [event']) := by
  obtain ⟨events, events', rfl, rfl, hevents, hdiscreet, hdiscreet'⟩ := h
  refine ⟨events ++ [event], events' ++ [event'], by simp, by simp, ?_, hdiscreet.concat hd, hdiscreet'.concat hd'⟩
  rw [concealed_append, concealed_append, hevents]
  simp [concealed, heq]

end Record

/-- Servers do not look at the header that carries a secret. -/
def Environment.IgnoresAuthorization (env : Environment) : Prop :=
  ∀ sent sent' request request', sent.map Http.Request.concealed = sent'.map Http.Request.concealed →
    request.concealed = request'.concealed → env.transport sent request = env.transport sent' request'

/-- Credentials that differ in a password, or in a token that fits into a header. -/
inductive Credential.DifferInSecret : Credential → Credential → Prop
  | basic (username : String) (password password' : Secret) :
      DifferInSecret (.basic username (some password)) (.basic username (some password'))
  | oauth {token token' : Secret} (h : Http.isValue token.reveal = true) (h' : Http.isValue token'.reveal = true) :
      DifferInSecret (.oauth token) (.oauth token')

namespace Conversation

open Record (DifferInSecrets)

variable {env : Environment} {before : Record}

theorem coupled_send_concealed {request request' : Http.Request} (he : env.IgnoresAuthorization)
    (heq : request.concealed = request'.concealed) (hd : request.method = .post ∨ request.isBare = true)
    (hd' : request'.method = .post ∨ request'.isBare = true) :
    Coupled (DifferInSecrets before) env env (send request) (send request') Eq := by
  intro log log' hlog
  have hreply := he _ _ _ _ hlog.requests heq
  refine ⟨hreply, hlog.append ?_ ?_ ?_⟩
  · rw [Event.concealed, Event.concealed, heq, hreply]
  · simpa [Event.isDiscreet] using hd
  · simpa [Event.isDiscreet] using hd'

theorem coupled_ask {α : Type} {x : Conversation α} {event : Event} {answer : α}
    (hx : ∀ log, x env log = (answer, log ++ [event])) (hd : event.isDiscreet = true) :
    Coupled (DifferInSecrets before) env env x x Eq := by
  intro log log' hlog
  rw [hx, hx]
  exact ⟨rfl, hlog.append rfl hd hd⟩

end Conversation

namespace Credential.DifferInSecret

open Conversation (Coupled coupled_pure)
open Record (DifferInSecrets)

variable {c c' : Credential} {config : Config} {env : Environment} {before : Record}

theorem flavour (h : c.DifferInSecret c') : c.flavour = c'.flavour := by
  cases h <;> rfl

theorem describe (h : c.DifferInSecret c') : c.describe = c'.describe := by
  cases h <;> rfl

theorem securityHeader? (h : c.DifferInSecret c') : c.securityHeader? = c'.securityHeader? := by
  cases h <;> rfl

theorem render (h : c.DifferInSecret c') (q : Query) (url : Uri) (version : ServerVersion) :
    q.render url version c = q.render url version c' := by
  cases q with
  | legacy address => rfl
  | users addresses settings => rw [Query.render, Query.render, h.securityHeader?]
  | domains names settings requested => rw [Query.render, Query.render, h.securityHeader?]

theorem authorization (h : c.DifferInSecret c') :
    ∃ value value', c.authorization = .ok [⟨"authorization", value, true⟩] ∧
      c'.authorization = .ok [⟨"authorization", value', true⟩] := by
  cases h with
  | basic username password password' => exact ⟨_, _, rfl, rfl⟩
  | oauth h h' => exact ⟨_, _, if_pos h, if_pos h'⟩

theorem queryRequest (h : c.DifferInSecret c') (config : Config) (q : Query) (url : Uri) :
    (∃ e, Client.queryRequest ⟨config, c⟩ q url = .error e ∧ Client.queryRequest ⟨config, c'⟩ q url = .error e) ∨
      ∃ request request', Client.queryRequest ⟨config, c⟩ q url = .ok request ∧
        Client.queryRequest ⟨config, c'⟩ q url = .ok request' ∧ request.concealed = request'.concealed := by
  obtain ⟨value, value', hvalue, hvalue'⟩ := h.authorization
  unfold Client.queryRequest
  simp only [hvalue, hvalue', h.render, bind, Except.bind]
  by_cases hagent : Http.isValue config.userAgent = true
  · right
    refine ⟨_, _, if_pos hagent, if_pos hagent, ?_⟩
    have hsecret (value : String) : Http.Header.isAuthorization ⟨"authorization", value, true⟩ = true := by
      change Text.sameLetters "authorization" "authorization" = true
      decide
    simp [Http.Request.concealed, hsecret]
  · exact .inl ⟨_, if_neg hagent, if_neg hagent⟩

theorem coupled_query (h : c.DifferInSecret c') (he : env.IgnoresAuthorization) (q : Query) (url : Uri) :
    Coupled (DifferInSecrets before) env env (Client.query ⟨config, c⟩ q url) (Client.query ⟨config, c'⟩ q url) Eq := by
  unfold Client.query
  rcases h.queryRequest config q url with ⟨e, hr, hr'⟩ | ⟨request, request', hr, hr', heq⟩
  · rw [hr, hr']
    exact coupled_pure rfl
  · rw [hr, hr']
    have hsend : Coupled (DifferInSecrets before) env env (Conversation.send request) (Conversation.send request')
        Eq :=
      Conversation.coupled_send_concealed he heq (.inl (Client.of_queryRequest hr).1)
        (.inl (Client.of_queryRequest hr').1)
    apply hsend.bind_eq
    rintro (e | response)
    · exact coupled_pure rfl
    · exact coupled_pure rfl

theorem coupled_probe (c c' : Credential) (he : env.IgnoresAuthorization) (url : Uri) :
    Coupled (DifferInSecrets before) env env (Client.probe ⟨config, c⟩ url) (Client.probe ⟨config, c'⟩ url) Eq := by
  -- A probe is built from the configuration alone, which both clients share.
  change Coupled _ _ _ (Client.probe ⟨config, c⟩ url) (Client.probe ⟨config, c⟩ url) Eq
  unfold Client.probe
  split
  · exact coupled_pure rfl
  rename_i request hr
  have hbare : request.isBare = true := by
    unfold Client.probeRequest? at hr
    split at hr
    · cases hr
      have hagent (value : String) : Http.Header.isAuthorization ⟨"user-agent", value, false⟩ = false := by
        change Text.sameLetters "authorization" "user-agent" = false
        decide
      simp [Http.Request.isBare, hagent]
    · cases hr
  have hsend : Coupled (DifferInSecrets before) env env (Conversation.send request) (Conversation.send request) Eq :=
    Conversation.coupled_send_concealed he rfl (.inr hbare) (.inr hbare)
  exact hsend.bind_eq fun _ => coupled_pure rfl

theorem coupled_approved (url : Uri) :
    Coupled (DifferInSecrets before) env env (Client.approved url) (Client.approved url) Eq := by
  have hask : Coupled (DifferInSecrets before) env env (Conversation.approve url) (Conversation.approve url) Eq :=
    Conversation.coupled_ask (fun _ => rfl) rfl
  unfold Client.approved
  apply hask.bind_eq
  rintro (_ | _)
  · exact coupled_pure rfl
  · exact coupled_pure rfl

theorem coupled_redirectCandidate (c c' : Credential) (he : env.IgnoresAuthorization) (q : Query) (domain : String) :
    Coupled (DifferInSecrets before) env env (Client.redirectCandidate ⟨config, c⟩ q domain)
      (Client.redirectCandidate ⟨config, c'⟩ q domain) Eq := by
  rw [Client.redirectCandidate_eq, Client.redirectCandidate_eq]
  split
  · exact coupled_pure rfl
  · rename_i url hu
    apply (coupled_probe c c' he url).bind_eq
    exact Client.coupled_candidateOf coupled_approved q url

theorem coupled_recordCandidate (domain : String) :
    Coupled (DifferInSecrets before) env env (Client.recordCandidate domain) (Client.recordCandidate domain) Eq := by
  have hask : Coupled (DifferInSecrets before) env env (Conversation.locate domain) (Conversation.locate domain) Eq :=
    Conversation.coupled_ask (fun _ => rfl) rfl
  unfold Client.recordCandidate
  apply hask.bind_eq
  rintro (_ | host)
  · exact coupled_pure rfl
  dsimp only
  split
  · exact coupled_pure rfl
  · exact coupled_approved _

theorem alike (h : c.DifferInSecret c') (he : env.IgnoresAuthorization) :
    Alike (DifferInSecrets before) env env ⟨config, c⟩ ⟨config, c'⟩ where
  config := rfl
  flavour := h.flavour
  lookUp _ := Conversation.coupled_ask (fun _ => rfl) rfl
  query := h.coupled_query he
  probe _ := coupled_probe c c' he _
  redirection := coupled_redirectCandidate c c' he
  records := coupled_recordCandidate

end Credential.DifferInSecret

inductive Act where
  | call (call : Call)
  | partner (domain : String)
  | setUrl (url : Uri)
  | setDomain (domain : String)
  | reset

inductive Effect where
  | replied (outcome : Except Failure Reply)
  | granted (outcome : Except Failure (Option PartnerAccess))
  | changed
  | unchanged (e : Failure)

namespace Service

open Conversation (Coupled coupled_pure bind_of_eq)
open Record (DifferInSecrets)

def act (s : Service) : Act → Conversation (Effect × Service)
  | .call call => do
    let (outcome, s) ← s.perform call
    pure (.replied outcome, s)
  | .partner domain => do
    let (outcome, s) ← s.partnerAccess domain
    pure (.granted outcome, s)
  | .setUrl url =>
    match s.setUrl url with
    | .ok s => pure (.changed, s)
    | .error e => pure (.unchanged e, s)
  | .setDomain domain => pure (.changed, s.setDomain domain)
  | .reset => pure (.changed, s.reset)

def session (s : Service) : List Act → Conversation (List (Effect × Service))
  | [] => pure []
  | act :: acts => do
    let (effect, s) ← s.act act
    let rest ← s.session acts
    pure ((effect, s) :: rest)

/-- All that can be seen of a service: what it remembers, and how it and its credentials are described. -/
structure Appearance where
  locator : Locator
  isExternal : Option Bool
  description : String
  credential : String

def appearance (s : Service) : Appearance where
  locator := s.locator
  isExternal := s.isExternal
  description := s.describe
  credential := s.client.credential.describe

def withCredential (s : Service) (c : Credential) : Service :=
  { s with client := { s.client with credential := c } }

variable {s s' : Service} {config : Config} {c c' : Credential} {env : Environment} {before : Record}

theorem appearance_eq (hc : c.DifferInSecret c') (h : Twins ⟨config, c⟩ ⟨config, c'⟩ s s') :
    s.appearance = s'.appearance := by
  obtain ⟨locator, isExternal⟩ := h
  have hdescribe : (⟨⟨config, c⟩, locator, isExternal⟩ : Service).describe =
      (⟨⟨config, c'⟩, locator, isExternal⟩ : Service).describe := by
    unfold Service.describe
    rw [hc.describe]
  unfold appearance
  rw [hdescribe, hc.describe]

theorem coupled_act (hc : c.DifferInSecret c') (he : env.IgnoresAuthorization)
    (h : Twins ⟨config, c⟩ ⟨config, c'⟩ s s') (act : Act) :
    Coupled (DifferInSecrets before) env env (s.act act) (s'.act act) (Twins.Replied ⟨config, c⟩ ⟨config, c'⟩) := by
  have halike : Alike (DifferInSecrets before) env env ⟨config, c⟩ ⟨config, c'⟩ := hc.alike he
  cases act with
  | call call =>
    apply (h.perform halike call).bind
    rintro ⟨outcome, t⟩ ⟨_, t'⟩ ⟨rfl, ht⟩
    exact coupled_pure ⟨rfl, ht⟩
  | partner domain =>
    apply (h.partnerAccess halike domain).bind
    rintro ⟨outcome, t⟩ ⟨_, t'⟩ ⟨rfl, ht⟩
    exact coupled_pure ⟨rfl, ht⟩
  | setUrl url =>
    have hset := h.setUrl url
    simp only [Service.act]
    generalize s.setUrl url = result at hset ⊢
    generalize s'.setUrl url = result' at hset ⊢
    cases hset with
    | error e => exact coupled_pure ⟨rfl, h⟩
    | ok ht => exact coupled_pure ⟨rfl, ht⟩
  | setDomain domain =>
    cases h
    apply coupled_pure
    exact ⟨rfl, .mk _ _⟩
  | reset =>
    cases h
    apply coupled_pure
    exact ⟨rfl, .mk _ _⟩

theorem coupled_session (hc : c.DifferInSecret c') (he : env.IgnoresAuthorization)
    (h : Twins ⟨config, c⟩ ⟨config, c'⟩ s s') (acts : List Act) :
    Coupled (DifferInSecrets before) env env (s.session acts) (s'.session acts) fun seen seen' =>
      seen.map (fun step => (step.1, step.2.appearance)) = seen'.map fun step => (step.1, step.2.appearance) := by
  -- What carries the induction is that the services differ in nothing but the credential.
  induction acts generalizing s s' with
  | nil => exact coupled_pure rfl
  | cons act acts ih =>
    apply (coupled_act hc he h act).bind
    rintro ⟨effect, t⟩ ⟨_, t'⟩ ⟨rfl, ht⟩
    apply (ih ht).bind
    intro seen seen' hseen
    apply coupled_pure
    rw [List.map_cons, List.map_cons, hseen, appearance_eq hc ht]

theorem secret_only_in_header (s : Service) {c : Credential} (hc : s.client.credential.DifferInSecret c)
    {env : Environment} (he : env.IgnoresAuthorization) (acts : List Act) (log : Record) :
    s.appearance = (s.withCredential c).appearance ∧
      (s.session acts env log).1.map (fun step => (step.1, step.2.appearance)) =
        ((s.withCredential c).session acts env log).1.map (fun step => (step.1, step.2.appearance)) ∧
      DifferInSecrets log (s.session acts env log).2 ((s.withCredential c).session acts env log).2 := by
  have htwins : Twins ⟨s.client.config, s.client.credential⟩ ⟨s.client.config, c⟩ s (s.withCredential c) := .mk _ _
  obtain ⟨hseen, hevents⟩ := coupled_session hc he htwins acts log log (.refl log)
  exact ⟨appearance_eq hc htwins, hseen, hevents⟩

def closed : Environment where
  transport _ _ := .ok ⟨401, [], ⟨#[]⟩⟩
  directory _ := []
  serviceHost _ := none
  approves _ := false

def janes (password : String) : Service :=
  { client := { config := {}, credential := .basic "jane" (some ⟨password⟩) } }

def guardedUrl : Uri :=
  .absolute .https "mail.a.example" ⟨"/autodiscover/autodiscover.svc", none⟩

def knocking : List Act :=
  [.setUrl guardedUrl, .call (.user "jane@a.example" [.externalEwsUrl])]

theorem queryRequest_of_authorization {client : Client} {q : Query} {url : Uri} {headers : List Http.Header}
    (h : client.credential.authorization = .ok headers) (hagent : Http.isValue client.config.userAgent = true) :
    ∃ request, client.queryRequest q url = .ok request ∧ ∀ header ∈ headers, header ∈ request.headers := by
  unfold Client.queryRequest
  simp only [h, bind, Except.bind]
  exact ⟨_, if_pos hagent, fun header hmem => List.mem_append_left _ hmem⟩

theorem session_cons {t : Service} {act : Act} {acts : List Act} {effect : Effect} {log after : Record}
    (h : s.act act env log = ((effect, t), after)) :
    s.session (act :: acts) env log = ((effect, t) :: (t.session acts env after).1, (t.session acts env after).2) := by
  rw [session, bind_of_eq h]
  rfl

theorem session_knocking (password : String) :
    ∃ request, ((janes password).session knocking closed []).2.requests = [request] ∧
      ⟨"authorization", Credential.basicHeader "jane" (some ⟨password⟩), true⟩ ∈ request.headers := by
  let known : Service := { janes password with locator := .url guardedUrl "mail.a.example" }
  have hagent : Http.isValue ({} : Config).userAgent = true := by decide +kernel
  have hdomain : MailAddress.domain "jane@a.example" = .ok "a.example" := by rfl
  have hset : (janes password).act (.setUrl guardedUrl) closed [] = ((.changed, known), []) := by rfl
  obtain ⟨request, hrequest, hheaders⟩ := @queryRequest_of_authorization known.client
    (.users ["jane@a.example"] [.externalEwsUrl]) guardedUrl _ rfl hagent
  have hrefused : closed.transport (Record.requests []) request = .ok ⟨401, [], ⟨#[]⟩⟩ := by rfl
  have hperform := perform_of_soapUserSettings rfl (by decide +kernel) rfl
    (soapUserSettings_of_query_error hdomain rfl (Client.query_of_transport hrequest hrefused))
  refine ⟨request, ?_, hheaders _ (List.mem_singleton_self _)⟩
  rw [knocking, session_cons hset, session_cons (bind_of_eq hperform _)]
  rfl

theorem secret_only_in_header_closed :
    Credential.DifferInSecret (janes "secret").client.credential (.basic "jane" (some ⟨"other"⟩)) ∧
      closed.IgnoresAuthorization ∧
      ((janes "secret").session knocking closed []).1.map (fun step => (step.1, step.2.appearance)) =
        ((janes "other").session knocking closed []).1.map (fun step => (step.1, step.2.appearance)) ∧
      ∃ request request', ((janes "secret").session knocking closed []).2.requests = [request] ∧
        ((janes "other").session knocking closed []).2.requests = [request'] ∧
        request.concealed = request'.concealed ∧
        ⟨"authorization", Credential.basicHeader "jane" (some ⟨"secret"⟩), true⟩ ∈ request.headers ∧
        ⟨"authorization", Credential.basicHeader "jane" (some ⟨"other"⟩), true⟩ ∈ request'.headers := by
  have hc : Credential.DifferInSecret (janes "secret").client.credential (.basic "jane" (some ⟨"other"⟩)) :=
    .basic "jane" ⟨"secret"⟩ ⟨"other"⟩
  have he : closed.IgnoresAuthorization := fun _ _ _ _ _ _ => rfl
  obtain ⟨-, hseen, hrecords⟩ := secret_only_in_header (janes "secret") hc he knocking []
  obtain ⟨request, hsent, hsecret⟩ := session_knocking "secret"
  obtain ⟨request', hsent', hsecret'⟩ := session_knocking "other"
  have hrequests := hrecords.requests
  rw [hsent] at hrequests
  change List.map Http.Request.concealed [request] =
    ((janes "other").session knocking closed []).2.requests.map Http.Request.concealed at hrequests
  rw [hsent'] at hrequests
  exact ⟨hc, he, hseen, request, request', hsent, hsent', List.head_eq_of_cons_eq hrequests, hsecret, hsecret'⟩

end Service

end MailDiscovery
