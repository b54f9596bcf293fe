import MailDiscovery.Proofs.Coupling.Call
import MailDiscovery.Proofs.Run.Resolution
import MailDiscovery.Proofs.WebScheme

namespace MailDiscovery

open Conversation (Coupled Meets coupled_pure meets_pure meets_done)

def Http.Request.isPlainProbe (request : Http.Request) : Bool :=
  request.method == .get && request.url.scheme? == some .http

namespace Environment

def leadsOn (env : Environment) (request : Http.Request) (outcome : Except TransportError Http.Response) : Bool :=
  (outcome.toOption.bind (Client.redirectTarget? request.url)).any fun target => env.approves target.text

def namesHost (env : Environment) (domain : String) : Bool :=
  ((env.serviceHost domain).bind WellKnown.legacyHttps?).any fun url => env.approves url.text

/-- Some of the plain answers that lead nowhere time out, and some of the hosts that are not approved are not named. -/
def withhold (env : Environment) (answers : List Http.Request → Http.Request → Bool) (hosts : String → Bool) :
    Environment :=
  { env with
    transport := fun sent request =>
      if answers sent request && request.isPlainProbe && !env.leadsOn request (env.transport sent request) then
        .error (.timedOut request.timeout)
      else env.transport sent request
    serviceHost := fun domain =>
      if hosts domain && !env.namesHost domain then none else env.serviceHost domain }

/-- Plain answers and service records are whatever someone else makes of them. -/
def forge (env : Environment) (answer : List Http.Request → Http.Request → Except TransportError Http.Response)
    (host : String → Option String) : Environment :=
  { env with
    transport := fun sent request =>
      if request.isPlainProbe then answer sent request else env.transport sent request
    serviceHost := host }

def rejecting (env : Environment) : Environment :=
  { env with approves := fun _ => false }

structure Agrees (env env' : Environment) : Prop where
  directory : env.directory = env'.directory
  approves : env.approves = env'.approves
  transport (sent : List Http.Request) (request : Http.Request) :
    env.transport sent request = env'.transport sent request ∨
      request.isPlainProbe = true ∧ env.leadsOn request (env.transport sent request) = false ∧
        env'.leadsOn request (env'.transport sent request) = false
  serviceHost (domain : String) :
    env.serviceHost domain = env'.serviceHost domain ∨
      env.namesHost domain = false ∧ env'.namesHost domain = false

theorem agrees_withhold (env : Environment) (answers : List Http.Request → Http.Request → Bool)
    (hosts : String → Bool) : env.Agrees (env.withhold answers hosts) where
  directory := rfl
  approves := rfl
  transport sent request := by
    simp only [withhold]
    split
    · rename_i h
      simp only [Bool.and_eq_true, Bool.not_eq_true'] at h
      exact .inr ⟨h.1.2, h.2, rfl⟩
    · exact .inl rfl
  serviceHost domain := by
    by_cases h : (hosts domain && !env.namesHost domain) = true
    · right
      have hnone : (env.withhold answers hosts).serviceHost domain = none := if_pos h
      simp only [Bool.and_eq_true, Bool.not_eq_true'] at h
      exact ⟨h.2, by simp [namesHost, hnone]⟩
    · exact .inl (if_neg h).symm

theorem agrees_forge (env : Environment)
    (answer : List Http.Request → Http.Request → Except TransportError Http.Response)
    (host : String → Option String) : env.rejecting.Agrees (env.rejecting.forge answer host) where
  directory := rfl
  approves := rfl
  transport sent request := by
    by_cases h : request.isPlainProbe = true
    · exact .inr ⟨h, by simp [leadsOn, rejecting], by simp [leadsOn, rejecting, forge]⟩
    · exact .inl (if_neg h).symm
  serviceHost domain := .inr ⟨by simp [namesHost, rejecting], by simp [namesHost, rejecting, forge]⟩

end Environment

def Record.SendsSame (log log' : Record) : Prop :=
  log.requests = log'.requests

theorem Record.SendsSame.append {log log' events events' : Record} (h : log.SendsSame log')
    (hevents : SendsSame events events') : SendsSame (log ++ events) (log' ++ events') := by
  unfold SendsSame requests at *
  rw [List.filterMap_append, List.filterMap_append, h, hevents]

namespace Conversation

open Record (SendsSame)

variable {α α' : Type} {env env' : Environment}

theorem Coupled.of_meets {x : Conversation α} {y : Conversation α'} {P : α → Record → Prop}
    {Q : α' → Record → Prop} {R : α → α' → Prop} (hx : Meets env x P) (hy : Meets env' y Q)
    (h : ∀ a events b events', P a events → Q b events' → R a b ∧ SendsSame events events') :
    Coupled SendsSame env env' x y R := by
  intro log log' hlog
  obtain ⟨events, heq, hP⟩ := hx log
  obtain ⟨events', heq', hQ⟩ := hy log'
  obtain ⟨hR, hsame⟩ := h _ _ _ _ hP hQ
  refine ⟨hR, ?_⟩
  rw [heq, heq']
  exact hlog.append hsame

theorem coupled_send {request : Http.Request} {R : Except TransportError Http.Response →
    Except TransportError Http.Response → Prop}
    (h : ∀ sent, R (env.transport sent request) (env'.transport sent request)) :
    Coupled SendsSame env env' (send request) (send request) R := by
  intro log log' hlog
  have hafter : SendsSame (log ++ [.exchange request (env.transport log.requests request)])
      (log' ++ [.exchange request (env'.transport log'.requests request)]) :=
    hlog.append rfl
  refine ⟨?_, hafter⟩
  change R (env.transport log.requests request) (env'.transport log'.requests request)
  rw [hlog]
  exact h _

theorem coupled_lookUp {domain : String} (h : env.directory domain = env'.directory domain) :
    Coupled SendsSame env env' (lookUp domain) (lookUp domain) Eq :=
  fun _ _ hlog => ⟨h, hlog.append rfl⟩

end Conversation

namespace Client

open Record (SendsSame)

variable {c : Client} {env env' : Environment} {url : Uri}

def LeadsNowhere (env : Environment) (url : Uri) (reply : Option Http.Response) : Prop :=
  ∀ response target, reply = some response → redirectTarget? url response = some target →
    env.approves target.text = false

theorem coupled_query (h : env.Agrees env') (q : Query) (url : Uri) :
    Coupled SendsSame env env' (c.query q url) (c.query q url) Eq := by
  unfold query
  split
  · exact coupled_pure rfl
  rename_i request hrequest
  refine Coupled.bind_eq (Conversation.coupled_send fun sent => ?_) ?_
  · rcases h.transport sent request with heq | ⟨hplain, -⟩
    · exact heq
    · simp [Http.Request.isPlainProbe, (of_queryRequest hrequest).1] at hplain
  · rintro (e | response)
    · exact coupled_pure rfl
    · exact coupled_pure rfl

theorem leadsNowhere_of_leadsOn {request : Http.Request} {outcome : Except TransportError Http.Response}
    (h : env.leadsOn request outcome = false) : LeadsNowhere env request.url outcome.toOption := by
  intro response target hr ht
  simpa [Environment.leadsOn, hr, ht] using h

theorem coupled_probe (h : env.Agrees env') (url : Uri) :
    Coupled SendsSame env env' (c.probe url) (c.probe url) fun reply reply' =>
      reply = reply' ∨ url.scheme? = some .http ∧ LeadsNowhere env url reply ∧ LeadsNowhere env' url reply' := by
  unfold probe
  split
  · exact coupled_pure (.inl rfl)
  rename_i request hrequest
  obtain ⟨hm, rfl⟩ := of_probeRequest? hrequest
  refine Coupled.bind (Conversation.coupled_send
    (R := fun outcome outcome' => outcome = outcome' ∨ request.isPlainProbe = true ∧
      env.leadsOn request outcome = false ∧ env'.leadsOn request outcome' = false)
    fun sent => h.transport sent request) ?_
  rintro outcome outcome' (rfl | ⟨hplain, hon, hon'⟩)
  · exact coupled_pure (.inl rfl)
  · simp only [Http.Request.isPlainProbe, Bool.and_eq_true, beq_iff_eq] at hplain
    exact coupled_pure (.inr ⟨hplain.2, leadsNowhere_of_leadsOn hon, leadsNowhere_of_leadsOn hon'⟩)

theorem meets_candidateOf (q : Query) {reply : Option Http.Response} (h : LeadsNowhere env url reply) :
    Meets env (candidateOf q url reply) fun result events => result = none ∧ Record.requests events = [] := by
  cases reply with
  | none => exact meets_pure ⟨rfl, rfl⟩
  | some response =>
    simp only [candidateOf]
    split
    · split
      · exact meets_pure ⟨rfl, rfl⟩
      · rename_i target ht
        split
        · apply (meets_approved target).mono
          rintro result events ⟨rfl, rfl⟩
          exact ⟨by simp [h response target rfl ht], rfl⟩
        · exact meets_pure ⟨rfl, rfl⟩
    · exact meets_pure ⟨rfl, rfl⟩

theorem coupled_approved (h : env.Agrees env') (url : Uri) :
    Coupled SendsSame env env' (approved url) (approved url) Eq := by
  apply Coupled.of_meets (meets_approved url) (meets_approved url)
  rintro _ _ _ _ ⟨rfl, rfl⟩ ⟨rfl, rfl⟩
  exact ⟨by rw [h.approves], rfl⟩

theorem coupled_redirectCandidate (h : env.Agrees env') (q : Query) (domain : String) :
    Coupled SendsSame env env' (c.redirectCandidate q domain) (c.redirectCandidate q domain) Eq := by
  rw [redirectCandidate_eq]
  split
  · exact coupled_pure rfl
  rename_i url hu
  apply (coupled_probe h url).bind
  rintro reply reply' (rfl | ⟨-, hreply, hreply'⟩)
  · exact coupled_candidateOf (coupled_approved h) q url reply
  · -- Neither reply leads to an approved URL, so that neither side sends anything more.
    apply Coupled.of_meets (meets_candidateOf q hreply) (meets_candidateOf q hreply')
    rintro _ _ _ _ ⟨rfl, hevents⟩ ⟨rfl, hevents'⟩
    exact ⟨rfl, hevents.trans hevents'.symm⟩

theorem Located.of_names {domain : String} {url : Option Uri} {events : Record} (h : Located env domain url events) :
    Record.requests events = [] ∧
      url = ((env.serviceHost domain).bind WellKnown.legacyHttps?).filter fun url => env.approves url.text := by
  cases h with
  | nowhere h => exact ⟨rfl, by simp [h]⟩
  | rejected h hv => exact ⟨rfl, by simp [h, hv, Option.filter]⟩
  | approved h hv => exact ⟨rfl, by simp [h, hv, Option.filter]⟩

theorem coupled_recordCandidate (h : env.Agrees env') (domain : String) :
    Coupled SendsSame env env' (recordCandidate domain) (recordCandidate domain) Eq := by
  apply Coupled.of_meets (meets_recordCandidate domain) (meets_recordCandidate domain)
  intro url events url' events' hl hl'
  obtain ⟨hevents, rfl⟩ := hl.of_names
  obtain ⟨hevents', rfl⟩ := hl'.of_names
  refine ⟨?_, hevents.trans hevents'.symm⟩
  have unnamed {env : Environment} (hn : env.namesHost domain = false) :
      ((env.serviceHost domain).bind WellKnown.legacyHttps?).filter (fun url => env.approves url.text) = none := by
    unfold Environment.namesHost at hn
    cases hu : (env.serviceHost domain).bind WellKnown.legacyHttps? with
    | none => rfl
    | some url =>
      simp only [hu, Option.any_some] at hn
      simp [Option.filter, hn]
  rcases h.serviceHost domain with heq | ⟨hn, hn'⟩
  · rw [heq, h.approves]
  · rw [unnamed hn, unnamed hn']

theorem alike_of_agrees (h : env.Agrees env') (c : Client) : Alike SendsSame env env' c c where
  config := rfl
  flavour := rfl
  lookUp domain := Conversation.coupled_lookUp (by rw [h.directory])
  query := coupled_query h
  probe hu := by
    apply (coupled_probe h _).mono
    rintro reply reply' (heq | ⟨hplain, -⟩)
    · exact heq
    · rw [WellKnown.scheme?_of_legacyHttps? hu] at hplain
      cases hplain
  redirection := coupled_redirectCandidate h
  records := coupled_recordCandidate h

end Client

namespace Service

def RunsAlike (s : Service) (env env' : Environment) : Prop :=
  ∀ log log', Record.requests log = Record.requests log' →
    (∀ call, (s.perform call env log).1 = (s.perform call env' log').1 ∧
      (s.perform call env log).2.requests = (s.perform call env' log').2.requests) ∧
    ∀ domain, (s.partnerAccess domain env log).1 = (s.partnerAccess domain env' log').1 ∧
      (s.partnerAccess domain env log).2.requests = (s.partnerAccess domain env' log').2.requests

theorem runsAlike_of_agrees {env env' : Environment} (h : env.Agrees env') (s : Service) : s.RunsAlike env env' := by
  have alike := Client.alike_of_agrees h s.client
  have twins : Twins s.client s.client s s := .mk s.locator s.isExternal
  have same {α : Type} {x : Conversation (α × Service)}
      (hx : Coupled Record.SendsSame env env' x x (Twins.Replied s.client s.client)) {log log' : Record}
      (hlog : log.requests = log'.requests) :
      (x env log).1 = (x env' log').1 ∧ (x env log).2.requests = (x env' log').2.requests := by
    obtain ⟨⟨hresult, htwins⟩, hsame⟩ := hx log log' hlog
    refine ⟨Prod.ext hresult ?_, hsame⟩
    generalize (x env log).1.2 = t at htwins
    generalize (x env' log').1.2 = t' at htwins
    cases htwins
    rfl
  intro log log' hlog
  exact ⟨fun call => same (twins.perform alike call) hlog, fun domain => same (twins.partnerAccess alike domain) hlog⟩

/-- It makes no difference to a call whether unapproved answers are there; to those who approve of nothing, not even
what they are. -/
theorem unapproved_makes_no_difference (s : Service) (env : Environment) :
    (∀ answers hosts, s.RunsAlike env (env.withhold answers hosts)) ∧
      ∀ answer host, s.RunsAlike env.rejecting (env.rejecting.forge answer host) :=
  ⟨fun answers hosts => runsAlike_of_agrees (env.agrees_withhold answers hosts) s,
    fun answer host => runsAlike_of_agrees (env.agrees_forge answer host) s⟩

end Service

end MailDiscovery
