import MailDiscovery.Proofs.Run.Basic
import MailDiscovery.Service.Probe

namespace MailDiscovery.Client

open Conversation (Meets meets_pure meets_done meets_send)

variable {env : Environment} (c : Client)

inductive Queried (q : Query) (url : Uri) : Except Failure Answer → Record → Prop
  | refused {e : Failure} (h : c.queryRequest q url = .error e) : Queried q url (.error e) []
  | unheard {request : Http.Request} {e : TransportError} (h : c.queryRequest q url = .ok request) :
      Queried q url (.error (.transport e)) [.exchange request (.error e)]
  | heard {request : Http.Request} {response : Http.Response} {result : Except Failure Answer}
      (h : c.queryRequest q url = .ok request) (hr : readAnswer q url response = result) :
      Queried q url result [.exchange request (.ok response)]

theorem meets_query (q : Query) (url : Uri) : Meets env (c.query q url) (c.Queried q url) := by
  unfold query
  split
  · exact meets_pure (.refused ‹_›)
  · apply (meets_send _).bind
    rintro outcome _ rfl
    cases outcome with
    | error e => exact meets_done (.unheard ‹_›)
    | ok response => exact meets_done (.heard ‹_› rfl)

theorem of_queryRequest {c : Client} {q : Query} {url : Uri} {request : Http.Request}
    (h : c.queryRequest q url = .ok request) : request.method = .post ∧ request.url = url := by
  obtain ⟨authorization, -, h⟩ := Failure.of_bind_ok h
  split at h
  · cases h
    exact ⟨rfl, rfl⟩
  · cases h

inductive Probed (url : Uri) : Option Http.Response → Record → Prop
  | unasked (h : c.probeRequest? url = none) : Probed url none []
  | unheard {request : Http.Request} {e : TransportError} (h : c.probeRequest? url = some request) :
      Probed url none [.exchange request (.error e)]
  | heard {request : Http.Request} {response : Http.Response} (h : c.probeRequest? url = some request) :
      Probed url (some response) [.exchange request (.ok response)]

theorem meets_probe (url : Uri) : Meets env (c.probe url) (c.Probed url) := by
  unfold probe
  split
  · exact meets_pure (.unasked ‹_›)
  · apply (meets_send _).bind
    rintro outcome _ rfl
    cases outcome with
    | error e => exact meets_done (.unheard ‹_›)
    | ok response => exact meets_done (.heard ‹_›)

theorem of_probeRequest? {c : Client} {url : Uri} {request : Http.Request}
    (h : c.probeRequest? url = some request) : request.method = .get ∧ request.url = url := by
  unfold probeRequest? at h
  split at h
  · cases h
    exact ⟨rfl, rfl⟩
  · cases h

def advertised (response : Http.Response) : EndpointSet :=
  EndpointSet.ofHeaders fun name => (response.header? name).isSome

inductive Surveyed : Nat → String → Except Failure (Option (String × EndpointSet)) → Record → Prop
  | nowhere {left : Nat} {host : String} (hu : WellKnown.legacyHttps? host = none) :
      Surveyed left host (.ok none) []
  | silent {left : Nat} {host : String} {url : Uri} {events : Record}
      (hu : WellKnown.legacyHttps? host = some url) (hp : c.Probed url none events) :
      Surveyed left host (.ok none) events
  | lost {left : Nat} {host : String} {url : Uri} {response : Http.Response} {events : Record}
      (hu : WellKnown.legacyHttps? host = some url) (hp : c.Probed url (some response) events)
      (hr : response.isRedirection = true) (ht : (redirectTarget? url response).bind Uri.host? = none) :
      Surveyed left host (.ok none) events
  | exceeded {host next : String} {url : Uri} {response : Http.Response} {events : Record}
      (hu : WellKnown.legacyHttps? host = some url) (hp : c.Probed url (some response) events)
      (hr : response.isRedirection = true) (ht : (redirectTarget? url response).bind Uri.host? = some next) :
      Surveyed 0 host (.error .tooManyRedirections) events
  | onward {left : Nat} {host next : String} {url : Uri} {response : Http.Response} {events more : Record}
      {result : Except Failure (Option (String × EndpointSet))}
      (hu : WellKnown.legacyHttps? host = some url) (hp : c.Probed url (some response) events)
      (hr : response.isRedirection = true) (ht : (redirectTarget? url response).bind Uri.host? = some next)
      (hn : Surveyed left next result more) : Surveyed (left + 1) host result (events ++ more)
  | bare {left : Nat} {host : String} {url : Uri} {response : Http.Response} {events : Record}
      (hu : WellKnown.legacyHttps? host = some url) (hp : c.Probed url (some response) events)
      (hr : response.isRedirection = false) (hs : (advertised response).hasSoapVariant = false) :
      Surveyed left host (.ok none) events
  | answered {left : Nat} {host : String} {url : Uri} {response : Http.Response} {events : Record}
      (hu : WellKnown.legacyHttps? host = some url) (hp : c.Probed url (some response) events)
      (hr : response.isRedirection = false) (hs : (advertised response).hasSoapVariant = true) :
      Surveyed left host (.ok (some (host, advertised response))) events

theorem meets_capabilities (left : Nat) (host : String) :
    Meets env (c.capabilities left host) (c.Surveyed left host) := by
  rw [capabilities]
  split
  · exact meets_pure (.nowhere ‹_›)
  rename_i url hu
  apply (c.meets_probe url).bind
  rintro (_ | response) events hp
  · exact meets_done (.silent hu hp)
  dsimp only
  split
  · rename_i hr
    split
    · exact meets_done (.lost hu hp hr ‹_›)
    · rename_i next ht
      cases left with
      | zero => exact meets_done (.exceeded hu hp hr ht)
      | succ left => exact (meets_capabilities left next).mono fun _ _ hn => .onward hu hp hr ht hn
  · rename_i hr
    rw [Bool.not_eq_true] at hr
    apply meets_done
    split
    · exact .answered hu hp hr ‹_›
    · exact .bare hu hp hr (Bool.eq_false_iff.2 ‹_›)

inductive Gated : String → Except Failure (Option Uri) → Record → Prop
  | failed {host : String} {e : Failure} {events : Record}
      (h : c.Surveyed Redirection.limit host (.error e) events) : Gated host (.error e) events
  | unanswered {host : String} {events : Record}
      (h : c.Surveyed Redirection.limit host (.ok none) events) : Gated host (.ok none) events
  | answered {host found : String} {endpoints : EndpointSet} {url : Option Uri} {events : Record}
      (h : c.Surveyed Redirection.limit host (.ok (some (found, endpoints))) events)
      (hs : c.credential.select? found endpoints = url) : Gated host (.ok url) events

theorem meets_endpoint (host : String) : Meets env (c.endpoint host) (c.Gated host) := by
  unfold endpoint
  apply (c.meets_capabilities Redirection.limit host).bind
  rintro (e | _ | ⟨found, endpoints⟩) events h
  · exact meets_done (.failed h)
  · exact meets_done (.unanswered h)
  · exact meets_done (.answered h rfl)

end MailDiscovery.Client
