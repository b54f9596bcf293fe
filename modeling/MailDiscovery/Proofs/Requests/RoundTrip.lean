import MailDiscovery.Proofs.Requests.Tree

namespace MailDiscovery

open Xml (Node ExpandedName)

namespace Xml.Node

def textsAt (n : Node) : List ExpandedName → List (Option String)
  | [] => [n.firstText?]
  | name :: path => (n.childrenNamed name).flatMap (·.textsAt path)

def saying (s : String) : Option String :=
  if s = "" then none else some s

theorem textsAt_leaf (name : ExpandedName) (s : String) : (leaf name s).textsAt [] = [saying s] := by
  rw [textsAt, leaf, ofText, saying]
  split
  · rfl
  · rfl

theorem saying_injective {s t : String} (h : saying s = saying t) : s = t := by
  unfold saying at h
  split at h
  · split at h
    · simp_all
    · cases h
  · split at h
    · cases h
    · exact Option.some.inj h

theorem textsAt_child {n child : Node} {name : ExpandedName} (h : n.childrenNamed name = [child])
    (path : List ExpandedName) : n.textsAt (name :: path) = child.textsAt path := by
  rw [textsAt, h, List.flatMap_singleton]

theorem textsAt_map {α : Type} {outer name : ExpandedName} {path : List ExpandedName} {node : α → Node}
    {text : α → String} (hname : ∀ a, (node a).isNamed name = true)
    (htext : ∀ a, (node a).textsAt path = [saying (text a)]) (items : List α) :
    (element outer [] (items.map node)).textsAt (name :: path) = items.map fun a => saying (text a) := by
  have hall : (element outer [] (items.map node)).childrenNamed name = items.map node := by
    rw [childrenNamed, children, List.filter_eq_self]
    intro n hn
    obtain ⟨a, -, rfl⟩ := List.mem_map.1 hn
    exact hname a
  rw [textsAt, hall, List.flatMap_map, List.map_eq_flatMap]
  simp only [htext]

end Xml.Node

namespace Soap

def headerPath (field : ExpandedName) : List ExpandedName :=
  [⟨some envelope11, "Header"⟩, field]

def requestPath (action : Action) (fields : List String) : List ExpandedName :=
  ⟨some envelope11, "Body"⟩ :: name (action.text ++ "RequestMessage") :: name "Request" :: fields.map name

def headerFields (action : Action) (version : ServerVersion) (url : Uri) : List (List ExpandedName × List String) :=
  [(headerPath (name "RequestedServerVersion"), [version.text]),
    (headerPath ⟨some addressing, "Action"⟩, [action.uri]),
    (headerPath ⟨some addressing, "To"⟩, [url.text])]

end Soap

def Query.fields (url : Uri) (version : ServerVersion) : Query → List (List ExpandedName × List String)
  | .legacy address => [([Legacy.name "Request", Legacy.name "EMailAddress"], [address])]
  | .users addresses settings =>
    Soap.headerFields .getUserSettings version url ++ [
      (Soap.requestPath .getUserSettings ["Users", "User", "Mailbox"], addresses),
      (Soap.requestPath .getUserSettings ["RequestedSettings", "Setting"], settings.map SettingName.text)]
  | .domains names settings requested =>
    Soap.headerFields .getDomainSettings version url ++ [
      (Soap.requestPath .getDomainSettings ["Domains", "Domain"], names),
      (Soap.requestPath .getDomainSettings ["RequestedSettings", "Setting"], settings.map SettingName.text),
      (Soap.requestPath .getDomainSettings ["RequestedVersion"], requested.toList.map ServerVersion.text)]

namespace Soap

theorem textsAt_header {action : Action} {version : ServerVersion} {url : Uri} {body : List Node}
    {field : List ExpandedName × List String} (h : field ∈ headerFields action version url) :
    (envelopeNode (headerNodes action version url.text) body).textsAt field.1 = field.2.map Node.saying := by
  have hheader (name : ExpandedName) :
      (envelopeNode (headerNodes action version url.text) body).textsAt (headerPath name) =
        (Node.element ⟨some envelope11, "Header"⟩ [] (headerNodes action version url.text)).textsAt [name] :=
    Node.textsAt_child rfl _
  simp only [headerFields, List.mem_cons, List.not_mem_nil, or_false] at h
  rcases h with rfl | rfl | rfl
  · rw [hheader, Node.textsAt_child rfl]
    exact Node.textsAt_leaf _ _
  · rw [hheader, Node.textsAt_child rfl]
    exact Node.textsAt_leaf _ _
  · rw [hheader, Node.textsAt_child rfl]
    exact Node.textsAt_leaf _ _

theorem textsAt_requestedSettings {ν : Type} [SettingName ν] (settings : List ν) :
    (requestedSettingsNode settings).textsAt [name "Setting"] = (settings.map SettingName.text).map Node.saying := by
  rw [List.map_map]
  exact Node.textsAt_map (fun _ => rfl) (fun s => Node.textsAt_leaf _ (SettingName.text s)) settings

theorem textsAt_request (header : List Node) (action : Action) (nodes : List Node) (path : List String) :
    (envelopeNode header [messageNode action nodes]).textsAt (requestPath action path) =
      (Node.element (name "Request") [] nodes).textsAt (path.map name) := by
  have hmessage : (Node.element ⟨some envelope11, "Body"⟩ [] [messageNode action nodes]).childrenNamed
      (name (action.text ++ "RequestMessage")) = [messageNode action nodes] := by
    cases action
    · rfl
    · rfl
  rw [requestPath, Node.textsAt_child rfl, Node.textsAt_child hmessage, Node.textsAt_child rfl]

end Soap

namespace Query

theorem textsAt_tree {q : Query} {url : Uri} {version : ServerVersion} {field : List ExpandedName × List String}
    (h : field ∈ q.fields url version) :
    (q.tree url version).textsAt field.1 = field.2.map Node.saying := by
  cases q with
  | legacy address =>
    obtain rfl := List.mem_singleton.1 h
    rw [tree, Legacy.requestNode, Node.textsAt_child rfl, Node.textsAt_child rfl]
    exact Node.textsAt_leaf _ _
  | users addresses settings =>
    rw [fields, List.mem_append] at h
    rcases h with h | h
    · exact Soap.textsAt_header h
    simp only [List.mem_cons, List.not_mem_nil, or_false] at h
    rcases h with rfl | rfl
    · have huser (address : String) :
          (Node.element (Soap.name "User") [] [.leaf (Soap.name "Mailbox") address]).textsAt [Soap.name "Mailbox"] =
            [Node.saying address] := by
        rw [Node.textsAt_child rfl]
        exact Node.textsAt_leaf _ address
      rw [tree, Soap.usersNode, Soap.textsAt_request, List.map_cons, Node.textsAt_child rfl]
      exact Node.textsAt_map (fun _ => rfl) huser addresses
    · rw [tree, Soap.usersNode, Soap.textsAt_request, List.map_cons, Node.textsAt_child rfl]
      exact Soap.textsAt_requestedSettings settings
  | domains names settings requested =>
    rw [fields, List.mem_append] at h
    rcases h with h | h
    · exact Soap.textsAt_header h
    have hnames : (Node.element (Soap.name "Domains") [] (names.map (.leaf (Soap.name "Domain")))).textsAt
        [Soap.name "Domain"] = names.map Node.saying :=
      Node.textsAt_map (fun _ => rfl) (Node.textsAt_leaf _) names
    simp only [List.mem_cons, List.not_mem_nil, or_false] at h
    rw [tree, Soap.domainsNode]
    rcases h with rfl | rfl | rfl
    · rw [Soap.textsAt_request, List.map_cons, Node.textsAt_child (by cases requested <;> rfl)]
      exact hnames
    · rw [Soap.textsAt_request, List.map_cons, Node.textsAt_child (by cases requested <;> rfl)]
      exact Soap.textsAt_requestedSettings settings
    · rw [Soap.textsAt_request]
      cases requested with
      | none => rfl
      | some v =>
        rw [List.map_cons, Node.textsAt_child rfl]
        exact Node.textsAt_leaf _ v.text

variable {q q' : Query} {url url' : Uri} {version version' : ServerVersion}

theorem texts_eq {path : List ExpandedName} {texts texts' : List String}
    (h : q'.tree url' version' = q.tree url version) (ht : (path, texts) ∈ q.fields url version)
    (ht' : (path, texts') ∈ q'.fields url' version') : texts' = texts := by
  have hread := textsAt_tree ht'
  rw [h, textsAt_tree ht] at hread
  exact (List.map_inj_right fun _ _ => Node.saying_injective).1 hread.symm

theorem header_eq {action action' : Soap.Action} (h : q'.tree url' version' = q.tree url version)
    (ht : ∀ field ∈ Soap.headerFields action version url, field ∈ q.fields url version)
    (ht' : ∀ field ∈ Soap.headerFields action' version' url', field ∈ q'.fields url' version') :
    action' = action ∧ version' = version ∧ url'.text = url.text := by
  have hversion := texts_eq h (ht _ (List.mem_cons_self)) (ht' _ (List.mem_cons_self))
  have haction := texts_eq h (ht _ (List.mem_cons_of_mem _ List.mem_cons_self))
    (ht' _ (List.mem_cons_of_mem _ List.mem_cons_self))
  have hto := texts_eq h (ht _ (List.mem_cons_of_mem _ (List.mem_cons_of_mem _ List.mem_cons_self)))
    (ht' _ (List.mem_cons_of_mem _ (List.mem_cons_of_mem _ List.mem_cons_self)))
  rw [List.singleton_inj] at hversion haction hto
  refine ⟨?_, ServerVersion.text_injective hversion, hto⟩
  revert haction
  cases action <;> cases action' <;> decide +kernel

theorem isSoap_eq (h : q'.tree url' version' = q.tree url version) : q'.isSoap = q.isSoap := by
  have hname (q : Query) (url : Uri) (version : ServerVersion) :
      (q.tree url version).isNamed ⟨some Soap.envelope11, "Envelope"⟩ = q.isSoap := by
    cases q with
    | legacy address => rfl
    | users addresses settings => rfl
    | domains names settings requested => rfl
  rw [← hname q' url' version', h, hname]

theorem eq_of_tree_eq (h : q'.tree url' version' = q.tree url version) :
    q' = q ∧ (q.isSoap = true → version' = version ∧ url'.text = url.text) := by
  -- requests of two kinds differ in their outermost elements or in their actions
  cases q with
  | legacy address =>
    cases q' with
    | legacy address' =>
      have haddress := texts_eq h List.mem_cons_self List.mem_cons_self
      rw [List.singleton_inj] at haddress
      subst haddress
      exact ⟨rfl, nofun⟩
    | users addresses' settings' => cases isSoap_eq h
    | domains names' settings' requested' => cases isSoap_eq h
  | users addresses settings =>
    cases q' with
    | legacy address' => cases isSoap_eq h
    | users addresses' settings' =>
      have hheader := header_eq h (fun _ => List.mem_append_left _) (fun _ => List.mem_append_left _)
      have haddresses := texts_eq h (List.mem_append_right _ List.mem_cons_self)
        (List.mem_append_right _ List.mem_cons_self)
      have hsettings := texts_eq h (List.mem_append_right _ (List.mem_cons_of_mem _ List.mem_cons_self))
        (List.mem_append_right _ (List.mem_cons_of_mem _ List.mem_cons_self))
      rw [List.map_inj_right fun _ _ => WrittenName.text_injective] at hsettings
      rw [haddresses, hsettings]
      exact ⟨rfl, fun _ => hheader.2⟩
    | domains names' settings' requested' =>
      have hheader := header_eq h (fun _ => List.mem_append_left _) (fun _ => List.mem_append_left _)
      cases hheader.1
  | domains names settings requested =>
    cases q' with
    | legacy address' => cases isSoap_eq h
    | users addresses' settings' =>
      have hheader := header_eq h (fun _ => List.mem_append_left _) (fun _ => List.mem_append_left _)
      cases hheader.1
    | domains names' settings' requested' =>
      have hheader := header_eq h (fun _ => List.mem_append_left _) (fun _ => List.mem_append_left _)
      have hnames := texts_eq h (List.mem_append_right _ List.mem_cons_self)
        (List.mem_append_right _ List.mem_cons_self)
      have hsettings := texts_eq h (List.mem_append_right _ (List.mem_cons_of_mem _ List.mem_cons_self))
        (List.mem_append_right _ (List.mem_cons_of_mem _ List.mem_cons_self))
      have hrequested := texts_eq h
        (List.mem_append_right _ (List.mem_cons_of_mem _ (List.mem_cons_of_mem _ List.mem_cons_self)))
        (List.mem_append_right _ (List.mem_cons_of_mem _ (List.mem_cons_of_mem _ List.mem_cons_self)))
      rw [List.map_inj_right fun _ _ => WrittenName.text_injective] at hsettings
      rw [List.map_inj_right fun _ _ => ServerVersion.text_injective] at hrequested
      have hversion : requested' = requested := by
        cases requested <;> cases requested' <;> simp_all
      rw [hnames, hsettings, hversion]
      exact ⟨rfl, fun _ => hheader.2⟩

theorem requests_read_back {q : Query} {url : Uri} {credential : Credential} (version : ServerVersion)
    (hq : ∀ s ∈ q.subjects, Xml.isLegal s = true) (hurl : url.Lawful) (hc : credential.securityHeader? = none) :
    Node.ofDocument? (q.render url version credential) = some (q.tree url version) ∧
      (∀ field ∈ q.fields url version, (q.tree url version).textsAt field.1 = field.2.map Node.saying) ∧
      ∀ {q' : Query} {url' : Uri} {credential' : Credential} (version' : ServerVersion),
        (∀ s ∈ q'.subjects, Xml.isLegal s = true) → url'.Lawful → credential'.securityHeader? = none →
        q'.render url' version' credential' = q.render url version credential →
          q' = q ∧ (q.isSoap = true → version' = version ∧ url'.text = url.text) := by
  have hread := ofDocument?_render version hq hurl hc
  refine ⟨hread, fun _ => textsAt_tree, ?_⟩
  intro q' url' credential' version' hq' hurl' hc' hsame
  have hread' := ofDocument?_render version' hq' hurl' hc'
  rw [hsame, hread, Option.some.injEq] at hread'
  exact eq_of_tree_eq hread'.symm

def markedUp : Query :=
  .users ["é</a:Mailbox><a:Mailbox>&amp;]]>\"'", ""] [.internalEwsUrl, .userDisplayName]

def markedUpService : Uri :=
  .absolute .https "mail.example" ⟨"/autodiscover/autodiscover.svc", some "a=1&lt;b=2"⟩

theorem requests_read_back_marked_up :
    Node.ofDocument? (markedUp.render markedUpService .exchange2013 .anonymous) =
        some (markedUp.tree markedUpService .exchange2013) ∧
      (markedUp.tree markedUpService .exchange2013).textsAt
          (Soap.requestPath .getUserSettings ["Users", "User", "Mailbox"]) =
        [some "é</a:Mailbox><a:Mailbox>&amp;]]>\"'", none] ∧
      (markedUp.tree markedUpService .exchange2013).textsAt (Soap.headerPath ⟨some Soap.addressing, "To"⟩) =
        [some "https://mail.example/autodiscover/autodiscover.svc?a=1&lt;b=2"] := by
  have hlegal : ∀ s ∈ markedUp.subjects, Xml.isLegal s = true := by decide +kernel
  have hurl : markedUpService.Lawful :=
    Uri.lawful_of_ofText? (by decide +kernel :
      Uri.ofText? "https://mail.example/autodiscover/autodiscover.svc?a=1&lt;b=2" = some markedUpService)
  have hcredential : Credential.anonymous.securityHeader? = none := rfl
  obtain ⟨hread, htexts, -⟩ := requests_read_back .exchange2013 hlegal hurl hcredential
  have hmailboxes := htexts _ (List.mem_append_right _ List.mem_cons_self)
  have hto := htexts _ (List.mem_append_left _ (List.mem_cons_of_mem _ (List.mem_cons_of_mem _ List.mem_cons_self)))
  refine ⟨hread, hmailboxes.trans ?_, hto.trans ?_⟩
  · decide +kernel
  · decide +kernel

end Query

end MailDiscovery
