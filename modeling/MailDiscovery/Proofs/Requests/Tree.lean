import MailDiscovery.Proofs.Markup.Content
import MailDiscovery.Proofs.UriCharacters
import MailDiscovery.Query

namespace MailDiscovery

open Xml (Node ExpandedName Scope Adds Fills)

theorem ServerVersion.isLegal_text (version : ServerVersion) : Xml.isLegal version.text = true := by
  cases version <;> decide

theorem ServerVersion.ofText?_text (version : ServerVersion) : ofText? version.text = some version := by
  cases version <;> decide

theorem ServerVersion.text_injective {v w : ServerVersion} (h : v.text = w.text) : v = w := by
  have hv := ofText?_text v
  rw [h, ofText?_text w] at hv
  exact (Option.some.inj hv).symm

class WrittenName (ν : Type) [SettingName ν] : Prop where
  isLegal_text (n : ν) : Xml.isLegal (SettingName.text n) = true
  ofText?_text (n : ν) : SettingName.ofText? (SettingName.text n) = some n

theorem WrittenName.text_injective {ν : Type} [SettingName ν] [WrittenName ν] {n m : ν}
    (h : SettingName.text n = SettingName.text m) : n = m := by
  have hn := ofText?_text n
  rw [h, ofText?_text m] at hn
  exact (Option.some.inj hn).symm

instance : WrittenName UserSetting where
  isLegal_text n :=
    List.all_eq_true.1 (by decide +kernel : UserSetting.all.all (Xml.isLegal ·.text) = true) n n.mem_all
  ofText?_text n :=
    of_decide_eq_true (List.all_eq_true.1
      (by decide +kernel : UserSetting.all.all (fun n => SettingName.ofText? n.text = some n) = true) n n.mem_all)

instance : WrittenName DomainSetting where
  isLegal_text n :=
    List.all_eq_true.1 (by decide +kernel : DomainSetting.all.all (Xml.isLegal ·.text) = true) n n.mem_all
  ofText?_text n :=
    of_decide_eq_true (List.all_eq_true.1
      (by decide +kernel : DomainSetting.all.all (fun n => SettingName.ofText? n.text = some n) = true) n n.mem_all)

namespace Soap

theorem Action.isLegal_uri (action : Action) : Xml.isLegal action.uri = true := by
  cases action <;>
  · simp only [Xml.isLegal, uri, String.toList_append]
    decide +kernel

def scope : Scope :=
  [(some "a", autodiscover), (some "wsa", addressing), (some "xsi", Xml.schemaInstance), (some "soap", envelope11)]

def headerNodes (action : Action) (version : ServerVersion) (recipient : String) : List Node :=
  [.leaf (name "RequestedServerVersion") version.text, .leaf ⟨some addressing, "Action"⟩ action.uri,
    .leaf ⟨some addressing, "To"⟩ recipient]

def envelopeNode (header body : List Node) : Node :=
  .element ⟨some envelope11, "Envelope"⟩ [] [
    .text "\n", .element ⟨some envelope11, "Header"⟩ [] header,
    .text "\n", .element ⟨some envelope11, "Body"⟩ [] body, .text "\n"]

def requestedSettingsNode {ν : Type} [SettingName ν] (settings : List ν) : Node :=
  .element (name "RequestedSettings") [] (settings.map fun s => .leaf (name "Setting") (SettingName.text s))

def messageNode (action : Action) (nodes : List Node) : Node :=
  .element (name (action.text ++ "RequestMessage")) [] [.element (name "Request") [] nodes]

def usersNode (addresses : List String) (settings : List UserSetting) : Node :=
  messageNode .getUserSettings [
    .element (name "Users") [] (addresses.map fun address =>
      .element (name "User") [] [.leaf (name "Mailbox") address]),
    requestedSettingsNode settings]

def domainsNode (domains : List String) (settings : List DomainSetting) (version : Option ServerVersion) : Node :=
  messageNode .getDomainSettings (
    [.element (name "Domains") [] (domains.map (.leaf (name "Domain"))), requestedSettingsNode settings] ++
      version.toList.map fun v => .leaf (name "RequestedVersion") v.text)

theorem adds_header (action : Action) (version : ServerVersion) {recipient : String}
    (h : Xml.isLegal recipient = true) :
    Adds scope (header action version recipient none) (headerNodes action version recipient) := by
  have hversion : Adds scope (Xml.simpleElement "a:RequestedServerVersion" version.text)
      [.leaf (name "RequestedServerVersion") version.text] :=
    Xml.adds_simpleElement (by decide +kernel) version.isLegal_text
  have haction : Adds scope (Xml.simpleElement "wsa:Action" action.uri)
      [.leaf ⟨some addressing, "Action"⟩ action.uri] :=
    Xml.adds_simpleElement (by decide +kernel) action.isLegal_uri
  have hto : Adds scope (Xml.simpleElement "wsa:To" recipient) [.leaf ⟨some addressing, "To"⟩ recipient] :=
    Xml.adds_simpleElement (by decide +kernel) h
  exact ((hversion.append haction).append hto).append Xml.adds_empty

theorem adds_requestedSettings {ν : Type} [SettingName ν] [WrittenName ν] (settings : List ν) :
    Adds scope (requestedSettings settings) [requestedSettingsNode settings] := by
  have hsetting (s : ν) : Adds scope (Xml.simpleElement "a:Setting" (SettingName.text s))
      [.leaf (name "Setting") (SettingName.text s)] :=
    Xml.adds_simpleElement (by decide +kernel) (WrittenName.isLegal_text s)
  exact Xml.adds_wrap (by decide +kernel) (Xml.adds_join fun s _ => hsetting s).fills

theorem adds_message {action : Action} {tag markup : String} {nodes : List Node}
    (htag : scope.means tag (name (action.text ++ "RequestMessage")) = true) (h : Adds scope markup nodes) :
    Adds scope (Xml.wrap tag (Xml.wrap "a:Request" markup)) [messageNode action nodes] := by
  have hrequest : Adds scope (Xml.wrap "a:Request" markup) [.element (name "Request") [] nodes] :=
    Xml.adds_wrap (by decide +kernel) h.fills
  exact Xml.adds_wrap htag hrequest.fills

theorem adds_usersBody {addresses : List String} (h : ∀ s ∈ addresses, Xml.isLegal s = true)
    (settings : List UserSetting) : Adds scope (usersBody addresses settings) [usersNode addresses settings] := by
  have hmailbox (address : String) (ha : address ∈ addresses) :
      Adds scope (Xml.simpleElement "a:Mailbox" address) [.leaf (name "Mailbox") address] :=
    Xml.adds_simpleElement (by decide +kernel) (h address ha)
  have huser (address : String) (ha : address ∈ addresses) :
      Adds scope (Xml.wrap "a:User" (Xml.simpleElement "a:Mailbox" address))
        [.element (name "User") [] [.leaf (name "Mailbox") address]] :=
    Xml.adds_wrap (by decide +kernel) (hmailbox address ha).fills
  have husers : Adds scope
      (Xml.wrap "a:Users" (String.join (addresses.map fun address =>
        Xml.wrap "a:User" (Xml.simpleElement "a:Mailbox" address))))
      [.element (name "Users") [] (addresses.map fun address =>
        .element (name "User") [] [.leaf (name "Mailbox") address])] :=
    Xml.adds_wrap (by decide +kernel) (Xml.adds_join huser).fills
  have hsettings := adds_requestedSettings settings
  exact adds_message (by decide +kernel) (husers.append hsettings)

theorem adds_domainsBody {domains : List String} (h : ∀ s ∈ domains, Xml.isLegal s = true)
    (settings : List DomainSetting) (version : Option ServerVersion) :
    Adds scope (domainsBody domains settings version) [domainsNode domains settings version] := by
  have hdomain (domain : String) (hd : domain ∈ domains) :
      Adds scope (Xml.simpleElement "a:Domain" domain) [.leaf (name "Domain") domain] :=
    Xml.adds_simpleElement (by decide +kernel) (h domain hd)
  have hdomains : Adds scope (Xml.wrap "a:Domains" (String.join (domains.map (Xml.simpleElement "a:Domain"))))
      [.element (name "Domains") [] (domains.map (.leaf (name "Domain")))] :=
    Xml.adds_wrap (by decide +kernel) (Xml.adds_join hdomain).fills
  have hsettings := adds_requestedSettings settings
  have hversion : Adds scope (version.elim "" fun v => Xml.simpleElement "a:RequestedVersion" v.text)
      (version.toList.map fun v => .leaf (name "RequestedVersion") v.text) := by
    cases version with
    | none => exact Xml.adds_empty
    | some v => exact Xml.adds_simpleElement (by decide +kernel) v.isLegal_text
  exact adds_message (by decide +kernel) ((hdomains.append hsettings).append hversion)

def declared : List Xml.RawAttribute :=
  scope.map fun entry => ⟨⟨"xmlns", entry.1.getD ""⟩, entry.2.toList⟩

theorem ofDocument?_envelope {headerText body : String} {headerNodes bodyNodes : List Node}
    (hh : Adds scope headerText headerNodes) (hb : Adds scope body bodyNodes) :
    Node.ofDocument? (envelope headerText body) = some (envelopeNode headerNodes bodyNodes) := by
  have hheader : Adds scope (Xml.wrap "soap:Header" headerText) [.element ⟨some envelope11, "Header"⟩ [] headerNodes] :=
    Xml.adds_wrap (by decide +kernel) hh.fills
  have hbody : Adds scope (Xml.wrap "soap:Body" body) [.element ⟨some envelope11, "Body"⟩ [] bodyNodes] :=
    Xml.adds_wrap (by decide +kernel) hb.fills
  have hlines := (Fills.line hbody Xml.fills_newline).line hheader
  have hdeclared : (" " ++ declarations).toList = declared.flatMap Xml.RawAttribute.text := by
    delta declarations
    simp only [String.toList_append]
    decide +kernel
  have hnames : declared.all Xml.RawAttribute.isWritten = true := by decide +kernel
  have hscope : Xml.declared? declared = some scope := by decide +kernel
  have hread := Node.ofDocument?_wrapped hdeclared hnames hscope
    (by decide +kernel : scope.means "soap:Envelope" ⟨some envelope11, "Envelope"⟩ = true) hlines
  have htext : envelope headerText body = "<?xml version=\"1.0\" encoding=\"utf-8\"?>\n" ++
      ("<" ++ "soap:Envelope" ++ (" " ++ declarations) ++ ">" ++
        ("\n" ++ Xml.wrap "soap:Header" headerText ++ ("\n" ++ Xml.wrap "soap:Body" body ++ "\n")) ++
        "</" ++ "soap:Envelope" ++ ">") := by
    -- the literals that it is written with do not end where tags and lines do
    have hstart : "<soap:Envelope " = "<" ++ "soap:Envelope" ++ " " := by decide
    have hbreak : ">\n" = ">" ++ "\n" := by decide
    have hend : "</soap:Envelope>" = "</" ++ "soap:Envelope" ++ ">" := by decide
    unfold envelope
    rw [hstart, hbreak, hend]
    simp only [String.append_assoc]
  rw [htext]
  exact hread

end Soap

namespace Legacy

def scope : Scope :=
  [(none, requestSpace)]

def name (base : String) : ExpandedName := ⟨some requestSpace, base⟩

def requestNode (address : String) : Node :=
  .element (name "Autodiscover") [] [
    .text "\n", .element (name "Request") [] [
      .text "\n", .leaf (name "EMailAddress") address,
      .text "\n", .leaf (name "AcceptableResponseSchema") responseSpace, .text "\n"],
    .text "\n"]

theorem ofDocument?_request {address : String} (h : Xml.isLegal address = true) :
    Node.ofDocument? (request address) = some (requestNode address) := by
  have haddress : Adds scope (Xml.simpleElement "EMailAddress" address) [.leaf (name "EMailAddress") address] :=
    Xml.adds_simpleElement (by decide +kernel) h
  have hschema : Adds scope (Xml.simpleElement "AcceptableResponseSchema" responseSpace)
      [.leaf (name "AcceptableResponseSchema") responseSpace] :=
    Xml.adds_simpleElement (by decide +kernel) (by decide +kernel)
  have hrequest := Xml.adds_wrap (by decide +kernel : scope.means "Request" (name "Request") = true)
    ((Fills.line hschema Xml.fills_newline).line haddress)
  have hdeclared : (" xmlns=\"" ++ requestSpace ++ "\"").toList =
      [⟨⟨"", "xmlns"⟩, requestSpace.toList⟩].flatMap Xml.RawAttribute.text := by
    simp only [String.toList_append]
    decide +kernel
  have hread := Node.ofDocument?_wrapped hdeclared (by decide +kernel) (by decide +kernel : _ = some scope)
    (by decide +kernel : scope.means "Autodiscover" (name "Autodiscover") = true) (Fills.line hrequest Xml.fills_newline)
  have htext : request address = "<?xml version=\"1.0\" encoding=\"utf-8\"?>\n" ++
      ("<" ++ "Autodiscover" ++ (" xmlns=\"" ++ requestSpace ++ "\"") ++ ">" ++
        ("\n" ++ Xml.wrap "Request" ("\n" ++ Xml.simpleElement "EMailAddress" address ++
          ("\n" ++ Xml.simpleElement "AcceptableResponseSchema" responseSpace ++ "\n")) ++ "\n") ++
        "</" ++ "Autodiscover" ++ ">") := by
    have hstart : "<Autodiscover xmlns=\"" = "<" ++ "Autodiscover" ++ " xmlns=\"" := by decide
    have hbreak : "\">\n" = "\"" ++ ">" ++ "\n" := by decide
    have hinner : "<Request>\n" = "<" ++ "Request" ++ ">" ++ "\n" := by decide
    have hinnerEnd : "</Request>\n" = "</" ++ "Request" ++ ">" ++ "\n" := by decide
    have hend : "</Autodiscover>" = "</" ++ "Autodiscover" ++ ">" := by decide
    unfold request
    rw [hstart, hbreak, hinner, hinnerEnd, hend]
    simp only [Xml.wrap, String.append_assoc]
  rw [htext]
  exact hread

end Legacy

namespace Query

def subjects : Query → List String
  | legacy address => [address]
  | users addresses _ => addresses
  | domains names _ _ => names

def tree (url : Uri) (version : ServerVersion) : Query → Node
  | .legacy address => Legacy.requestNode address
  | .users addresses settings =>
    Soap.envelopeNode (Soap.headerNodes .getUserSettings version url.text) [Soap.usersNode addresses settings]
  | .domains names settings requested =>
    Soap.envelopeNode (Soap.headerNodes .getDomainSettings version url.text)
      [Soap.domainsNode names settings requested]

theorem ofDocument?_render {q : Query} {url : Uri} {credential : Credential} (version : ServerVersion)
    (hq : ∀ s ∈ q.subjects, Xml.isLegal s = true) (hurl : url.Lawful) (hc : credential.securityHeader? = none) :
    Node.ofDocument? (q.render url version credential) = some (q.tree url version) := by
  cases q with
  | legacy address => exact Legacy.ofDocument?_request (hq address List.mem_cons_self)
  | users addresses settings =>
    rw [render, hc]
    exact Soap.ofDocument?_envelope (Soap.adds_header _ version hurl.isLegal) (Soap.adds_usersBody hq settings)
  | domains names settings requested =>
    rw [render, hc]
    exact Soap.ofDocument?_envelope (Soap.adds_header _ version hurl.isLegal)
      (Soap.adds_domainsBody hq settings requested)

end Query

end MailDiscovery
