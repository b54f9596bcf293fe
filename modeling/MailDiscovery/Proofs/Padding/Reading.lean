import Mathlib.Logic.Relation
import MailDiscovery.Proofs.Padding.Tree
import MailDiscovery.Proofs.Requests.Tree
import MailDiscovery.Proofs.Run.Forward

namespace MailDiscovery.Soap

open Xml (ExpandedName Node)

section Reading

variable {ν : Type} [SettingName ν] {layout : Layout} (hl : layout = .users ∨ layout = .domains)

include hl

theorem child?_unpad {own : ExpandedName} (hb : own.base ∈ layout.sections) (n : Node) :
    (unpad ν layout n).child? own = (n.child? own).map (unpad ν layout) :=
  (seeks_isNamed own).find?_section hl hb n

theorem childrenNamed_unpad {own : ExpandedName} (hb : own.base ∈ layout.sections) (n : Node) :
    (unpad ν layout n).childrenNamed own = (n.childrenNamed own).map (unpad ν layout) :=
  (seeks_isNamed own).filter_section hl hb n

theorem part?_unpad {base : String} (hb : base ∈ layout.sections) (n : Node) :
    part? (unpad ν layout n) base = (part? n base).map (unpad ν layout) :=
  (seeks_isPart base).find?_section hl hb n

theorem number?_unpad {base : String} (hb : base ∈ leaves) (n : Node) :
    number? (unpad ν layout n) base = number? n base := by
  unfold number?
  rw [text?_unpad hl hb]

theorem code_unpad (n : Node) : code (unpad ν layout n) = code n := by
  unfold code
  rw [text?_unpad hl (by decide)]

theorem serverInfo_unpad (n : Node) : serverInfo (unpad ν layout n) = serverInfo n := by
  unfold serverInfo
  repeat rw [number?_unpad hl (by decide)]
  rw [text?_unpad hl (by decide)]

theorem fault_unpad (n : Node) : fault (unpad ν layout n) = fault n := by
  have hleaf {base : String} (hb : base ∈ leaves) := (seeks_hasBase base).find?_leaf (ν := ν) hl hb n
  have hpart {base inner : String} (hb : base ∈ layout.sections) (hi : inner ∈ leaves) :
      (part? (unpad ν layout n) base).bind (part? · inner) = (part? n base).bind (part? · inner) := by
    rw [part?_unpad hl hb, Option.bind_map]
    congr 1
    funext c
    exact (seeks_isPart inner).find?_leaf hl hi c
  unfold fault
  rw [hleaf (by decide), hleaf (by decide), hpart (by simp [Layout.sections]) (by decide),
    hpart (by simp [Layout.sections]) (by decide)]

theorem webClientUrl?_unpad (n : Node) : webClientUrl? (unpad ν layout n) = webClientUrl? n := by
  unfold webClientUrl?
  rw [text?_unpad hl (by decide), text?_unpad hl (by decide)]

theorem webClientUrls_unpad (n : Node) : webClientUrls (unpad ν layout n) = webClientUrls n := by
  unfold webClientUrls
  rw [child?_unpad hl (by simp [name, Layout.sections])]
  cases n.child? (name "WebClientUrls") with
  | none => rfl
  | some urls =>
    simp only [Option.map_some]
    rw [childrenNamed_unpad hl (by simp [name, Layout.sections]), List.filterMap_map]
    congr 1
    exact funext fun url => webClientUrl?_unpad hl url

theorem connection_unpad (n : Node) : connection (unpad ν layout n) = connection n := by
  unfold connection
  rw [number?_unpad hl (by decide), text?_unpad hl (by decide), text?_unpad hl (by decide)]

theorem connections_unpad (n : Node) : connections (unpad ν layout n) = connections n := by
  unfold connections
  rw [child?_unpad hl (by simp [name, Layout.sections])]
  cases n.child? (name "ProtocolConnections") with
  | none => rfl
  | some list =>
    simp only [Option.map_some]
    rw [childrenNamed_unpad hl (by simp [name, Layout.sections]), List.mapM_map]
    congr 1
    exact funext fun c => connection_unpad hl c

omit hl in
theorem kind?_unpad (n : Node) : kind? (unpad ν layout n) = kind? n := by
  unfold kind?
  rw [attribute?_unpad]

theorem value?_unpad (n : Node) : value? (unpad ν layout n) = value? n := by
  have hvalue : (unpad ν layout n).child? (name "Value") = n.child? (name "Value") :=
    (seeks_isNamed (name "Value")).find?_leaf hl (by decide) n
  unfold value?
  rw [kind?_unpad, webClientUrls_unpad hl, connections_unpad hl, hvalue]

theorem settingError_unpad (n : Node) : settingError (unpad ν layout n) = settingError n := by
  unfold settingError
  rw [code_unpad hl, text?_unpad hl (by decide), text?_unpad hl (by decide)]

theorem settingErrors_unpad (n : Node) : settingErrors layout (unpad ν layout n) = settingErrors layout n := by
  unfold settingErrors
  rw [child?_unpad hl (by simp [Layout.sections])]
  cases n.child? layout.errors with
  | none => rfl
  | some list =>
    simp only [Option.map_some]
    rw [childrenNamed_unpad hl (by simp [Layout.sections]), List.map_map]
    congr 1
    exact funext fun e => settingError_unpad hl e

variable [DecidableEq ν]

theorem addSetting_unpad (s : Settings ν) (n : Node) : addSetting s (unpad ν layout n) = addSetting s n := by
  unfold addSetting
  rw [text?_unpad hl (by decide), value?_unpad hl]

omit hl in
theorem addSetting_of_isUnknown (s : Settings ν) {n : Node} (h : isUnknown ν n = true) : addSetting s n = .ok s := by
  obtain ⟨own, hown, hnone⟩ := (Option.any_eq_true ..).1 h
  rw [Option.isNone_iff_eq_none] at hnone
  unfold addSetting
  rw [hown]
  simp only [Xml.require, bind, Except.bind, hnone]

omit hl in
theorem foldlM_addSetting (s : Settings ν) {nodes : List Node} (h : ∀ n ∈ nodes, n.isNamed layout.setting = true) :
    (nodes.filter (!isPadding ν layout ·)).foldlM addSetting s = nodes.foldlM addSetting s := by
  induction nodes generalizing s with
  | nil => rfl
  | cons n rest ih =>
    rw [List.forall_mem_cons] at h
    by_cases hn : isPadding ν layout n = true
    · have hunknown : isUnknown ν n = true := by
        have hname : n.name? = some layout.setting := by simpa [Node.isNamed] using h.1
        simpa [isPadding, hname, Layout.containers] using hn
      rw [List.filter_cons_of_neg (by simp [hn]), List.foldlM_cons, addSetting_of_isUnknown s hunknown]
      exact ih s h.2
    · rw [List.filter_cons_of_pos (by simp [hn]), List.foldlM_cons, List.foldlM_cons]
      congr 1
      exact funext fun t => ih t h.2

theorem settings_unpad (n : Node) :
    (settings layout (unpad ν layout n) : Except ReadingError (Settings ν)) = settings layout n := by
  unfold settings
  rw [child?_unpad hl (by simp [Layout.sections])]
  cases n.child? layout.settings with
  | none => rfl
  | some list =>
    have hnamed : ∀ c ∈ list.childrenNamed layout.setting, c.isNamed layout.setting = true := fun c hc =>
      (List.mem_filter.1 hc).2
    have hlist : (unpad ν layout list).childrenNamed layout.setting =
        ((list.childrenNamed layout.setting).filter (!isPadding ν layout ·)).map (unpad ν layout) :=
      (seeks_isNamed layout.setting).filter_unpad List.mem_cons_self list
    simp only [Option.map_some]
    rw [hlist, List.foldlM_map, ← foldlM_addSetting .empty hnamed]
    congr 1
    exact funext fun s => funext fun c => addSetting_unpad hl s c

theorem response_unpad (n : Node) :
    (response layout (unpad ν layout n) : Except ReadingError (Response ν)) = response layout n := by
  unfold response
  rw [settings_unpad hl, code_unpad hl, text?_unpad hl (by decide), text?_unpad hl (by decide),
    settingErrors_unpad hl]

theorem responses_unpad (n : Node) :
    (responses layout (unpad ν layout n) : Except ReadingError (List (Response ν))) = responses layout n := by
  unfold responses
  rw [child?_unpad hl (by simp [Layout.sections])]
  cases n.child? layout.responses with
  | none => rfl
  | some list =>
    simp only [Option.map_some]
    rw [childrenNamed_unpad hl (by simp [Layout.sections]), List.mapM_map]
    congr 1
    exact funext fun c => response_unpad hl c

omit [DecidableEq ν] in
theorem heading_unpad (root : Node) : heading (unpad ν layout root) = heading root := by
  unfold heading
  rw [part?_unpad hl (by simp [Layout.sections])]
  cases part? root "Header" with
  | none => rfl
  | some header =>
    simp only [Option.map_some]
    rw [child?_unpad hl (by simp [name, Layout.sections]), text?_unpad hl (by decide), text?_unpad hl (by decide)]
    cases header.child? (name "ServerVersionInfo") with
    | none => rfl
    | some info =>
      simp only [Option.map_some]
      rw [serverInfo_unpad hl]

theorem ofRoot_unpad (root : Node) :
    (ofRoot layout (unpad ν layout root) : Except ReadingError (Collection ν)) = ofRoot layout root := by
  have hroot : isPart "Envelope" (unpad ν layout root) = isPart "Envelope" root :=
    (seeks_isPart "Envelope").congr (name?_unpad root)
  unfold ofRoot
  rw [hroot, heading_unpad hl, part?_unpad hl (by simp [Layout.sections])]
  congr 1
  refine bind_congr fun heading => ?_
  cases part? root "Body" with
  | none => rfl
  | some body =>
    simp only [Option.map_some, Xml.require, bind, Except.bind]
    rw [part?_unpad hl (by simp [Layout.sections]), child?_unpad hl (by simp [Layout.sections])]
    cases part? body "Fault" with
    | some n => exact congrArg Except.error (fault_unpad hl n)
    | none =>
      cases body.child? layout.message with
      | none => rfl
      | some message =>
        simp only [Option.map_some, Option.map_none]
        rw [child?_unpad hl (by simp [name, Layout.sections])]
        cases message.child? (name "Response") with
        | none => rfl
        | some answer =>
          simp only [Option.map_some]
          rw [responses_unpad hl, code_unpad hl, text?_unpad hl (by decide)]

end Reading

section Padded

open Relation (ReflTransGen)

variable {ν : Type} [DecidableEq ν] [SettingName ν] {layout : Layout}

theorem ofRoot_of_padded (hl : layout = .users ∨ layout = .domains) {root root' : Node}
    (h : ReflTransGen (Padded ν layout) root root') :
    (ofRoot layout root' : Except ReadingError (Collection ν)) = ofRoot layout root := by
  induction h with
  | refl => rfl
  | @tail n n' _ hstep ih => rw [← ih, ← ofRoot_unpad hl n', ← unpad_of_padded hl hstep, ofRoot_unpad hl n]

theorem ofBody_of_padded (hl : layout = .users ∨ layout = .domains) {root root' : Node}
    (h : ReflTransGen (Padded ν layout) root root') {body body' : ByteArray} (hb : Xml.rootOfBody body = .ok root)
    (hb' : Xml.rootOfBody body' = .ok root') :
    (ofBody layout body' : Except ReadingError (Collection ν)) = ofBody layout body := by
  rw [ofBody_of_rootOfBody hb, ofBody_of_rootOfBody hb']
  exact ofRoot_of_padded hl h

end Padded

def answerText (settings : String) : String :=
  envelope "" (Xml.wrap "a:GetUserSettingsResponseMessage" (Xml.wrap "a:Response" (Xml.wrap "a:UserResponses"
    (Xml.wrap "a:UserResponse" (Xml.wrap "a:UserSettings" settings)))))

def answerNode (settings : List Node) : Node :=
  envelopeNode [] [.element Layout.users.message [] [.element (name "Response") [] [
    .element Layout.users.responses [] [.element Layout.users.response [] [
      .element Layout.users.settings [] settings]]]]]

theorem rootOfBody_answer {settings : String} {nodes : List Node} (h : Xml.Adds scope settings nodes) :
    Xml.rootOfBody (answerText settings).toUTF8 = .ok (answerNode nodes) := by
  have adds {tag markup : String} {own : ExpandedName} {inner : List Node} (htag : scope.means tag own = true)
      (hm : Xml.Adds scope markup inner) : Xml.Adds scope (Xml.wrap tag markup) [.element own [] inner] :=
    Xml.adds_wrap htag hm.fills
  refine Xml.rootOfBody_of_document (ofDocument?_envelope Xml.adds_empty ?_)
  exact adds (by decide +kernel) (adds (by decide +kernel) (adds (by decide +kernel) (adds (by decide +kernel)
    (adds (by decide +kernel) h))))

theorem padded_answerNode {nodes nodes' : List Node}
    (h : Padded UserSetting .users (.element Layout.users.settings [] nodes) (.element Layout.users.settings [] nodes')) :
    Padded UserSetting .users (answerNode nodes) (answerNode nodes') := by
  have alone (own : ExpandedName) (hc : own.base ∈ Layout.users.containers) {n n' : Node}
      (hn : Padded UserSetting .users n n') :
      Padded UserSetting .users (.element own [] ([] ++ n :: [])) (.element own [] ([] ++ n' :: [])) :=
    .within hc hn
  have hlist := alone Layout.users.responses (by decide) (alone Layout.users.response (by decide) h)
  have hmessage := alone Layout.users.message (by decide) (alone (name "Response") (by decide) hlist)
  have hbody := alone ⟨some envelope11, "Body"⟩ (by decide) hmessage
  let before : List Node := [.text "\n", .element ⟨some envelope11, "Header"⟩ [] [], .text "\n"]
  exact @Padded.within _ _ _ ⟨some envelope11, "Envelope"⟩ [] before [.text "\n"] _ _ (by decide) hbody

def settingText (title : String) : String :=
  Xml.wrap "a:UserSetting" (Xml.simpleElement "a:Name" title ++ Xml.simpleElement "a:Value" "b.example")

def settingNode (title : String) : Node :=
  .element Layout.users.setting [] [.leaf (name "Name") title, .leaf (name "Value") "b.example"]

theorem adds_setting {title : String} (h : Xml.isLegal title = true) :
    Xml.Adds scope (settingText title) [settingNode title] := by
  have hname : Xml.Adds scope (Xml.simpleElement "a:Name" title) [.leaf (name "Name") title] :=
    Xml.adds_simpleElement (by decide +kernel) h
  have hvalue : Xml.Adds scope (Xml.simpleElement "a:Value" "b.example") [.leaf (name "Value") "b.example"] :=
    Xml.adds_simpleElement (by decide +kernel) (by decide +kernel)
  exact Xml.adds_wrap (by decide +kernel) (hname.append hvalue).fills

def heard : String := settingText "ExternalEwsUrl"

def unheard : String := settingText "FutureEwsUrl"

theorem ofRoot_answerNode_heard :
    ∃ c : Collection UserSetting, ofRoot .users (answerNode [settingNode "ExternalEwsUrl"]) = .ok c ∧
      c.responses.map (·.settings.get? .externalEwsUrl) = [some (.string "b.example")] := by
  have hread : (ofRoot .users (answerNode [settingNode "ExternalEwsUrl"])).toOption.any
      (fun c : Collection UserSetting =>
        c.responses.map (·.settings.get? .externalEwsUrl) == [some (.string "b.example")]) = true := by
    decide +kernel
  obtain ⟨c, hc, hsettings⟩ := exists_ok_of_toOption_any hread
  exact ⟨c, hc, beq_iff_eq.1 hsettings⟩

theorem ofBody_of_padded_unheard :
    ∃ root root', ∃ c : Collection UserSetting, Relation.ReflTransGen (Padded UserSetting .users) root root' ∧
      Xml.rootOfBody (answerText heard).toUTF8 = .ok root ∧
      Xml.rootOfBody (answerText (heard ++ unheard)).toUTF8 = .ok root' ∧
      ofBody .users (answerText (heard ++ unheard)).toUTF8 = .ok c ∧
      c.responses.map (·.settings.get? .externalEwsUrl) = [some (.string "b.example")] := by
  have hpadding : ∀ n ∈ [settingNode "FutureEwsUrl"], isPadding UserSetting .users n = true := by decide +kernel
  have hinserted : Padded UserSetting .users
      (.element Layout.users.settings [] ([settingNode "ExternalEwsUrl"] ++ [] ++ []))
      (.element Layout.users.settings [] ([settingNode "ExternalEwsUrl"] ++ [settingNode "FutureEwsUrl"] ++ [])) :=
    .between (by decide) (by simp) hpadding
  have hsteps := Relation.ReflTransGen.single (padded_answerNode hinserted)
  have hheard := adds_setting (by decide +kernel : Xml.isLegal "ExternalEwsUrl" = true)
  have hunheard := adds_setting (by decide +kernel : Xml.isLegal "FutureEwsUrl" = true)
  have hb := rootOfBody_answer hheard
  have hb' := rootOfBody_answer (hheard.append hunheard)
  obtain ⟨c, hc, hsettings⟩ := ofRoot_answerNode_heard
  have halike := ofBody_of_padded (.inl rfl) hsteps hb hb'
  rw [ofBody_of_rootOfBody hb, hc] at halike
  exact ⟨_, _, c, hsteps, hb, hb', halike, hsettings⟩

end MailDiscovery.Soap
