import MailDiscovery.Proofs.LegacySettings.Arrangement
import MailDiscovery.Proofs.LegacySpelling.Tree

namespace MailDiscovery.Legacy

open Xml (ExpandedName Node)

variable {exact : List String} {n n' : Node} {name : UserSetting}

namespace Alike

theorem texts (h : Alike exact n n') {elements : List (String × UserSetting)}
    (hl : elements.all (isLoose ·.1) = true) : texts n elements = texts n' elements := by
  refine List.map_congr_left fun e he => ?_
  rw [h.contentLike? (List.all_eq_true.1 hl e he)]

theorem error (h : Alike exact n n') : error n = error n' := by
  simp only [Legacy.error, h.attribute?, h.contentLike? (by decide : isLoose "ErrorCode" = true),
    h.contentLike? (by decide : isLoose "Message" = true), h.contentLike? (by decide : isLoose "DebugData" = true)]

theorem ofNode? (h : Alike exact n n') : Block.ofNode? n = Block.ofNode? n' := by
  rw [Block.ofNode?, Block.ofNode?, h.contentLike? (by decide)]

theorem encryption? (h : Alike exact n n') : encryption? n = encryption? n' := by
  rw [Legacy.encryption?, Legacy.encryption?, h.contentLike? (by decide)]

theorem webClientUrls (hw : "OWAUrl" ∈ exact) (h : Alike exact n n') : webClientUrls n = webClientUrls n' := by
  have hp : Hears exact (Node.hasBase "OWAUrl") := hears_hasBase (by decide) hw
  have hchildren := h.children
  unfold Legacy.webClientUrls
  generalize n.children = ns at hchildren
  generalize n'.children = ns' at hchildren
  induction hchildren with
  | nil => rfl
  | @cons n n' ns ns' hn _ ih =>
    have hurl : webClientUrl? n = webClientUrl? n' := by
      rw [webClientUrl?, webClientUrl?, ← hp.congr hn]
      split
      · have hsame := hn.alike (hp.heard ‹_›)
        rw [hsame.attribute?, hsame.content?]
      · rfl
    rw [List.filterMap_cons, List.filterMap_cons, hurl, ih]

theorem webClientUrls? (hw : "OWAUrl" ∈ exact) (h : Alike exact n n') {element : String}
    (hl : isLoose element = true) : webClientUrls? n element = webClientUrls? n' element := by
  have hchild := h.childLike? hl
  unfold Legacy.webClientUrls?
  generalize n.childLike? element = child at hchild
  generalize n'.childLike? element = child' at hchild
  cases hchild with
  | none => rfl
  | some hsame => rw [Option.map_some, Option.map_some, hsame.webClientUrls hw]

theorem addBlock (h : Alike exact n n') (hw : "OWAUrl" ∈ exact ∨ name ∉ Block.web.names) :
    (addBlock .empty n).get? name = (addBlock .empty n').get? name := by
  rw [addBlock_eq, addBlock_eq, ← h.ofNode?]
  cases Block.ofNode? n with
  | none => rfl
  | some kind =>
    rw [Option.elim_some, Option.elim_some]
    cases kind with
    | internal => rw [Block.entries, Block.entries, h.texts (by decide)]
    | external => rw [Block.entries, Block.entries, h.texts (by decide), h.encryption?]
    | web =>
      rcases hw with hw | hw
      · have hentries : Block.web.entries n = Block.web.entries n' := by
          dsimp only [Block.entries]
          refine List.map_congr_left fun e he => ?_
          rw [h.webClientUrls? hw (List.all_eq_true.1 (by decide : webElements.all (isLoose ·.1) = true) e he)]
        rw [hentries]
      · rw [Settings.get?_insertAll_of_not_mem (by rwa [Block.map_fst_entries]),
          Settings.get?_insertAll_of_not_mem (by rwa [Block.map_fst_entries])]

end Alike

theorem get?_addBlocks_congr {blocks blocks' : List Node} {s s' : Settings UserSetting}
    (h : List.Forall₂ (fun n n' => (addBlock .empty n).get? name = (addBlock .empty n').get? name) blocks blocks')
    (hs : s.get? name = s'.get? name) :
    (blocks.foldl addBlock s).get? name = (blocks'.foldl addBlock s').get? name := by
  induction h generalizing s s' with
  | nil => exact hs
  | @cons n n' _ _ hn _ ih =>
    rw [List.foldl_cons, List.foldl_cons]
    apply ih
    rw [get?_addBlock, get?_addBlock s', hn, hs]

theorem ofUser_congr {user? user?' : Option Node} (h : Option.Rel (Alike exact) user? user?') :
    ofUser user? = ofUser user?' := by
  cases h with
  | none => rfl
  | some hsame =>
    rw [ofUser, ofUser, Option.elim_some, Option.elim_some, addElements_eq, addElements_eq, hsame.texts (by decide)]

def spelledOut (name : UserSetting) : List String :=
  match Block.owner? name with
  | none => []
  | some .web => ["Protocol", "OWAUrl"]
  | some _ => ["Protocol"]

theorem get?_settings {response response' account account' : Node} (hr : Alike exact response response')
    (ha : Alike exact account account') (he : spelledOut name ⊆ exact) :
    (settings response account).get? name = (settings response' account').get? name := by
  have huser := ofUser_congr (hr.childLike? (by decide : isLoose "User" = true))
  rw [settings_eq, settings_eq, huser]
  cases howner : Block.owner? name with
  | none =>
    have hnone : ∀ kind : Block, name ∉ kind.names := by
      intro kind hname
      rw [Block.owner?_of_mem hname] at howner
      cases howner
    rw [get?_addBlocks_of_not_mem hnone, get?_addBlocks_of_not_mem hnone]
  | some kind =>
    have hprotocol : "Protocol" ∈ exact := by
      apply he
      rw [spelledOut, howner]
      cases kind with
      | internal | external | web => exact List.mem_cons_self
    have hweb : "OWAUrl" ∈ exact ∨ name ∉ Block.web.names := by
      by_cases hname : name ∈ Block.web.names
      · left
        apply he
        rw [spelledOut, Block.owner?_of_mem hname]
        exact List.mem_cons_of_mem _ List.mem_cons_self
      · exact .inr hname
    have hblocks := (hears_hasBase (by decide) hprotocol).filter ha.children
    exact get?_addBlocks_congr (hblocks.imp fun _ _ hn => hn.addBlock hweb) rfl

inductive Agree (P : UserSetting → Prop) : Except ReadingError LegacyAnswer → Except ReadingError LegacyAnswer → Prop
  | same (result : Except ReadingError LegacyAnswer) : Agree P result result
  | settings {found found' : Settings UserSetting} (h : ∀ name, P name → found.get? name = found'.get? name) :
      Agree P (.ok (.settings found)) (.ok (.settings found'))

theorem Agree.eq {P : UserSetting → Prop} {result result' : Except ReadingError LegacyAnswer} (h : Agree P result result')
    (hP : ∀ name, P name) : result = result' := by
  cases h with
  | same => rfl
  | settings h =>
    congr 2
    ext name : 2
    exact h name (hP name)

theorem Agree.require_bind {P : UserSetting → Prop} {element : String} {found found' : Option Node}
    {read read' : Node → Except ReadingError LegacyAnswer} (h : Option.Rel (Alike exact) found found')
    (hread : ∀ n n', Alike exact n n' → Agree P (read n) (read' n')) :
    Agree P (Xml.require element found >>= read) (Xml.require element found' >>= read') := by
  cases h with
  | none => exact .same _
  | some hsame => exact hread _ _ hsame

theorem Agree.error_or {P : UserSetting → Prop} {found found' : Option Node}
    {result result' : Except ReadingError LegacyAnswer} (h : Option.Rel (Alike exact) found found')
    (hr : Agree P result result') :
    Agree P (found.elim result fun e => .ok (.error (error e))) (found'.elim result' fun e => .ok (.error (error e))) := by
  cases h with
  | none => exact hr
  | some hsame =>
    rw [Option.elim_some, Option.elim_some, hsame.error]
    exact .same _

variable {response response' account account' root root' : Node}

theorem agree_ofAccount (hr : Alike exact response response') (ha : Alike exact account account') :
    Agree (spelledOut · ⊆ exact) (ofAccount response account) (ofAccount response' account') := by
  unfold ofAccount
  dsimp only
  rw [← ha.contentLike? (by decide : isLoose "Action" = true),
    ← ha.contentLike? (by decide : isLoose "RedirectUrl" = true),
    ← ha.contentLike? (by decide : isLoose "RedirectAddr" = true)]
  split
  · exact .settings fun name he => get?_settings hr ha he
  · exact .same _

theorem ofReadAccount_eq (response account : Node) : ofReadAccount response account =
    (account.childLike? "Error").elim (ofAccount response account) fun e => .ok (.error (error e)) := by
  unfold ofReadAccount
  cases account.childLike? "Error" with
  | none | some => rfl

theorem ofResponse_eq (response : Node) : ofResponse response =
    (response.childLike? "Error").elim (Xml.require "Account" (response.childLike? "Account") >>= ofReadAccount response)
      fun e => .ok (.error (error e)) := by
  unfold ofResponse
  cases response.childLike? "Error" with
  | none | some => rfl

theorem agree_ofReadAccount (hr : Alike exact response response') (ha : Alike exact account account') :
    Agree (spelledOut · ⊆ exact) (ofReadAccount response account) (ofReadAccount response' account') := by
  rw [ofReadAccount_eq, ofReadAccount_eq]
  exact .error_or (ha.childLike? (by decide)) (agree_ofAccount hr ha)

theorem agree_ofResponse (hr : Alike exact response response') :
    Agree (spelledOut · ⊆ exact) (ofResponse response) (ofResponse response') := by
  rw [ofResponse_eq, ofResponse_eq]
  apply Agree.error_or (hr.childLike? (by decide))
  exact .require_bind (hr.childLike? (by decide)) fun _ _ ha => agree_ofReadAccount hr ha

theorem agree_ofRoot (h : HeardAlike exact root root') :
    Agree (spelledOut · ⊆ exact) (ofRoot root) (ofRoot root') := by
  have hp : Hears exact (Node.resembles "Autodiscover") := hears_resembles exact (by decide)
  rw [ofRoot_eq, ofRoot_eq, ← hp.congr h]
  split
  · have hroot := h.alike (hp.heard ‹_›)
    exact .require_bind (hroot.childLike? (by decide)) fun _ _ hr => agree_ofResponse hr
  · exact .same _

theorem spelledOut_subset (name : UserSetting) : spelledOut name ⊆ exactNames := by
  unfold spelledOut
  split
  · exact List.nil_subset _
  · exact List.Subset.refl _
  · decide

theorem ofRoot_mute (root : Node) : ofRoot (mute root) = ofRoot root :=
  ((agree_ofRoot (@heardAlike_mute exactNames root)).eq spelledOut_subset).symm

theorem ofBody_of_rootOfBody {body : ByteArray} (h : Xml.rootOfBody body = .ok root) : ofBody body = ofRoot root := by
  rw [ofBody, h]
  rfl

/-- Documents whose elements differ in namespaces, and in the letter case of names, are read alike: what is found is the same
but for the settings from elements whose names are not spelled out in both, and all the same if those are. A misspelled
element is read like a comment. -/
theorem names_matched_loosely {body body' : ByteArray} (hb : Xml.rootOfBody body = .ok root)
    (hb' : Xml.rootOfBody body' = .ok root') (h : respelled exact root root' = true) :
    Agree (spelledOut · ⊆ exact) (ofBody body) (ofBody body') ∧
      (exactNames ⊆ exact → ofBody body = ofBody body') ∧ ofBody body = ofRoot (mute root) := by
  rw [ofBody_of_rootOfBody hb, ofBody_of_rootOfBody hb', ofRoot_mute]
  have hagree := agree_ofRoot (heardAlike_of_respelled root root' h)
  exact ⟨hagree, fun hexact => hagree.eq fun name => List.Subset.trans (spelledOut_subset name) hexact, rfl⟩

def comparesTo (exact : List String) (document document' : String) (p : LegacyAnswer → LegacyAnswer → Bool) : Bool :=
  (Node.ofDocument? document).any fun root => (Node.ofDocument? document').any fun root' =>
    respelled exact root root' && (ofRoot root).toOption.any fun answer => (ofRoot root').toOption.any (p answer)

theorem exists_of_comparesTo {document document' : String} {p : LegacyAnswer → LegacyAnswer → Bool}
    (h : comparesTo exact document document' p = true) :
    ∃ root root' answer answer', Xml.rootOfBody document.toUTF8 = .ok root ∧
      Xml.rootOfBody document'.toUTF8 = .ok root' ∧ respelled exact root root' = true ∧
      ofBody document.toUTF8 = .ok answer ∧ ofBody document'.toUTF8 = .ok answer' ∧ p answer answer' = true := by
  obtain ⟨root, hroot, h⟩ := (Option.any_eq_true _ _).1 h
  obtain ⟨root', hroot', h⟩ := (Option.any_eq_true _ _).1 h
  obtain ⟨hrespelled, h⟩ := Bool.and_eq_true_iff.1 h
  obtain ⟨answer, hanswer, h⟩ := exists_ok_of_toOption_any h
  obtain ⟨answer', hanswer', hp⟩ := exists_ok_of_toOption_any h
  refine ⟨root, root', answer, answer', Xml.rootOfBody_of_document hroot, Xml.rootOfBody_of_document hroot', hrespelled,
    ?_, ?_, hp⟩
  · rw [ofBody_of_document hroot, hanswer]
  · rw [ofBody_of_document hroot', hanswer']

def blockBody (tag : String) : String :=
  "<Autodiscover><Response><Account><" ++ tag ++ "><Type>EXPR</Type><Server>b.example</Server></" ++ tag ++
    "></Account></Response></Autodiscover>"

def respelledBody : String :=
  "<a:AUTODISCOVER xmlns:a=\"urn:a\"><response xmlns=\"urn:b\"><ACCOUNT><a:Protocol><TYPE>EXPR</TYPE>" ++
    "<server xmlns=\"\">b.example</server></a:Protocol></ACCOUNT></response></a:AUTODISCOVER>"

theorem names_matched_loosely_respelled :
    ∃ root root' answer, Xml.rootOfBody (blockBody "Protocol").toUTF8 = .ok root ∧
      Xml.rootOfBody respelledBody.toUTF8 = .ok root' ∧ respelled exactNames root root' = true ∧
      ofBody respelledBody.toUTF8 = .ok answer ∧ findsServer answer = true ∧
      ofBody (blockBody "Protocol").toUTF8 = ofBody respelledBody.toUTF8 := by
  have hcompares : comparesTo exactNames (blockBody "Protocol") respelledBody
      (fun _ answer => findsServer answer) = true := by
    unfold comparesTo Node.ofDocument? blockBody respelledBody
    simp only [String.toList_append]
    decide +kernel
  obtain ⟨root, root', -, answer, hroot, hroot', hrespelled, -, hanswer, hfinds⟩ := exists_of_comparesTo hcompares
  obtain ⟨-, hsame, -⟩ := names_matched_loosely hroot hroot' hrespelled
  exact ⟨root, root', answer, hroot, hroot', hrespelled, hanswer, hfinds, hsame (List.Subset.refl _)⟩

theorem misspelled_block_lost :
    ∃ root root', Xml.rootOfBody (blockBody "Protocol").toUTF8 = .ok root ∧
      Xml.rootOfBody (blockBody "protocol").toUTF8 = .ok root' ∧ respelled [] root root' = true ∧
      ofBody (blockBody "Protocol").toUTF8 ≠ ofBody (blockBody "protocol").toUTF8 := by
  have hcompares : comparesTo [] (blockBody "Protocol") (blockBody "protocol")
      (fun answer answer' => findsServer answer && !findsServer answer') = true := by
    unfold comparesTo Node.ofDocument? blockBody
    simp only [String.toList_append]
    decide +kernel
  obtain ⟨root, root', answer, answer', hroot, hroot', hrespelled, hanswer, hanswer', hfinds⟩ :=
    exists_of_comparesTo hcompares
  refine ⟨root, root', hroot, hroot', hrespelled, fun hsame => ?_⟩
  rw [hanswer, hanswer'] at hsame
  cases hsame
  simp at hfinds

end MailDiscovery.Legacy
