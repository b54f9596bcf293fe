import MailDiscovery.Proofs.LegacySettings.Sources
import MailDiscovery.Proofs.Run.Forward

namespace MailDiscovery.Legacy

open Block (ofNode?)
open Xml (ExpandedName Node)

section

variable {name : UserSetting}

theorem get?_addBlock (s : Settings UserSetting) (block : Node) (name : UserSetting) :
    (addBlock s block).get? name = ((addBlock .empty block).get? name).or (s.get? name) := by
  by_cases hwrites : ∃ kind, ofNode? block = some kind ∧ name ∈ kind.names
  · obtain ⟨kind, hkind, hname⟩ := hwrites
    rw [← kind.map_fst_entries block] at hname
    obtain ⟨⟨_, value⟩, hentry, rfl⟩ := List.mem_map.1 hname
    rw [get?_addBlock_of_entry hkind hentry, get?_addBlock_of_entry hkind hentry]
    exact congrArg (Option.or · _) Option.or_none.symm
  · have hnot : ∀ kind, ofNode? block = some kind → name ∉ kind.names :=
      fun kind hkind hname => hwrites ⟨kind, hkind, hname⟩
    rw [get?_addBlock_of_not_mem hnot, get?_addBlock_of_not_mem hnot]
    rfl

theorem exists_of_addBlock {block : Node} (h : (addBlock .empty block).get? name ≠ none) :
    ∃ kind, ofNode? block = some kind ∧ name ∈ kind.names := by
  apply Classical.byContradiction
  intro hnot
  apply h
  rw [get?_addBlock_of_not_mem fun kind hkind hname => hnot ⟨kind, hkind, hname⟩]
  rfl

theorem addBlock_comm {a b : Node} (h : ∀ kind, ofNode? a = some kind → ofNode? b ≠ some kind)
    (s : Settings UserSetting) : addBlock (addBlock s a) b = addBlock (addBlock s b) a := by
  ext name : 2
  rw [get?_addBlock (addBlock s a) b, get?_addBlock s a, get?_addBlock (addBlock s b) a, get?_addBlock s b]
  by_cases ha : (addBlock .empty a).get? name = none
  · rw [ha, Option.none_or, Option.none_or]
  by_cases hb : (addBlock .empty b).get? name = none
  · rw [hb, Option.none_or, Option.none_or]
  obtain ⟨kind, hkind, hname⟩ := exists_of_addBlock ha
  obtain ⟨kind', hkind', hname'⟩ := exists_of_addBlock hb
  rw [Block.eq_of_mem_names hname' hname] at hkind'
  exact absurd hkind' (h kind hkind)

end

theorem addBlock_of_none {block : Node} (h : ofNode? block = none) (s : Settings UserSetting) : addBlock s block = s := by
  rw [addBlock_eq, h]
  rfl

theorem asciiLower_of_ofNode? {block : Node} {kind : Block} (h : ofNode? block = some kind) :
    (block.contentLike? "Type").map Text.asciiLower = some (Text.asciiLower kind.type) := by
  obtain ⟨type, htype, hsame⟩ := (Option.any_eq_true _ _).1 (Block.isOf_iff.2 h)
  rw [Text.sameLetters, beq_iff_eq] at hsame
  rw [htype, Option.map_some, hsame]

def onlyElements (children : List Node) : List Node :=
  children.filter (·.name?.isSome)

theorem childLike?_eq (n : Node) (base : String) :
    n.childLike? base = (onlyElements n.children).find? (Node.resembles base) := by
  rw [Node.childLike?, onlyElements, List.find?_filter]
  congr 1
  funext child
  rw [Node.resembles]
  cases child.name? with
  | none | some name => simp

theorem blocks_eq (n : Node) : blocks n = (onlyElements n.children).filter (·.hasBase "Protocol") := by
  rw [blocks, onlyElements, List.filter_filter]
  congr 1
  funext child
  rw [Node.hasBase]
  cases child.name? with
  | none | some name => simp

/-- Two accounts that differ in their protocol blocks and in the texts between elements: next to each other stand two blocks
of different types, in either order, or there is one more, without a type or with one that is not known. -/
inductive Rearranged : Node → Node → Prop
  | exchanged {own : ExpandedName} {attributes : List Xml.Attribute} {children children' front between rest : List Node}
      {a b : Node} (hown : Text.sameLetters own.base "Account" = true)
      (h : onlyElements children = front ++ a :: (between ++ b :: rest))
      (h' : onlyElements children' = front ++ b :: (between ++ a :: rest))
      (ha : a.hasBase "Protocol" = true) (hb : b.hasBase "Protocol" = true)
      (hbetween : ∀ n ∈ between, n.hasBase "Protocol" = false)
      (htypes : (a.contentLike? "Type").map Text.asciiLower ≠ (b.contentLike? "Type").map Text.asciiLower) :
      Rearranged (.element own attributes children) (.element own attributes children')
  | inserted {own : ExpandedName} {attributes : List Xml.Attribute} {children children' front rest : List Node} {a : Node}
      (hown : Text.sameLetters own.base "Account" = true) (h : onlyElements children = front ++ rest)
      (h' : onlyElements children' = front ++ a :: rest) (ha : a.hasBase "Protocol" = true)
      (htype : ∀ type ∈ a.contentLike? "Type", ∀ kind : Block, Text.sameLetters type kind.type = false) :
      Rearranged (.element own attributes children) (.element own attributes children')

inductive Within (R : Node → Node → Prop) : Node → Node → Prop
  | mk {own : ExpandedName} {attributes : List Xml.Attribute} {before after : List Node} {n n' : Node} (h : R n n') :
      Within R (.element own attributes (before ++ n :: after)) (.element own attributes (before ++ n' :: after))

theorem resembles_of_hasBase {n : Node} {own : String} (h : n.hasBase own = true) (base : String) :
    n.resembles base = Text.sameLetters own base := by
  obtain ⟨name, hname, hown⟩ := (Option.any_eq_true _ _).1 h
  rw [Node.resembles, hname, Option.any_some, beq_iff_eq.1 hown]

theorem sameLetters_of_resembles {n : Node} {base base' : String} (h : n.resembles base = true)
    (h' : n.resembles base' = true) : Text.sameLetters base base' = true := by
  obtain ⟨name, hname, hbase⟩ := (Option.any_eq_true _ _).1 h
  rw [Node.resembles, hname, Option.any_some] at h'
  rw [Text.sameLetters, beq_iff_eq] at hbase h' ⊢
  rw [← hbase, h']

structure ReadAlike (account account' : Node) : Prop where
  childLike? (base : String) (h : Text.sameLetters "Protocol" base = false) :
    account.childLike? base = account'.childLike? base
  addBlocks (s : Settings UserSetting) : (blocks account).foldl addBlock s = (blocks account').foldl addBlock s

variable {account account' response response' root root' : Node}

theorem Rearranged.readAlike (h : Rearranged account account') : ReadAlike account account' := by
  have skip {a : Node} (ha : a.hasBase "Protocol" = true) {base : String}
      (hbase : Text.sameLetters "Protocol" base = false) (rest : List Node) :
      (a :: rest).find? (Node.resembles base) = rest.find? (Node.resembles base) := by
    apply List.find?_cons_of_neg
    rw [resembles_of_hasBase ha, hbase]
    exact Bool.false_ne_true
  cases h with
  | exchanged hown helements helements' ha hb hbetween htypes =>
    rename_i own attributes children children' front between rest a b
    constructor
    case childLike? =>
      intro base hbase
      simp only [childLike?_eq, Node.children, helements, helements', List.find?_append, skip ha hbase, skip hb hbase]
    case addBlocks =>
      intro s
      have hnone : between.filter (·.hasBase "Protocol") = [] := List.filter_eq_nil_iff.2 (by simpa using hbetween)
      have hkinds : ∀ kind, ofNode? a = some kind → ofNode? b ≠ some kind := by
        intro kind hkind hkind'
        rw [asciiLower_of_ofNode? hkind, asciiLower_of_ofNode? hkind'] at htypes
        exact htypes rfl
      simp only [blocks_eq, Node.children, helements, helements', List.filter_append, List.filter_cons_of_pos, ha, hb,
        hnone, List.nil_append, List.foldl_append, List.foldl_cons, addBlock_comm hkinds]
  | inserted hown helements helements' ha htype =>
    rename_i own attributes children children' front rest a
    constructor
    case childLike? =>
      intro base hbase
      simp only [childLike?_eq, Node.children, helements, helements', List.find?_append, skip ha hbase]
    case addBlocks =>
      intro s
      have hnone : ofNode? a = none := by
        apply Option.eq_none_iff_forall_ne_some.2
        intro kind hkind
        obtain ⟨type, htyped, hsame⟩ := (Option.any_eq_true _ _).1 (Block.isOf_iff.2 hkind)
        rw [htype type htyped kind] at hsame
        cases hsame
      simp only [blocks_eq, Node.children, helements, helements', List.filter_append, List.filter_cons_of_pos, ha,
        List.foldl_append, List.foldl_cons, addBlock_of_none hnone]

def ofReadAccount (response account : Node) : Except ReadingError LegacyAnswer :=
  match account.childLike? "Error" with
  | some e => .ok (.error (error e))
  | none => ofAccount response account

def ofResponse (response : Node) : Except ReadingError LegacyAnswer :=
  match response.childLike? "Error" with
  | some e => .ok (.error (error e))
  | none => Xml.require "Account" (response.childLike? "Account") >>= ofReadAccount response

theorem ofRoot_eq (root : Node) :
    ofRoot root =
      if root.resembles "Autodiscover" then Xml.require "Response" (root.childLike? "Response") >>= ofResponse
      else .error (.missing "Autodiscover") := by
  unfold ofRoot
  by_cases hname : root.resembles "Autodiscover" = true
  · rw [if_pos hname]
    simp only [hname, Bool.not_true, Bool.false_eq_true, if_false]
    rfl
  · rw [if_neg hname]
    simp only [hname, Bool.not_false, if_true]

theorem ReadAlike.ofReadAccount (h : ReadAlike account account')
    (hu : response.childLike? "User" = response'.childLike? "User") :
    ofReadAccount response account = ofReadAccount response' account' := by
  have hcontent (base : String) (hbase : Text.sameLetters "Protocol" base = false) :
      account.contentLike? base = account'.contentLike? base := by
    rw [Node.contentLike?, Node.contentLike?, h.childLike? base hbase]
  have hsettings : settings response account = settings response' account' := by
    rw [settings_eq, settings_eq, hu, h.addBlocks]
  unfold Legacy.ofReadAccount ofAccount
  rw [h.childLike? "Error" (by decide), hcontent "Action" (by decide), hcontent "RedirectUrl" (by decide),
    hcontent "RedirectAddr" (by decide), hsettings]

theorem Rearranged.name? (h : Rearranged account account') : account.name? = account'.name? := by
  cases h with
  | exchanged | inserted => rfl

theorem Rearranged.resembles (h : Rearranged account account') : account.resembles "Account" = true := by
  cases h with
  | exchanged hown | inserted hown => exact hown

theorem Within.name? {R : Node → Node → Prop} (h : Within R response response') : response.name? = response'.name? := by
  cases h with
  | mk => rfl

theorem Within.childLike? {R : Node → Node → Prop} (hR : ∀ n n', R n n' → n.name? = n'.name?)
    (h : Within R response response') (base : String) :
    response.childLike? base = response'.childLike? base ∨
      ∃ n n', R n n' ∧ n.resembles base = true ∧ response.childLike? base = some n ∧
        response'.childLike? base = some n' := by
  cases h with
  | @mk own attributes before after n n' h =>
    have hname : n'.resembles base = n.resembles base := by rw [Node.resembles, Node.resembles, hR n n' h]
    simp only [Node.childLike?, Node.children, List.find?_append, List.find?_cons, hname]
    cases hfound : before.find? (Node.resembles base) with
    | some earlier => exact .inl rfl
    | none =>
      by_cases hn : n.resembles base = true
      · rw [hn]
        exact .inr ⟨n, n', h, hn, rfl, rfl⟩
      · rw [Bool.not_eq_true] at hn
        rw [hn]
        exact .inl rfl

theorem ofResponse_of_within (h : Within Rearranged response response') : ofResponse response = ofResponse response' := by
  have hchild := h.childLike? fun _ _ hn => hn.name?
  have hsame (base : String) (hbase : Text.sameLetters "Account" base = false) :
      response.childLike? base = response'.childLike? base := by
    rcases hchild base with hsame | ⟨n, n', hn, hbase', -, -⟩
    · exact hsame
    · rw [sameLetters_of_resembles hn.resembles hbase'] at hbase
      cases hbase
  have huser := hsame "User" (by decide)
  unfold ofResponse
  rw [← hsame "Error" (by decide)]
  cases response.childLike? "Error" with
  | some e => rfl
  | none =>
    rcases hchild "Account" with haccount | ⟨account, account', hn, -, haccount, haccount'⟩
    · rw [← haccount]
      cases response.childLike? "Account" with
      | none => rfl
      | some account => exact ReadAlike.ofReadAccount ⟨fun _ _ => rfl, fun _ => rfl⟩ huser
    · rw [haccount, haccount']
      exact hn.readAlike.ofReadAccount huser

theorem ofRoot_of_within (h : Within (Within Rearranged) root root') : ofRoot root = ofRoot root' := by
  have hname : root.resembles "Autodiscover" = root'.resembles "Autodiscover" := by
    rw [Node.resembles, Node.resembles, h.name?]
  rw [ofRoot_eq, ofRoot_eq, hname]
  have hchild := h.childLike? fun _ _ hn => hn.name?
  rcases hchild "Response" with hsame | ⟨response, response', hn, -, hresponse, hresponse'⟩
  · rw [hsame]
  · rw [hresponse, hresponse']
    congr 1
    exact ofResponse_of_within hn

structure ReadFrom (body : ByteArray) (response account : Node) : Prop where
  root : ∃ root, Xml.rootOfBody body = .ok root ∧ root.resembles "Autodiscover" = true ∧
    root.childLike? "Response" = some response
  account : response.childLike? "Account" = some account

theorem settings_of_ofAccount {found : Settings UserSetting} (h : ofAccount response account = .ok (.settings found)) :
    found = settings response account := by
  unfold ofAccount at h
  dsimp only at h
  split at h
  · cases h
    rfl
  split at h
  · cases hurl : Xml.require "RedirectUrl" (account.contentLike? "RedirectUrl") with
    | error | ok =>
      rw [hurl] at h
      cases h
  split at h
  · cases haddress : Xml.require "RedirectAddr" (account.contentLike? "RedirectAddr") with
    | error | ok =>
      rw [haddress] at h
      cases h
  · cases h

theorem settings_of_ofResponse {found : Settings UserSetting} (h : ofResponse response = .ok (.settings found)) :
    ∃ account, response.childLike? "Account" = some account ∧ found = settings response account := by
  unfold ofResponse at h
  split at h
  · cases h
  obtain ⟨account, haccount, h⟩ := Failure.of_bind_ok h
  refine ⟨account, Xml.eq_some_of_require haccount, ?_⟩
  unfold ofReadAccount at h
  split at h
  · cases h
  · exact settings_of_ofAccount h

theorem readFrom_of_ofBody {body : ByteArray} {found : Settings UserSetting} (h : ofBody body = .ok (.settings found)) :
    ∃ response account, ReadFrom body response account ∧ found = settings response account := by
  obtain ⟨root, hroot, h⟩ := Failure.of_bind_ok h
  rw [ofRoot_eq] at h
  split at h
  · rename_i hname
    obtain ⟨response, hresponse, h⟩ := Failure.of_bind_ok h
    obtain ⟨account, haccount, hfound⟩ := settings_of_ofResponse h
    exact ⟨response, account, ⟨⟨root, hroot, hname, Xml.eq_some_of_require hresponse⟩, haccount⟩, hfound⟩
  · cases h

/-- A setting of an answer is that of the user, or of the last block of its type that holds one; and the answer does not
depend on the order of blocks of different types, or on blocks without a type that is known. -/
theorem settings_extracted :
    (∀ body found, ofBody body = .ok (.settings found) → ∃ response account,
      ReadFrom body response account ∧ Extracted (response.childLike? "User") (blocks account) found) ∧
    ∀ root root', Within (Within Rearranged) root root' → ofRoot root = ofRoot root' := by
  refine ⟨fun body found h => ?_, fun root root' h => ofRoot_of_within h⟩
  obtain ⟨response, account, hread, rfl⟩ := readFrom_of_ofBody h
  exact ⟨response, account, hread, extracted_settings response account⟩

def overridingBody : String :=
  "<Autodiscover><Response><Account><Protocol><Type>EXPR</Type><Server>a.example</Server></Protocol>" ++
    "<Protocol><Type>expr</Type><Server> b.example </Server></Protocol></Account></Response></Autodiscover>"

def findsServer : LegacyAnswer → Bool
  | .settings found => found.get? .externalMailboxServer == some (.string "b.example")
  | _ => false

theorem overridingBody_read : ∃ found, ofBody overridingBody.toUTF8 = .ok (.settings found) ∧
    found.get? .externalMailboxServer = some (.string "b.example") := by
  have hread : ((Node.ofDocument? overridingBody).any fun root => (ofRoot root).toOption.any findsServer) = true := by
    unfold Node.ofDocument? overridingBody
    simp only [String.toList_append]
    decide +kernel
  obtain ⟨answer, hanswer, hfinds⟩ := exists_ofBody hread
  unfold findsServer at hfinds
  split at hfinds
  · exact ⟨_, hanswer, beq_iff_eq.1 hfinds⟩
  · cases hfinds

def typedBlock (type server : String) : Node :=
  .element ⟨none, "Protocol"⟩ []
    [.element ⟨none, "Type"⟩ [] [.text type], .element ⟨none, "Server"⟩ [] [.text server]]

def answerWith (children : List Node) : Node :=
  .element ⟨none, "Autodiscover"⟩ [] [.element ⟨none, "Response"⟩ [] [.element ⟨none, "Account"⟩ [] children]]

theorem settings_extracted_overriding :
    (∃ found response account, ofBody overridingBody.toUTF8 = .ok (.settings found) ∧
      ReadFrom overridingBody.toUTF8 response account ∧
      last? .external (blocks account) (·.contentLike? "Server") = some "b.example") ∧
    ofRoot (answerWith [typedBlock "EXPR" "a.example", .text " ", typedBlock "exch" "b.example"]) =
      ofRoot (answerWith [.text " ", typedBlock "exch" "b.example", typedBlock "EXPR" "a.example"]) := by
  constructor
  · obtain ⟨found, hfound, hserver⟩ := overridingBody_read
    obtain ⟨response, account, hread, hextracted⟩ := settings_extracted.1 _ found hfound
    have hlast := hextracted.element .external ("Server", .externalMailboxServer) (by decide)
    rw [hserver] at hlast
    obtain ⟨server, hlast, hsame⟩ := Option.map_eq_some_iff.1 hlast.symm
    cases hsame
    exact ⟨found, response, account, hfound, hread, hlast⟩
  · apply settings_extracted.2
    apply @Within.mk _ _ _ [] []
    apply @Within.mk _ _ _ [] []
    have htypes : ((typedBlock "EXPR" "a.example").contentLike? "Type").map Text.asciiLower ≠
        ((typedBlock "exch" "b.example").contentLike? "Type").map Text.asciiLower := by decide +kernel
    exact @Rearranged.exchanged ⟨none, "Account"⟩ [] _ _ [] [] [] _ _ (by decide) rfl rfl (by decide) (by decide)
      (by simp) htypes

end MailDiscovery.Legacy
