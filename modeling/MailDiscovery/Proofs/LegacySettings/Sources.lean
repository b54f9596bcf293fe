import MailDiscovery.Legacy.Reading

/-!
Where each setting of a legacy answer comes from. No two kinds of blocks write the same setting, and none writes a setting
of the user, so that a setting has the value of the last block of its kind that holds one.
-/

namespace MailDiscovery

namespace Settings

variable {ν : Type} [DecidableEq ν]

def insertAll (s : Settings ν) (entries : List (ν × Option SettingValue)) : Settings ν :=
  entries.foldl (fun s e => s.insertSome e.1 e.2) s

theorem insertAll_append (s : Settings ν) (entries entries' : List (ν × Option SettingValue)) :
    s.insertAll (entries ++ entries') = (s.insertAll entries).insertAll entries' :=
  List.foldl_append

theorem get?_insertSome (s : Settings ν) (name n : ν) (value : Option SettingValue) :
    (s.insertSome name value).get? n = if n = name then value.or (s.get? n) else s.get? n := by
  cases value with
  | none => simp [insertSome]
  | some v => simp [insertSome, insert]

theorem get?_insertAll_of_not_mem {entries : List (ν × Option SettingValue)} {name : ν}
    (h : name ∉ entries.map Prod.fst) (s : Settings ν) : (s.insertAll entries).get? name = s.get? name := by
  induction entries generalizing s with
  | nil => rfl
  | cons e entries ih =>
    rw [List.map_cons, List.mem_cons, not_or] at h
    change ((s.insertSome e.1 e.2).insertAll entries).get? name = s.get? name
    rw [ih h.2, get?_insertSome, if_neg h.1]

theorem get?_insertAll_of_mem {entries : List (ν × Option SettingValue)} {name : ν} {value : Option SettingValue}
    (hd : (entries.map Prod.fst).Nodup) (h : (name, value) ∈ entries) (s : Settings ν) :
    (s.insertAll entries).get? name = value.or (s.get? name) := by
  induction entries generalizing s with
  | nil => cases h
  | cons e entries ih =>
    rw [List.map_cons, List.nodup_cons] at hd
    change ((s.insertSome e.1 e.2).insertAll entries).get? name = _
    rcases List.mem_cons.1 h with rfl | h
    · rw [get?_insertAll_of_not_mem hd.1, get?_insertSome, if_pos rfl]
    · have hne : name ≠ e.1 := by
        rintro rfl
        exact hd.1 (List.mem_map.2 ⟨_, h, rfl⟩)
      rw [ih hd.2 h, get?_insertSome, if_neg hne]

end Settings

namespace Legacy

open Xml (Node)

def texts (n : Node) (elements : List (String × UserSetting)) : List (UserSetting × Option SettingValue) :=
  elements.map fun e => (e.2, (n.contentLike? e.1).map .string)

theorem addElements_eq (n : Node) (s : Settings UserSetting) (elements : List (String × UserSetting)) :
    addElements n s elements = s.insertAll (texts n elements) := by
  unfold addElements Settings.insertAll texts
  rw [List.foldl_map]
  rfl

def encryption? (block : Node) : Option String :=
  (block.contentLike? "SSL").map fun ssl => if Text.sameLetters ssl "on" then "True" else "False"

def webElements : List (String × UserSetting) :=
  [("Internal", .internalWebClientUrls), ("External", .externalWebClientUrls)]

def webClientUrls? (block : Node) (element : String) : Option (List WebClientUrl) :=
  ((block.childLike? element).map webClientUrls).filter (· ≠ [])

namespace Block

def type : Block → String
  | internal => "EXCH"
  | external => "EXPR"
  | web => "WEB"

def isOf (kind : Block) (block : Node) : Bool :=
  (block.contentLike? "Type").any (Text.sameLetters · kind.type)

def ofNode? (block : Node) : Option Block :=
  (block.contentLike? "Type").bind ofType?

theorem ofType?_congr {s t : String} (h : Text.sameLetters s t = true) : ofType? s = ofType? t := by
  have hsame (word : String) : Text.sameLetters s word = Text.sameLetters t word := by
    rw [Text.sameLetters, beq_iff_eq] at h
    rw [Text.sameLetters, Text.sameLetters, h]
  unfold ofType?
  rw [hsame, hsame, hsame]

theorem ofType?_type (kind : Block) : ofType? kind.type = some kind := by
  cases kind with
  | internal | external | web => decide

theorem ofType?_eq_some_iff {s : String} {kind : Block} :
    ofType? s = some kind ↔ Text.sameLetters s kind.type = true := by
  constructor
  · intro h
    unfold ofType? at h
    split at h
    · cases h
      assumption
    split at h
    · cases h
      assumption
    split at h
    · cases h
      assumption
    · cases h
  · intro h
    rw [ofType?_congr h, ofType?_type]

theorem isOf_iff {kind : Block} {block : Node} : kind.isOf block = true ↔ ofNode? block = some kind := by
  rw [isOf, Option.any_eq_true, ofNode?, Option.bind_eq_some_iff]
  simp only [ofType?_eq_some_iff]

def entries (block : Node) : Block → List (UserSetting × Option SettingValue)
  | internal => texts block internal.elements
  | external => texts block external.elements ++ [(.externalMailboxServerRequiresSSL, (encryption? block).map .string)]
  | web => webElements.map fun e => (e.2, (webClientUrls? block e.1).map .webClientUrls)

def names : Block → List UserSetting
  | internal => internal.elements.map Prod.snd
  | external => external.elements.map Prod.snd ++ [.externalMailboxServerRequiresSSL]
  | web => webElements.map Prod.snd

theorem map_fst_entries (kind : Block) (block : Node) : (kind.entries block).map Prod.fst = kind.names := by
  cases kind with
  | internal | external | web => rfl

theorem nodup_names (kind : Block) : kind.names.Nodup := by
  cases kind with
  | internal | external | web => decide

def owner? (name : UserSetting) : Option Block :=
  [internal, external, web].find? (name ∈ ·.names)

theorem owner?_of_mem {kind : Block} {name : UserSetting} (h : name ∈ kind.names) : owner? name = some kind := by
  revert name
  cases kind with
  | internal | external | web => decide

theorem eq_of_mem_names {kind kind' : Block} {name : UserSetting} (h : name ∈ kind.names) (h' : name ∈ kind'.names) :
    kind = kind' := by
  rw [← Option.some.injEq, ← owner?_of_mem h, owner?_of_mem h']

theorem not_mem_names {kind : Block} {name : UserSetting} (h : name ∈ userElements.map Prod.snd) :
    name ∉ kind.names := by
  revert name
  cases kind with
  | internal | external | web => decide

end Block

open Block (ofNode?)

theorem addEncryption_eq (s : Settings UserSetting) (block : Node) :
    addEncryption block s =
      s.insertAll [(.externalMailboxServerRequiresSSL, (encryption? block).map .string)] := by
  unfold addEncryption encryption?
  rw [Option.map_map]
  rfl

theorem addWebClientUrls_eq (s : Settings UserSetting) (block : Node) (e : String × UserSetting) :
    addWebClientUrls block s e = s.insertSome e.2 ((webClientUrls? block e.1).map .webClientUrls) := by
  unfold addWebClientUrls webClientUrls?
  cases block.childLike? e.1 with
  | none => rfl
  | some n =>
    simp only [Option.map_some, Option.getD_some]
    cases webClientUrls n with
    | nil => rfl
    | cons url urls => rfl

theorem addBlock_eq (s : Settings UserSetting) (block : Node) :
    addBlock s block = s.insertAll ((ofNode? block).elim [] (·.entries block)) := by
  unfold addBlock
  rw [← ofNode?]
  cases ofNode? block with
  | none => rfl
  | some kind =>
    cases kind with
    | internal => exact addElements_eq block s _
    | external =>
      dsimp only [Option.elim_some, Block.entries]
      rw [addEncryption_eq, addElements_eq, Settings.insertAll_append]
    | web =>
      dsimp only [Option.elim_some, Block.entries]
      simp only [List.foldl_cons, List.foldl_nil, addWebClientUrls_eq]
      rfl

section

variable {block : Node} {kind : Block} {name : UserSetting}

theorem get?_addBlock_of_entry {value : Option SettingValue} (hk : ofNode? block = some kind)
    (he : (name, value) ∈ kind.entries block) (s : Settings UserSetting) :
    (addBlock s block).get? name = value.or (s.get? name) := by
  have hdistinct : ((kind.entries block).map Prod.fst).Nodup := by
    rw [Block.map_fst_entries]
    exact kind.nodup_names
  rw [addBlock_eq, hk, Option.elim_some, Settings.get?_insertAll_of_mem hdistinct he]

theorem get?_addBlock_of_not_mem (hn : ∀ own, ofNode? block = some own → name ∉ own.names)
    (s : Settings UserSetting) : (addBlock s block).get? name = s.get? name := by
  rw [addBlock_eq]
  cases hown : ofNode? block with
  | none => rfl
  | some own =>
    apply Settings.get?_insertAll_of_not_mem
    rw [Option.elim_some, Block.map_fst_entries]
    exact hn own hown

def last? {α : Type} (kind : Block) (blocks : List Node) (read : Node → Option α) : Option α :=
  (blocks.filter kind.isOf).reverse.findSome? read

theorem map_last? {α β : Type} (f : α → β) (kind : Block) (blocks : List Node) (read : Node → Option α) :
    (last? kind blocks read).map f = last? kind blocks fun block => (read block).map f := by
  unfold last?
  rw [List.map_findSome?]
  rfl

theorem get?_addBlocks {read : Node → Option SettingValue} (hr : ∀ block, (name, read block) ∈ kind.entries block)
    (blocks : List Node) (s : Settings UserSetting) :
    (blocks.foldl addBlock s).get? name = (last? kind blocks read).or (s.get? name) := by
  induction blocks generalizing s with
  | nil => rfl
  | cons block blocks ih =>
    rw [List.foldl_cons, ih]
    by_cases hk : kind.isOf block = true
    · rw [get?_addBlock_of_entry (Block.isOf_iff.1 hk) (hr block), last?, last?, List.filter_cons_of_pos hk,
        List.reverse_cons, List.findSome?_append, Option.or_assoc]
      simp
    · have hname : name ∈ kind.names := by
        rw [← kind.map_fst_entries block]
        exact List.mem_map.2 ⟨_, hr block, rfl⟩
      have hother : ∀ own, ofNode? block = some own → name ∉ own.names := by
        intro own hown hmem
        rw [Block.eq_of_mem_names hname hmem] at hk
        exact hk (Block.isOf_iff.2 hown)
      rw [get?_addBlock_of_not_mem hother, last?, last?, List.filter_cons_of_neg hk]

theorem get?_addBlocks_of_not_mem (hn : ∀ kind : Block, name ∉ kind.names) (blocks : List Node)
    (s : Settings UserSetting) : (blocks.foldl addBlock s).get? name = s.get? name := by
  induction blocks generalizing s with
  | nil => rfl
  | cons block blocks ih => rw [List.foldl_cons, ih, get?_addBlock_of_not_mem fun own _ => hn own]

end

def ofUser (user? : Option Node) : Settings UserSetting :=
  user?.elim .empty (addElements · .empty userElements)

theorem get?_ofUser {e : String × UserSetting} (he : e ∈ userElements) (user? : Option Node) :
    (ofUser user?).get? e.2 = (user?.bind (·.contentLike? e.1)).map .string := by
  cases user? with
  | none => rfl
  | some user =>
    have hdistinct : ((texts user userElements).map Prod.fst).Nodup :=
      (by decide : (userElements.map Prod.snd).Nodup)
    have hentry : (e.2, (user.contentLike? e.1).map .string) ∈ texts user userElements := List.mem_map.2 ⟨e, he, rfl⟩
    rw [ofUser, Option.elim_some, addElements_eq, Settings.get?_insertAll_of_mem hdistinct hentry]
    exact Option.or_none

theorem get?_ofUser_of_not_mem {name : UserSetting} (hn : name ∉ userElements.map Prod.snd) (user? : Option Node) :
    (ofUser user?).get? name = none := by
  cases user? with
  | none => rfl
  | some user =>
    rw [ofUser, Option.elim_some, addElements_eq]
    exact Settings.get?_insertAll_of_not_mem hn _

def blocks (account : Node) : List Node :=
  account.children.filter (·.hasBase "Protocol")

theorem settings_eq (response account : Node) :
    settings response account = (blocks account).foldl addBlock (ofUser (response.childLike? "User")) := by
  unfold settings blocks ofUser
  cases response.childLike? "User" with
  | none | some => rfl

structure Extracted (user? : Option Node) (blocks : List Node) (found : Settings UserSetting) : Prop where
  user : ∀ e ∈ userElements, found.get? e.2 = (user?.bind (·.contentLike? e.1)).map .string
  element : ∀ kind : Block, ∀ e ∈ kind.elements,
    found.get? e.2 = (last? kind blocks (·.contentLike? e.1)).map .string
  encryption : found.get? .externalMailboxServerRequiresSSL =
    (last? .external blocks (·.contentLike? "SSL")).map fun ssl =>
      .string (if Text.sameLetters ssl "on" then "True" else "False")
  webClientUrls : ∀ e ∈ webElements, found.get? e.2 = (last? .web blocks (webClientUrls? · e.1)).map .webClientUrls
  other : ∀ name, name ∉ userElements.map Prod.snd → (∀ kind : Block, name ∉ kind.names) → found.get? name = none

theorem extracted_settings (response account : Node) :
    Extracted (response.childLike? "User") (blocks account) (settings response account) := by
  rw [settings_eq]
  generalize response.childLike? "User" = user?
  generalize blocks account = blocks
  -- A setting that blocks write is none of the user, so that there is nothing before the first block.
  have ofBlocks {α : Type} {f : α → SettingValue} {read : Node → Option α} {kind : Block} {name : UserSetting}
      (hr : ∀ block, (name, (read block).map f) ∈ kind.entries block) :
      (blocks.foldl addBlock (ofUser user?)).get? name = (last? kind blocks read).map f := by
    have hname : name ∈ kind.names := by
      rw [← kind.map_fst_entries (.text "")]
      exact List.mem_map.2 ⟨_, hr _, rfl⟩
    rw [get?_addBlocks hr, get?_ofUser_of_not_mem fun h => Block.not_mem_names h hname, Option.or_none, map_last?]
  constructor
  case user =>
    intro e he
    rw [get?_addBlocks_of_not_mem fun kind => Block.not_mem_names (List.mem_map_of_mem he), get?_ofUser he]
  case element =>
    intro kind e he
    apply ofBlocks
    intro block
    have htext : (e.2, (block.contentLike? e.1).map SettingValue.string) ∈ texts block kind.elements :=
      List.mem_map.2 ⟨e, he, rfl⟩
    cases kind with
    | internal => exact htext
    | external => exact List.mem_append_left _ htext
    | web => cases he
  case encryption =>
    apply ofBlocks
    intro block
    apply List.mem_append_right
    rw [List.mem_singleton, encryption?, Option.map_map]
    rfl
  case webClientUrls =>
    intro e he
    apply ofBlocks
    intro block
    exact List.mem_map.2 ⟨e, he, rfl⟩
  case other =>
    intro name huser hblock
    rw [get?_addBlocks_of_not_mem hblock, get?_ofUser_of_not_mem huser]

end Legacy

end MailDiscovery
