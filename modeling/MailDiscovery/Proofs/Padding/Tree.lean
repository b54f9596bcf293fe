import MailDiscovery.Soap.Reading

namespace MailDiscovery.Soap

open Xml (ExpandedName Node)

def leaves : List String :=
  ["MajorVersion", "MinorVersion", "MajorBuildNumber", "MinorBuildNumber", "Version", "PartnerToken",
    "PartnerTokenReference", "faultcode", "faultstring", "Value", "Text", "ErrorCode", "ErrorMessage",
    "RedirectTarget", "SettingName", "Name", "Url", "AuthenticationMethods", "Port", "Hostname", "EncryptionMethod"]

namespace Layout

def sections (layout : Layout) : List String :=
  ["Envelope", "Header", "ServerVersionInfo", "Body", "Fault", "Code", "Reason", layout.message.base, "Response",
    layout.responses.base, layout.response.base, layout.settings.base, "WebClientUrls", "WebClientUrl",
    "ProtocolConnections", "ProtocolConnection", layout.errors.base, layout.error.base]

def containers (layout : Layout) : List String :=
  layout.setting.base :: layout.sections

end Layout

section Padding

variable (ν : Type) [SettingName ν] (layout : Layout)

def isUnknown (n : Node) : Bool :=
  (text? n "Name").any fun s => (SettingName.ofText? s : Option ν).isNone

/-- Padding is all that is no element, the elements that are not looked for, and the settings that are not known. -/
def isPadding (n : Node) : Bool :=
  match n.name? with
  | none => true
  | some own => own.base ∉ leaves ++ layout.containers || (own == layout.setting && isUnknown ν n)

/-- The same tree but for the padding at one place between the children of a container. Texts are padding, so that this
may also split a text, or add to it. -/
inductive Padded : Node → Node → Prop
  | between {own : ExpandedName} {attributes : List Xml.Attribute} {before after padding padding' : List Node}
      (hc : own.base ∈ layout.containers) (h : ∀ n ∈ padding, isPadding ν layout n = true)
      (h' : ∀ n ∈ padding', isPadding ν layout n = true) :
      Padded (.element own attributes (before ++ padding ++ after)) (.element own attributes (before ++ padding' ++ after))
  | within {own : ExpandedName} {attributes : List Xml.Attribute} {before after : List Node} {n n' : Node}
      (hc : own.base ∈ layout.containers) (h : Padded n n') :
      Padded (.element own attributes (before ++ n :: after)) (.element own attributes (before ++ n' :: after))

def isContainer (n : Node) : Bool :=
  n.name?.any fun own => own.base ∈ layout.containers

mutual

def unpad : Node → Node
  | .element own attributes children => .element own attributes (unpadAll children)
  | n => n

def unpadAll : List Node → List Node
  | [] => []
  | n :: rest =>
    if isPadding ν layout n then unpadAll rest
    else (if isContainer layout n then unpad n else n) :: unpadAll rest

end

def unpadInside (n : Node) : Node :=
  if isContainer layout n then unpad ν layout n else n

end Padding

variable {ν : Type} [SettingName ν] {layout : Layout}

theorem unpadAll_eq (nodes : List Node) :
    unpadAll ν layout nodes = (nodes.filter (!isPadding ν layout ·)).map (unpadInside ν layout) := by
  induction nodes with
  | nil => rfl
  | cons n rest ih =>
    rw [unpadAll, ih]
    by_cases h : isPadding ν layout n = true
    · simp [h]
    · simp [h, unpadInside]

theorem children_unpad (n : Node) : (unpad ν layout n).children =
    (n.children.filter (!isPadding ν layout ·)).map (unpadInside ν layout) := by
  cases n with
  | element own attributes children => exact unpadAll_eq children
  | text | comment | instruction => rfl

@[simp] theorem name?_unpad (n : Node) : (unpad ν layout n).name? = n.name? := by
  cases n <;> rfl

@[simp] theorem attributes_unpad (n : Node) : (unpad ν layout n).attributes = n.attributes := by
  cases n <;> rfl

@[simp] theorem attribute?_unpad (n : Node) (own : ExpandedName) :
    (unpad ν layout n).attribute? own = n.attribute? own := by
  simp [Node.attribute?]

@[simp] theorem name?_unpadInside (n : Node) : (unpadInside ν layout n).name? = n.name? := by
  unfold unpadInside
  split
  · exact name?_unpad n
  · rfl

structure Seeks (p : Node → Bool) (base : String) : Prop where
  congr {n n' : Node} (h : n.name? = n'.name?) : p n = p n'
  base {n : Node} (h : p n = true) : ∃ own, n.name? = some own ∧ own.base = base

theorem seeks_isNamed (own : ExpandedName) : Seeks (Node.isNamed own) own.base where
  congr h := by simp [Node.isNamed, h]
  base h := ⟨own, by simpa [Node.isNamed] using h, rfl⟩

theorem seeks_hasBase (base : String) : Seeks (Node.hasBase base) base where
  congr h := by simp [Node.hasBase, h]
  base h := by simpa [Node.hasBase, Option.any_eq_true] using h

theorem seeks_isPart (base : String) : Seeks (isPart base) base where
  congr h := by simp [isPart, h]
  base h := by
    obtain ⟨own, hown, h⟩ := (Option.any_eq_true ..).1 h
    simp only [Bool.and_eq_true, beq_iff_eq] at h
    exact ⟨own, hown, h.1⟩

section Lookups

variable (hl : layout = .users ∨ layout = .domains) {p : Node → Bool} {base : String}

include hl

theorem not_mem_containers (hb : base ∈ leaves) : base ∉ layout.containers := by
  revert base
  rcases hl with rfl | rfl <;> decide

theorem ne_setting (hb : base ∈ leaves ++ layout.sections) : base ≠ layout.setting.base := by
  revert base
  rcases hl with rfl | rfl <;> decide

theorem Seeks.isPadding_eq_false (hp : Seeks p base) (hb : base ∈ leaves ++ layout.sections) {n : Node}
    (h : p n = true) : isPadding ν layout n = false := by
  obtain ⟨own, hown, rfl⟩ := hp.base h
  have hne : own ≠ layout.setting := fun heq => ne_setting hl hb (heq ▸ rfl)
  have hmem : own.base ∈ leaves ++ layout.containers := by
    rw [List.mem_append] at hb ⊢
    exact hb.imp_right (List.mem_cons_of_mem _)
  simp [isPadding, hown, hne, hmem]

theorem Seeks.unpadInside_leaf (hp : Seeks p base) (hb : base ∈ leaves) {n : Node} (h : p n = true) :
    unpadInside ν layout n = n := by
  obtain ⟨own, hown, rfl⟩ := hp.base h
  simp [unpadInside, isContainer, hown, not_mem_containers hl hb]

omit hl in
theorem Seeks.unpadInside_container (hp : Seeks p base) (hb : base ∈ layout.containers) {n : Node} (h : p n = true) :
    unpadInside ν layout n = unpad ν layout n := by
  obtain ⟨own, hown, rfl⟩ := hp.base h
  simp [unpadInside, isContainer, hown, hb]

theorem Seeks.find?_unpad (hp : Seeks p base) (hb : base ∈ leaves ++ layout.sections) (n : Node) :
    (unpad ν layout n).children.find? p = (n.children.find? p).map (unpadInside ν layout) := by
  rw [children_unpad, List.find?_map, List.find?_filter]
  congr 2
  funext c
  have hc : (p ∘ unpadInside ν layout) c = p c := hp.congr (name?_unpadInside c)
  rw [hc]
  by_cases h : p c = true
  · simp [h, hp.isPadding_eq_false hl hb h]
  · simp [h]

theorem Seeks.find?_leaf (hp : Seeks p base) (hb : base ∈ leaves) (n : Node) :
    (unpad ν layout n).children.find? p = n.children.find? p := by
  rw [hp.find?_unpad hl (List.mem_append_left _ hb)]
  cases h : n.children.find? p with
  | none => rfl
  | some c => exact congrArg some (hp.unpadInside_leaf hl hb (List.find?_some h))

theorem Seeks.find?_section (hp : Seeks p base) (hb : base ∈ layout.sections) (n : Node) :
    (unpad ν layout n).children.find? p = (n.children.find? p).map (unpad ν layout) := by
  rw [hp.find?_unpad hl (List.mem_append_right _ hb)]
  cases h : n.children.find? p with
  | none => rfl
  | some c => exact congrArg some (hp.unpadInside_container (List.mem_cons_of_mem _ hb) (List.find?_some h))

omit hl in
theorem Seeks.filter_unpad (hp : Seeks p base) (hb : base ∈ layout.containers) (n : Node) :
    (unpad ν layout n).children.filter p =
      ((n.children.filter p).filter (!isPadding ν layout ·)).map (unpad ν layout) := by
  have hc : p ∘ unpadInside ν layout = p := funext fun c => hp.congr (name?_unpadInside c)
  rw [children_unpad, List.filter_map, hc, List.filter_filter, List.filter_filter]
  simp only [Bool.and_comm]
  refine List.map_congr_left fun c hmem => hp.unpadInside_container hb ?_
  exact (Bool.and_eq_true_iff.1 (List.mem_filter.1 hmem).2).1

theorem Seeks.filter_section (hp : Seeks p base) (hb : base ∈ layout.sections) (n : Node) :
    (unpad ν layout n).children.filter p = (n.children.filter p).map (unpad ν layout) := by
  rw [hp.filter_unpad (List.mem_cons_of_mem _ hb)]
  congr 1
  refine List.filter_eq_self.2 fun c hmem => ?_
  rw [hp.isPadding_eq_false hl (List.mem_append_right _ hb) (List.mem_filter.1 hmem).2]
  rfl

theorem text?_unpad (hb : base ∈ leaves) (n : Node) : text? (unpad ν layout n) base = text? n base := by
  unfold text? Node.contentOf? Node.child?
  rw [(seeks_isNamed (name base)).find?_leaf hl hb]

theorem isUnknown_unpad (n : Node) : isUnknown ν (unpad ν layout n) = isUnknown ν n := by
  unfold isUnknown
  rw [text?_unpad hl (by decide)]

end Lookups

theorem Padded.exists_element {n n' : Node} (h : Padded ν layout n n') :
    ∃ own, n.name? = some own ∧ n'.name? = some own ∧ own.base ∈ layout.containers := by
  cases h with
  | between hc | within hc => exact ⟨_, rfl, rfl, hc⟩

theorem unpad_of_padded (hl : layout = .users ∨ layout = .domains) {n n' : Node} (h : Padded ν layout n n') :
    unpad ν layout n = unpad ν layout n' := by
  induction h with
  | @between own attributes before after padding padding' hc h h' =>
    have hnone {nodes : List Node} (hall : ∀ n ∈ nodes, isPadding ν layout n = true) :
        nodes.filter (!isPadding ν layout ·) = [] := by
      refine List.filter_eq_nil_iff.2 fun n hn => ?_
      simp [hall n hn]
    simp only [unpad, unpadAll_eq, List.filter_append, hnone h, hnone h']
  | @within own attributes before after n n' hc h ih =>
    obtain ⟨inner, hn, hn', hinner⟩ := h.exists_element
    have hpadding : isPadding ν layout n = isPadding ν layout n' := by
      unfold isPadding
      rw [hn, hn', ← isUnknown_unpad hl n, ih, isUnknown_unpad hl n']
    have hinside : unpadInside ν layout n = unpadInside ν layout n' := by
      simp [unpadInside, isContainer, hn, hn', hinner, ih]
    simp only [unpad, unpadAll_eq, List.filter_append, List.filter_cons, hpadding, List.map_append]
    split
    · rw [List.map_cons, List.map_cons, hinside]
    · rfl

end MailDiscovery.Soap
