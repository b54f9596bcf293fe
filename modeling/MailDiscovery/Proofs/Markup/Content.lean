import MailDiscovery.Proofs.Markup.Tokens
import MailDiscovery.Xml.Document

/-!
What markup adds to the element that is open where it is read: an element adds itself whatever stands around it, while
character data is cut off only by the markup after it.
-/

namespace MailDiscovery.Xml

namespace Building

def read? (b : Building) (cs : List Char) : Option Building :=
  (Token.scan? cs).bind (·.foldlM step? b)

theorem read?_nil (b : Building) : b.read? [] = some b := by
  rw [read?, Token.scan?]
  rfl

theorem read?_token {b : Building} {cs rest : List Char} {token : Token} (hne : cs ≠ [])
    (h : Token.next? cs = some (token, rest)) : b.read? cs = (b.step? token).bind (·.read? rest) := by
  have hscan : Token.scan? cs = (Token.scan? rest).map (token :: ·) := by
    rw [Token.scan?, dif_neg hne]
    split
    · simp_all
    · simp_all
  unfold read?
  rw [hscan]
  cases Token.scan? rest with
  | none => simp
  | some tokens =>
    rw [Option.map_some, Option.bind_some, List.foldlM_cons]
    rfl

end Building

def declared? (raw : List RawAttribute) : Option Scope :=
  ((raw.foldlM Declared.addRaw {}).filter (·.plain.isEmpty)).map (·.scope)

theorem Open.start?_of_declared {outer scope : Scope} {name : QName} {raw : List RawAttribute} {expanded : ExpandedName}
    (hname : name.qualifier ≠ "xmlns") (hraw : declared? raw = some scope)
    (hmeans : Scope.resolve? (scope ++ outer) name = some expanded) :
    start? outer name raw = some { tag := name, name := expanded, attributes := [], scope := scope ++ outer } := by
  obtain ⟨d, hd, rfl⟩ := Option.map_eq_some_iff.1 hraw
  obtain ⟨hfold, hplain⟩ := Option.filter_eq_some_iff.1 hd
  simp [start?, hname, hfold, List.isEmpty_iff.1 hplain, resolveAttributes?, hmeans]

def Scope.means (scope : Scope) (tag : String) (expanded : ExpandedName) : Bool :=
  match QName.read? tag.toList with
  | some (name, _) => name.isWritten tag.toList && name.qualifier != "xmlns" && scope.resolve? name == some expanded
  | none => false

theorem Scope.exists_of_means {scope : Scope} {tag : String} {expanded : ExpandedName}
    (h : scope.means tag expanded = true) :
    ∃ name : QName, name.isWritten tag.toList = true ∧ name.qualifier ≠ "xmlns" ∧
      scope.resolve? name = some expanded := by
  unfold means at h
  split at h
  · rename_i name _ _
    simp only [Bool.and_eq_true, bne_iff_ne, beq_iff_eq] at h
    exact ⟨name, h.1.1, h.1.2, h.2⟩
  · cases h

def Open.adding (o : Open) (nodes : List Node) : Open :=
  { o with children := nodes.reverse ++ o.children }

@[simp] theorem Open.scope_adding (o : Open) (nodes : List Node) : (o.adding nodes).scope = o.scope :=
  rfl

@[simp] theorem Open.adding_nil (o : Open) : o.adding [] = o :=
  rfl

@[simp] theorem Open.adding_adding (o : Open) (nodes more : List Node) :
    (o.adding nodes).adding more = o.adding (nodes ++ more) := by
  simp [adding]

/-- Markup that adds nodes to whatever element is open, whatever follows it. -/
def Adds (scope : Scope) (markup : String) (nodes : List Node) : Prop :=
  ∀ (o : Open) (outer : List Open) (root : Option Node) (rest : List Char), o.scope = scope →
    Building.read? ⟨o :: outer, root⟩ (markup.toList ++ rest) = Building.read? ⟨o.adding nodes :: outer, root⟩ rest

def Open.EndsInText (o : Open) : Prop :=
  ∃ s nodes, o.children = .text s :: nodes

/-- Markup that adds nodes to an element where no text ends, up to the end tag. -/
def Fills (scope : Scope) (markup : String) (nodes : List Node) : Prop :=
  ∀ (o : Open) (outer : List Open) (root : Option Node) (rest : List Char), o.scope = scope → ¬ o.EndsInText →
    Building.read? ⟨o :: outer, root⟩ (markup.toList ++ '<' :: '/' :: rest) =
      Building.read? ⟨o.adding nodes :: outer, root⟩ ('<' :: '/' :: rest)

section

variable {scope : Scope} {markup : String} {nodes : List Node}

theorem adds_empty : Adds scope "" [] :=
  fun _ _ _ _ _ => rfl

theorem Adds.append {other : String} {more : List Node} (h : Adds scope markup nodes) (h' : Adds scope other more) :
    Adds scope (markup ++ other) (nodes ++ more) := by
  intro o outer root rest hscope
  rw [String.toList_append, List.append_assoc, h o outer root _ hscope, h' (o.adding nodes) outer root rest hscope,
    Open.adding_adding]

theorem adds_join {α : Type} {write : α → String} {read : α → Node} {items : List α}
    (h : ∀ a ∈ items, Adds scope (write a) [read a]) :
    Adds scope (String.join (items.map write)) (items.map read) := by
  induction items with
  | nil => exact adds_empty
  | cons a items ih =>
    rw [List.map_cons, String.join_cons]
    exact (h a List.mem_cons_self).append (ih fun b hb => h b (List.mem_cons_of_mem a hb))

theorem Adds.fills (h : Adds scope markup nodes) : Fills scope markup nodes :=
  fun o outer root _ hscope _ => h o outer root _ hscope

theorem adds_wrap {tag : String} {expanded : ExpandedName} (htag : scope.means tag expanded = true)
    (h : Fills scope markup nodes) : Adds scope (wrap tag markup) [.element expanded [] nodes] := by
  intro o outer root rest hscope
  obtain ⟨name, hname, hplain, hmeans⟩ := Scope.exists_of_means htag
  have hstart : Open.start? scope name [] =
      some { tag := name, name := expanded, attributes := [], scope := [] ++ scope } :=
    Open.start?_of_declared hplain rfl hmeans
  have htext : (wrap tag markup).toList ++ rest =
      '<' :: (tag.toList ++ '>' :: (markup.toList ++ '<' :: '/' :: (tag.toList ++ '>' :: rest))) := by
    simp [wrap, String.toList_append]
  have hopen : Building.step? ⟨o :: outer, root⟩ (.opening name [] false) =
      some ⟨{ tag := name, name := expanded, attributes := [], scope } :: o :: outer, root⟩ := by
    simp [Building.step?, Building.scope, hscope, hstart]
  -- the new element holds nothing yet, so that no text ends in it
  rw [htext, Building.read?_token (by simp) (Token.next?_opening hname (by simp; decide) (attributes?_end _)),
    hopen, Option.bind_some, h _ _ _ _ rfl (by simp [Open.EndsInText]),
    Building.read?_token (by simp) (Token.next?_closing hname rest)]
  simp [Building.step?, Building.place?, Open.push, Open.node, Open.adding]

def Node.ofText (s : String) : List Node :=
  if s = "" then [] else [.text s]

def Node.leaf (name : ExpandedName) (s : String) : Node :=
  .element name [] (ofText s)

theorem read?_text {o : Open} {outer : List Open} {root : Option Node} {s : String} (hs : isLegal s = true)
    (hne : s ≠ "") (ho : ¬ o.EndsInText) (rest : List Char) :
    Building.read? ⟨o :: outer, root⟩ ((escape s).toList ++ '<' :: rest) =
      Building.read? ⟨o.adding [.text s] :: outer, root⟩ ('<' :: rest) := by
  have hcs : s.toList ≠ [] := by simpa using hne
  obtain ⟨hl, hg⟩ := not_mem_escaped s.toList
  have hpush : o.pushText s = o.adding [.text s] := by
    unfold Open.pushText
    split
    · rename_i t nodes hchildren
      exact absurd ⟨t, nodes, hchildren⟩ ho
    · rfl
  rw [toList_escape, Building.read?_token (by simp)
    (Token.next?_text (escaped_ne_nil hcs) hl hg (isChar_escaped (isChar_of_isLegal hs)) rest)]
  simp [Building.step?, textOf?_escaped (not_return_of_isLegal hs), hpush]

theorem fills_text {s : String} (hs : isLegal s = true) : Fills scope (escape s) (Node.ofText s) := by
  intro o outer root rest hscope ho
  by_cases hne : s = ""
  · subst hne
    rfl
  · rw [read?_text hs hne ho, Node.ofText, if_neg hne]

theorem adds_simpleElement {tag s : String} {expanded : ExpandedName} (htag : scope.means tag expanded = true)
    (hs : isLegal s = true) : Adds scope (simpleElement tag s) [.leaf expanded s] :=
  adds_wrap htag (fills_text hs)

theorem fills_newline : Fills scope "\n" [.text "\n"] :=
  fills_text (s := "\n") (by decide)

theorem Fills.line {tag more : String} {expanded : ExpandedName} {attributes : List Attribute} {children : List Node}
    (he : Adds scope (wrap tag markup) [.element expanded attributes children]) (h : Fills scope more nodes) :
    Fills scope ("\n" ++ wrap tag markup ++ more) (.text "\n" :: .element expanded attributes children :: nodes) := by
  intro o outer root rest hscope ho
  obtain ⟨tail, htail⟩ : ∃ tail, (wrap tag markup).toList = '<' :: tail :=
    ⟨_, by simp only [wrap, String.toList_append, List.append_assoc]; rfl⟩
  have hline : Building.read? ⟨o :: outer, root⟩ ("\n".toList ++ '<' :: (tail ++ (more.toList ++ '<' :: '/' :: rest))) =
      Building.read? ⟨o.adding [.text "\n"] :: outer, root⟩ ('<' :: (tail ++ (more.toList ++ '<' :: '/' :: rest))) :=
    read?_text (s := "\n") (by decide) (by decide) ho _
  rw [← List.cons_append, ← htail] at hline
  have hadd := he (o.adding [.text "\n"]) outer root (more.toList ++ '<' :: '/' :: rest) hscope
  have hmore := h ((o.adding [.text "\n"]).adding [.element expanded attributes children]) outer root rest hscope
    (by simp [Open.EndsInText, Open.adding])
  rw [Open.adding_adding, Open.adding_adding] at hmore
  rw [String.toList_append, String.toList_append, List.append_assoc, List.append_assoc]
  exact hline.trans (hadd.trans hmore)

end

theorem bodyOfDocument?_declared (rest : List Char) :
    bodyOfDocument? ("<?xml version=\"1.0\" encoding=\"utf-8\"?>\n".toList ++ rest) = some (['\n'] ++ rest) :=
  rfl

theorem Node.ofDocument?_of_read? {document : String} {body : List Char} {root : Node}
    (hbody : bodyOfDocument? document.toList = some body) (hread : Building.read? {} body = some ⟨[], some root⟩) :
    Node.ofDocument? document = some root := by
  have hfinish : (Token.scan? body).bind Node.ofTokens? = (Building.read? {} body).bind Building.finish? := by
    rw [Building.read?, Option.bind_assoc]
    rfl
  have hbuilt : Node.ofDocument? document = (Token.scan? body).bind Node.ofTokens? := by
    unfold Node.ofDocument?
    rw [hbody]
    rfl
  rw [hbuilt, hfinish, hread]
  rfl

theorem Node.ofDocument?_wrapped {tag declarations markup : String} {raw : List RawAttribute} {scope : Scope}
    {expanded : ExpandedName} {nodes : List Node} (hwritten : declarations.toList = raw.flatMap RawAttribute.text)
    (hnames : raw.all RawAttribute.isWritten = true) (hraw : declared? raw = some scope)
    (htag : scope.means tag expanded = true) (h : Fills scope markup nodes) :
    Node.ofDocument? ("<?xml version=\"1.0\" encoding=\"utf-8\"?>\n" ++
      ("<" ++ tag ++ declarations ++ ">" ++ markup ++ "</" ++ tag ++ ">")) = some (.element expanded [] nodes) := by
  obtain ⟨name, hname, hplain, hmeans⟩ := Scope.exists_of_means htag
  let start : Open := { tag := name, name := expanded, attributes := [], scope }
  have hstart : Open.start? [] name raw = some start := by
    have hnone : Scope.resolve? (scope ++ []) name = some expanded := by
      rwa [List.append_nil]
    have h := Open.start?_of_declared hplain hraw hnone
    rwa [List.append_nil] at h
  let inner : List Char := markup.toList ++ '<' :: '/' :: (tag.toList ++ ['>'])
  have hbody : bodyOfDocument? ("<?xml version=\"1.0\" encoding=\"utf-8\"?>\n" ++
      ("<" ++ tag ++ declarations ++ ">" ++ markup ++ "</" ++ tag ++ ">")).toList =
        some (['\n'] ++ '<' :: (tag.toList ++ (raw.flatMap RawAttribute.text ++ '>' :: inner))) := by
    simp only [String.toList_append, List.append_assoc, hwritten]
    exact bodyOfDocument?_declared _
  apply Node.ofDocument?_of_read? hbody
  have hattributes := attributes?_text hnames inner
  have hchars : ∀ c ∈ ['\n'], isChar c = true := List.all_eq_true.1 (by decide : ['\n'].all isChar = true)
  have hline : Building.step? {} (.text ['\n']) = some {} := rfl
  have hopen : Building.step? {} (.opening name raw false) = some ⟨[start], none⟩ := by
    simp [Building.step?, Building.scope, hstart]
  have hclose : Building.step? ⟨[start.adding nodes], none⟩ (.closing name) =
      some ⟨[], some (.element expanded [] nodes)⟩ := by
    simp [Building.step?, Building.place?, Open.node, Open.adding, start]
  rw [Building.read?_token (by simp) (Token.next?_text (by simp) (by decide) (by decide) hchars _), hline,
    Option.bind_some,
    Building.read?_token (by simp) (Token.next?_opening hname (head?_text raw inner) hattributes), hopen,
    Option.bind_some, h start [] none _ rfl (by simp [Open.EndsInText]),
    Building.read?_token (by simp) (Token.next?_closing hname []), hclose, Option.bind_some, Building.read?_nil]

end MailDiscovery.Xml
