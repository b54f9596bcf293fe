import MailDiscovery.Legacy.Reading
import Mathlib.Data.List.Forall2

/-!
Legacy answers in other spellings. An element is found by the letters of its name, in any case and any namespace, but for
two names that have to be spelled out; where they are not, the element is taken for a comment.
-/

namespace MailDiscovery.Legacy

open Xml (ExpandedName Node)

def exactNames : List String := ["Protocol", "OWAUrl"]

/-- Names of the same letters. Those in the list are spelled out in both trees or in none. -/
def sameName (exact : List String) (own own' : ExpandedName) : Bool :=
  Text.sameLetters own.base own'.base && exact.all fun base => (own.base == base) == (own'.base == base)

mutual

/-- The same tree but for the namespaces of elements and the case of the letters of ASCII in their names. -/
def respelled (exact : List String) : Node → Node → Bool
  | .element own attributes children, .element own' attributes' children' =>
    sameName exact own own' && attributes == attributes' && respelledAll exact children children'
  | .text content, .text content' => content == content'
  | .comment content, .comment content' => content == content'
  | .instruction target content, .instruction target' content' => target == target' && content == content'
  | _, _ => false

def respelledAll (exact : List String) : List Node → List Node → Bool
  | [], [] => true
  | n :: rest, n' :: rest' => respelled exact n n' && respelledAll exact rest rest'
  | _, _ => false

end

def misspelled (base : String) : Bool :=
  exactNames.any fun exact => Text.sameLetters base exact && base != exact

mutual

def mute : Node → Node
  | .element own attributes children =>
    if misspelled own.base then .comment "" else .element own attributes (muteAll children)
  | n => n

def muteAll : List Node → List Node
  | [] => []
  | n :: rest => mute n :: muteAll rest

end

def isUnheard : Node → Bool
  | .element own _ _ => misspelled own.base
  | .text _ => false
  | .comment _ => true
  | .instruction _ _ => true

inductive HeardAlike (exact : List String) : Node → Node → Prop
  | element {own own' : ExpandedName} {attributes : List Xml.Attribute} {children children' : List Node}
      (hname : sameName exact own own' = true) (hchildren : List.Forall₂ (HeardAlike exact) children children') :
      HeardAlike exact (.element own attributes children) (.element own' attributes children')
  | text (content : String) : HeardAlike exact (.text content) (.text content)
  | unheard {n n' : Node} (hn : isUnheard n = true) (hn' : isUnheard n' = true) : HeardAlike exact n n'

variable {exact : List String}

mutual

theorem heardAlike_of_respelled : ∀ n n' : Node, respelled exact n n' = true → HeardAlike exact n n'
  | .element own attributes children, .element own' attributes' children', h => by
    simp only [respelled, Bool.and_eq_true, beq_iff_eq] at h
    obtain ⟨⟨hname, rfl⟩, hchildren⟩ := h
    exact .element hname (heardAlike_of_respelledAll children children' hchildren)
  | .text content, .text content', h => by
    simp only [respelled, beq_iff_eq] at h
    subst h
    exact .text content
  | .comment _, .comment _, _ => .unheard rfl rfl
  | .instruction _ _, .instruction _ _, _ => .unheard rfl rfl

theorem heardAlike_of_respelledAll : ∀ ns ns' : List Node, respelledAll exact ns ns' = true →
    List.Forall₂ (HeardAlike exact) ns ns'
  | [], [], _ => .nil
  | n :: rest, n' :: rest', h => by
    simp only [respelledAll, Bool.and_eq_true] at h
    exact .cons (heardAlike_of_respelled n n' h.1) (heardAlike_of_respelledAll rest rest' h.2)

end

theorem sameName_self (exact : List String) (own : ExpandedName) : sameName exact own own = true := by
  simp [sameName, Text.sameLetters]

mutual

theorem heardAlike_mute : ∀ n : Node, HeardAlike exact n (mute n)
  | .element own attributes children => by
    rw [mute]
    split
    · exact .unheard ‹_› rfl
    · exact .element (sameName_self exact own) (heardAlike_muteAll children)
  | .text content => .text content
  | .comment _ => .unheard rfl rfl
  | .instruction _ _ => .unheard rfl rfl

theorem heardAlike_muteAll : ∀ ns : List Node, List.Forall₂ (HeardAlike exact) ns (muteAll ns)
  | [] => .nil
  | n :: rest => .cons (heardAlike_mute n) (heardAlike_muteAll rest)

end

structure Alike (exact : List String) (n n' : Node) : Prop where
  attributes : n.attributes = n'.attributes
  children : List.Forall₂ (HeardAlike exact) n.children n'.children

structure Hears (exact : List String) (p : Node → Bool) : Prop where
  respelled {own own' : ExpandedName} {attributes : List Xml.Attribute} {children children' : List Node}
    (h : sameName exact own own' = true) :
    p (.element own attributes children) = p (.element own' attributes children')
  heard {n : Node} (h : p n = true) : isUnheard n = false

def isLoose (base : String) : Bool :=
  exactNames.all fun exact => !Text.sameLetters exact base

variable {n n' : Node} {ns ns' : List Node} {base : String} {p : Node → Bool}

theorem Hears.congr (hp : Hears exact p) (h : HeardAlike exact n n') : p n = p n' := by
  cases h with
  | element hname => exact hp.respelled hname
  | text => rfl
  | unheard hn hn' =>
    have unheard {n : Node} (hn : isUnheard n = true) : p n = false :=
      Bool.eq_false_iff.2 fun h => Bool.eq_false_iff.1 (hp.heard h) hn
    rw [unheard hn, unheard hn']

theorem hears_resembles (exact : List String) (hb : isLoose base = true) : Hears exact (Node.resembles base) where
  respelled h := by
    obtain ⟨hletters, -⟩ := Bool.and_eq_true_iff.1 h
    rw [Text.sameLetters, beq_iff_eq] at hletters
    simp only [Node.resembles, Node.name?, Option.any_some, Text.sameLetters, hletters]
  heard {n} h := by
    cases n with
    | text | comment | instruction => cases h
    | element own attributes children =>
      -- Otherwise the name has the letters of one that is spelled out, and those are none of a loose name.
      rw [← Bool.not_eq_true]
      intro hunheard
      obtain ⟨exact, hexact, hsame⟩ := List.any_eq_true.1 hunheard
      have hloose := List.all_eq_true.1 hb exact hexact
      rw [Node.resembles, Node.name?, Option.any_some, Text.sameLetters, beq_iff_eq] at h
      rw [Bool.and_eq_true, Text.sameLetters, beq_iff_eq, h] at hsame
      simp [Text.sameLetters, hsame.1] at hloose

theorem not_misspelled : ∀ base ∈ exactNames, misspelled base = false := by
  decide

theorem hears_hasBase (hb : base ∈ exactNames) (he : base ∈ exact) : Hears exact (Node.hasBase base) where
  respelled h := beq_iff_eq.1 (List.all_eq_true.1 (Bool.and_eq_true_iff.1 h).2 base he)
  heard {n} h := by
    cases n with
    | text | comment | instruction => cases h
    | element own attributes children =>
      rw [Node.hasBase, Node.name?, Option.any_some, beq_iff_eq] at h
      rw [isUnheard, h, not_misspelled base hb]

theorem HeardAlike.alike (h : HeardAlike exact n n') (hn : isUnheard n = false) : Alike exact n n' := by
  cases h with
  | element _ hchildren => exact ⟨rfl, hchildren⟩
  | text => exact ⟨rfl, .nil⟩
  | unheard hunheard =>
    rw [hn] at hunheard
    cases hunheard

theorem Hears.find? (hp : Hears exact p) (h : List.Forall₂ (HeardAlike exact) ns ns') :
    Option.Rel (Alike exact) (ns.find? p) (ns'.find? p) := by
  induction h with
  | nil => exact .none
  | @cons n n' ns ns' hn _ ih =>
    rw [List.find?_cons, List.find?_cons, ← hp.congr hn]
    cases hfound : p n with
    | true => exact .some (hn.alike (hp.heard hfound))
    | false => exact ih

theorem Hears.filter (hp : Hears exact p) (h : List.Forall₂ (HeardAlike exact) ns ns') :
    List.Forall₂ (Alike exact) (ns.filter p) (ns'.filter p) := by
  induction h with
  | nil => exact .nil
  | @cons n n' ns ns' hn _ ih =>
    rw [List.filter_cons, List.filter_cons, ← hp.congr hn]
    split
    · exact .cons (hn.alike (hp.heard ‹_›)) ih
    · exact ih

namespace Alike

theorem childLike? (h : Alike exact n n') (hb : isLoose base = true) :
    Option.Rel (Alike exact) (n.childLike? base) (n'.childLike? base) :=
  (hears_resembles exact hb).find? h.children

theorem attribute? (h : Alike exact n n') (own : ExpandedName) : n.attribute? own = n'.attribute? own := by
  rw [Node.attribute?, Node.attribute?, h.attributes]

theorem firstText? (h : Alike exact n n') : n.firstText? = n'.firstText? := by
  have hchildren := h.children
  unfold Node.firstText?
  generalize n.children = ns at hchildren
  generalize n'.children = ns' at hchildren
  cases hchildren with
  | nil => rfl
  | @cons first first' _ _ hfirst =>
    cases hfirst with
    | element | text => rfl
    | unheard hn hn' =>
      cases first with
      | text => cases hn
      | element | comment | instruction =>
        cases first' with
        | text => cases hn'
        | element | comment | instruction => rfl

theorem content? (h : Alike exact n n') : n.content? = n'.content? := by
  rw [Node.content?, Node.content?, Node.isNil, Node.isNil, h.attribute?, h.firstText?]

theorem contentLike? (h : Alike exact n n') (hb : isLoose base = true) : n.contentLike? base = n'.contentLike? base := by
  have hchild := h.childLike? hb
  unfold Node.contentLike?
  generalize n.childLike? base = child at hchild
  generalize n'.childLike? base = child' at hchild
  cases hchild with
  | none => rfl
  | some hsame => exact hsame.content?

end Alike

end MailDiscovery.Legacy
