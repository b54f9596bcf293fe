import MailDiscovery.Proofs.Markup.FirstMarkup
import MailDiscovery.Xml.CharacterData
import MailDiscovery.Xml.Token

namespace MailDiscovery.Xml

/-- Whether a text survives being written and read: all of it may stand in a document, and none of it ends a line in
the way that is read as a line feed. -/
def isLegal (s : String) : Bool :=
  s.toList.all fun c => isChar c && c != '\r'

theorem isChar_of_isLegal {s : String} (h : isLegal s = true) : ∀ c ∈ s.toList, isChar c = true := by
  intro c hc
  have hc := List.all_eq_true.1 h c hc
  rw [Bool.and_eq_true] at hc
  exact hc.1

theorem not_return_of_isLegal {s : String} (h : isLegal s = true) : '\r' ∉ s.toList := by
  intro hc
  have hc := List.all_eq_true.1 h _ hc
  simp at hc

theorem not_mem_escapeChar (c : Char) : '<' ∉ escapeChar c ∧ '>' ∉ escapeChar c ∧ escapeChar c ≠ [] := by
  unfold escapeChar
  split
  · decide
  split
  · decide
  split
  · decide
  · rename_i hl hg ha
    simp [Ne.symm hl, Ne.symm hg]

theorem not_mem_escaped (cs : List Char) : '<' ∉ escaped cs ∧ '>' ∉ escaped cs := by
  constructor
  · intro h
    obtain ⟨c, -, hc⟩ := List.mem_flatMap.1 h
    exact (not_mem_escapeChar c).1 hc
  · intro h
    obtain ⟨c, -, hc⟩ := List.mem_flatMap.1 h
    exact (not_mem_escapeChar c).2.1 hc

theorem escaped_ne_nil {cs : List Char} (h : cs ≠ []) : escaped cs ≠ [] := by
  obtain ⟨c, cs, rfl⟩ := List.exists_cons_of_ne_nil h
  rw [escaped_cons]
  exact List.append_ne_nil_of_left_ne_nil (not_mem_escapeChar c).2.2 _

theorem isChar_escaped {cs : List Char} (h : ∀ c ∈ cs, isChar c = true) : ∀ c ∈ escaped cs, isChar c = true := by
  intro d hd
  obtain ⟨c, hc, hd⟩ := List.mem_flatMap.1 hd
  unfold escapeChar at hd
  split at hd
  · exact List.all_eq_true.1 (by decide : ['&', 'l', 't', ';'].all isChar = true) d hd
  split at hd
  · exact List.all_eq_true.1 (by decide : ['&', 'g', 't', ';'].all isChar = true) d hd
  split at hd
  · exact List.all_eq_true.1 (by decide : ['&', 'a', 'm', 'p', ';'].all isChar = true) d hd
  · rw [List.mem_singleton.1 hd]
    exact h c hc

def pieceOf (c : Char) : Piece :=
  if c = '<' ∨ c = '>' ∨ c = '&' then .reference c else .plain c

theorem pieces?_reference {cs rest : List Char} {c : Char} (h : reference? cs = some (c, rest)) :
    pieces? ('&' :: cs) = (pieces? rest).map (.reference c :: ·) := by
  rw [pieces?]
  split
  · rename_i hnone
    rw [h] at hnone
    cases hnone
  · rename_i c' rest' hsome
    rw [h] at hsome
    cases hsome
    rfl

theorem pieces?_plain {c : Char} (hc : c ≠ '&') (cs : List Char) :
    pieces? (c :: cs) = (pieces? cs).map (.plain c :: ·) := by
  rw [pieces?]
  exact hc

theorem pieces?_escaped (cs : List Char) : pieces? (escaped cs) = some (cs.map pieceOf) := by
  induction cs with
  | nil => simp [escaped, pieces?]
  | cons c cs ih =>
    rw [escaped_cons, List.map_cons]
    have named {name : List Char} {c : Char} (h : reference? (name ++ ';' :: escaped cs) = some (c, escaped cs))
        (hc : pieceOf c = .reference c) :
        pieces? ('&' :: (name ++ ';' :: escaped cs)) = some (pieceOf c :: cs.map pieceOf) := by
      rw [pieces?_reference h, ih, hc]
      rfl
    by_cases hl : c = '<'
    · subst hl
      exact named (by rfl : reference? (['l', 't'] ++ ';' :: escaped cs) = _) (by decide)
    by_cases hg : c = '>'
    · subst hg
      exact named (by rfl : reference? (['g', 't'] ++ ';' :: escaped cs) = _) (by decide)
    by_cases ha : c = '&'
    · subst ha
      exact named (by rfl : reference? (['a', 'm', 'p'] ++ ';' :: escaped cs) = _) (by decide)
    · have hc : c ∉ markup := by simp [mem_markup, hl, hg, ha]
      rw [escapeChar_eq_self hc, List.singleton_append, pieces?_plain ha, ih]
      simp [pieceOf, hl, hg, ha]

theorem pieceOf_injective {c d : Char} (h : pieceOf c = pieceOf d) : c = d := by
  unfold pieceOf at h
  split at h <;> split at h <;> simp_all

theorem escape_injective {s t : String} (h : escape s = escape t) : s = t := by
  have hescaped : escaped s.toList = escaped t.toList := by rw [← toList_escape, ← toList_escape, h]
  have hpieces := congrArg pieces? hescaped
  rw [pieces?_escaped, pieces?_escaped, Option.some.injEq] at hpieces
  exact String.toList_injective ((List.map_inj_right fun _ _ => pieceOf_injective).1 hpieces)

theorem wrap_injective {name s t : String} (h : wrap name s = wrap name t) : s = t := by
  unfold wrap at h
  rw [String.append_left_inj, String.append_left_inj, String.append_left_inj, String.append_right_inj] at h
  exact h

theorem simpleElement_injective {name s t : String} (h : simpleElement name s = simpleElement name t) : s = t :=
  escape_injective (wrap_injective h)

theorem joinLines_pieceOf {cs : List Char} (h : '\r' ∉ cs) (afterReference : Bool) :
    joinLines afterReference (cs.map pieceOf) = cs := by
  induction cs generalizing afterReference with
  | nil => rfl
  | cons c cs ih =>
    rw [List.mem_cons, not_or] at h
    have hc : c ≠ '\r' := Ne.symm h.1
    rw [List.map_cons, pieceOf]
    split
    · rw [joinLines, ih h.2]
    · rw [joinLines, ih h.2]
      all_goals simp_all

theorem textOf?_escaped {cs : List Char} (h : '\r' ∉ cs) : textOf? (escaped cs) = some cs := by
  unfold textOf?
  rw [pieces?_escaped, Option.map_some, joinLines_pieceOf h]

theorem holds_eq_false {marker cs : List Char} {c : Char} (hm : c ∈ marker) (hc : c ∉ cs) : holds marker cs = false := by
  have hnone : upTo? marker cs = none := by
    induction cs with
    | nil => rfl
    | cons d cs ih =>
      rw [List.mem_cons, not_or] at hc
      rw [upTo?, if_neg, ih hc.2]
      · rfl
      · intro hprefix
        have hmem := (List.isPrefixOf_iff_prefix.1 hprefix).subset hm
        rw [List.mem_cons] at hmem
        exact hmem.elim hc.1 hc.2
  rw [holds, hnone]
  rfl

end MailDiscovery.Xml
