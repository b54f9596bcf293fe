import MailDiscovery.Proofs.Markup.CharacterData

namespace MailDiscovery.Xml

def references : List String :=
  ["&lt;", "&gt;", "&amp;"]

def unescaped : List Char → List Char
  | [] => []
  | '&' :: 'l' :: 't' :: ';' :: cs => '<' :: unescaped cs
  | '&' :: 'g' :: 't' :: ';' :: cs => '>' :: unescaped cs
  | '&' :: 'a' :: 'm' :: 'p' :: ';' :: cs => '&' :: unescaped cs
  | c :: cs => c :: unescaped cs

def unescape (t : String) : String :=
  String.ofList (unescaped t.toList)

structure IsEscaped (t : String) : Prop where
  less : '<' ∉ t.toList
  greater : '>' ∉ t.toList
  ampersand : ∀ rest, '&' :: rest <:+ t.toList → ∃ r ∈ references, r.toList <+: '&' :: rest

theorem ne_ampersand {c : Char} (h : c ∉ markup) : c ≠ '&' := by
  rintro rfl
  exact h (by decide)

theorem unescaped_escapeChar (c : Char) (cs : List Char) : unescaped (escapeChar c ++ cs) = c :: unescaped cs := by
  by_cases hc : c ∈ markup
  · rcases mem_markup.1 hc with rfl | rfl | rfl
    · rfl
    · rfl
    · rfl
  · rw [escapeChar_eq_self hc, List.singleton_append, unescaped]
    all_goals
      intro _ h
      exact absurd h (ne_ampersand hc)

theorem unescaped_escaped (cs : List Char) : unescaped (escaped cs) = cs := by
  induction cs with
  | nil => rfl
  | cons c cs ih => rw [escaped_cons, unescaped_escapeChar, ih]

theorem escapeChar_of_markup {c : Char} (h : c ∈ markup) :
    ∃ r ∈ references, ∃ name, r.toList = '&' :: name ∧ escapeChar c = '&' :: name ∧ '&' ∉ name := by
  rcases mem_markup.1 h with rfl | rfl | rfl
  · exact ⟨"&lt;", by decide, ['l', 't', ';'], rfl, rfl, by decide⟩
  · exact ⟨"&gt;", by decide, ['g', 't', ';'], rfl, rfl, by decide⟩
  · exact ⟨"&amp;", by decide, ['a', 'm', 'p', ';'], rfl, rfl, by decide⟩

theorem suffix_of_append {name cs rest : List Char} (hname : '&' ∉ name) (h : '&' :: rest <:+ name ++ cs) :
    '&' :: rest <:+ cs := by
  induction name with
  | nil => exact h
  | cons c name ih =>
    rw [List.mem_cons, not_or] at hname
    rw [List.cons_append, List.suffix_cons_iff] at h
    rcases h with h | h
    · exact absurd (List.cons.inj h).1 hname.1
    · exact ih hname.2 h

theorem reference_of_suffix {cs rest : List Char} (h : '&' :: rest <:+ escaped cs) :
    ∃ r ∈ references, r.toList <+: '&' :: rest := by
  induction cs with
  | nil => cases List.suffix_nil.1 h
  | cons c cs ih =>
    rw [escaped_cons] at h
    by_cases hc : c ∈ markup
    · obtain ⟨r, hr, name, hreference, hescape, hname⟩ := escapeChar_of_markup hc
      rw [hescape, List.cons_append, List.suffix_cons_iff] at h
      rcases h with h | h
      · exact ⟨r, hr, escaped cs, by rw [hreference, h, List.cons_append]⟩
      · exact ih (suffix_of_append hname h)
    · have hplain : '&' ∉ [c] := by
        rw [List.mem_singleton]
        exact (ne_ampersand hc).symm
      rw [escapeChar_eq_self hc] at h
      exact ih (suffix_of_append hplain h)

theorem isEscaped_escape (s : String) : IsEscaped (escape s) where
  less := by
    rw [toList_escape]
    exact (not_mem_escaped s.toList).1
  greater := by
    rw [toList_escape]
    exact (not_mem_escaped s.toList).2
  ampersand rest h := by
    rw [toList_escape] at h
    exact reference_of_suffix h

theorem unescape_escape (s : String) : unescape (escape s) = s := by
  rw [unescape, toList_escape, unescaped_escaped, String.ofList_toList]

theorem escape_eq (s : String) : escape s = String.ofList (escaped s.toList) := by
  rw [← toList_escape, String.ofList_toList]

theorem escape_append (s t : String) : escape (s ++ t) = escape s ++ escape t := by
  rw [escape_eq, escape_eq, escape_eq, String.toList_append, escaped_append, String.ofList_append]

/-- Escaping loses nothing, and leaves no markup but references, whatever is written before or after. Where the search
among the bytes stops, a character begins, so that copying what stands before it is as good as escaping every
character. -/
theorem escaped_text_reads_back (s : String) :
    unescape (escape s) = s ∧ IsEscaped (escape s) ∧ (∀ t, escape (s ++ t) = escape s ++ escape t) ∧
      escape s = String.ofList (escaped s.toList) ∧
      (firstMarkup? s).map (·.offset.byteIdx) = s.toUTF8.data.toList.findIdx? isMarkupByte ∧
      (IsPlain s.toList → firstMarkup? s = none ∧ escape s = s) ∧
      ∀ left right c after, s = left ++ right → IsPlain left.toList → c ∈ markup → right.toList = c :: after →
        ∃ p, firstMarkup? s = some p ∧ p.Splits left right ∧
          escape s = left ++ String.ofList (escaped right.toList) := by
  refine ⟨unescape_escape s, isEscaped_escape s, escape_append s, escape_eq s, offset_firstMarkup? s,
    fun h => ⟨firstMarkup?_of_plain h, escape_of_plain h⟩, fun left right c after hs hleft hc hright => ?_⟩
  obtain ⟨p, hfirst, hp⟩ := firstMarkup?_append hs hleft hc hright
  exact ⟨p, hfirst, hp, escape_of_splits hfirst hp⟩

theorem escaped_text_reads_back_wide :
    IsPlain "你吃过了吗？".toList ∧ '<' ∈ markup ∧ escape "你吃过了吗？" = "你吃过了吗？" ∧
      ∃ p, firstMarkup? "你吃过了吗？<&lt;" = some p ∧ p.offset.byteIdx = 18 ∧
        escape "你吃过了吗？<&lt;" = "你吃过了吗？&lt;&amp;lt;" := by
  have hplain : IsPlain "你吃过了吗？".toList := by decide
  obtain ⟨-, -, -, -, -, hsame, -⟩ := escaped_text_reads_back "你吃过了吗？"
  obtain ⟨-, -, -, -, -, -, hcopied⟩ := escaped_text_reads_back "你吃过了吗？<&lt;"
  obtain ⟨p, hfirst, hp, hescape⟩ := hcopied "你吃过了吗？" "<&lt;" '<' "&lt;".toList (by decide) hplain (by decide) rfl
  refine ⟨hplain, by decide, (hsame hplain).2, p, hfirst, ?_, hescape.trans (by decide)⟩
  rw [hp.offset_eq_rawEndPos]
  decide

end MailDiscovery.Xml
