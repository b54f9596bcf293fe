import Mathlib
import MailDiscovery.Proofs.UriCharacters

/-!
Which texts are read as an identifier with a host, and as which one. A text is taken apart into its pieces in one way
only, because each piece ends at a character that it may not hold.
-/

namespace MailDiscovery

theorem append_inj_of_stop {p : Char → Bool} {front front' rest rest' : List Char} (hf : ∀ c ∈ front, p c = true)
    (hr : ∀ c ∈ rest.head?, p c = false) (hf' : ∀ c ∈ front', p c = true) (hr' : ∀ c ∈ rest'.head?, p c = false)
    (h : front ++ rest = front' ++ rest') : front = front' ∧ rest = rest' := by
  have hfront := (span_of_stop hf hr).1
  rw [h, (span_of_stop hf' hr').1] at hfront
  subst hfront
  exact ⟨rfl, List.append_cancel_left h⟩

namespace Target

/-- How a target is written: a path, a query if there is one, and a fragment, which nobody reads. -/
structure Spelling where
  path : List Char
  query : Option (List Char)
  fragment : List Char
  isPath : ∀ c ∈ path, Uri.isPathChar c = true
  isQuery : ∀ q ∈ query, ∀ c ∈ q, Uri.isQueryChar c = true
  isFragment : ∀ c ∈ fragment.head?, c = '#'

namespace Spelling

variable (s : Spelling)

def chars : List Char :=
  s.path ++ (s.query.elim [] ('?' :: ·) ++ s.fragment)

def target : Target :=
  .withPath (String.ofList s.path) (s.query.map String.ofList)

theorem ofChars?_chars : ofChars? s.chars = some s.target := by
  obtain ⟨path, query, fragment, hpath, hquery, hfragment⟩ := s
  have hstop : ∀ c ∈ (query.elim [] ('?' :: ·) ++ fragment).head?, Uri.isPathChar c = false := by
    intro c hc
    cases query with
    | none =>
      rw [hfragment c hc]
      decide
    | some q =>
      cases hc
      decide
  obtain ⟨htake, hdrop⟩ := span_of_stop hpath hstop
  unfold ofChars? chars target
  simp only [htake, hdrop]
  cases query with
  | none =>
    cases fragment with
    | nil => rfl
    | cons c fragment =>
      obtain rfl : c = '#' := hfragment c rfl
      rfl
  | some q =>
    have hq : ∀ c ∈ q, Uri.isQueryChar c = true := hquery q rfl
    have hend : ∀ c ∈ fragment.head?, Uri.isQueryChar c = false := by
      intro c hc
      rw [hfragment c hc]
      decide
    obtain ⟨htake, hdrop⟩ := span_of_stop hq hend
    simp only [Option.elim_some, List.cons_append, htake, hdrop]
    cases fragment with
    | nil => simp
    | cons c fragment =>
      obtain rfl : c = '#' := hfragment c rfl
      rfl

end Spelling

theorem exists_spelling {cs : List Char} {t : Target} (h : ofChars? cs = some t) :
    ∃ s : Spelling, s.chars = cs ∧ s.target = t := by
  have hpath : ∀ c ∈ cs.takeWhile Uri.isPathChar, Uri.isPathChar c = true := List.all_eq_true.1 List.all_takeWhile
  have hwhole := @List.takeWhile_append_dropWhile _ Uri.isPathChar cs
  unfold ofChars? at h
  dsimp only at h
  split at h
  · rename_i hrest
    cases h
    exact ⟨⟨_, none, [], hpath, by simp, by simp⟩, by simpa [Spelling.chars, hrest] using hwhole, rfl⟩
  · rename_i rest hrest
    cases h
    exact ⟨⟨_, none, '#' :: rest, hpath, by simp, by simp⟩, by simpa [Spelling.chars, hrest] using hwhole, rfl⟩
  · rename_i rest hrest
    have hquery : ∀ c ∈ rest.takeWhile Uri.isQueryChar, Uri.isQueryChar c = true :=
      List.all_eq_true.1 List.all_takeWhile
    have hsplit := @List.takeWhile_append_dropWhile _ Uri.isQueryChar rest
    split at h
    · rename_i hend
      cases h
      rw [hend, List.append_nil] at hsplit
      rw [hsplit] at hquery
      exact ⟨⟨_, some rest, [], hpath, by simpa using hquery, by simp⟩, by simpa [Spelling.chars, hrest] using hwhole, rfl⟩
    · rename_i fragment hend
      cases h
      refine ⟨⟨_, some (rest.takeWhile Uri.isQueryChar), '#' :: fragment, hpath, by simpa using hquery, by simp⟩, ?_, rfl⟩
      rw [hend] at hsplit
      simpa [Spelling.chars, hsplit, hrest] using hwhole
    · cases h
  · cases h

end Target

namespace Text

theorem eq_of_toLower {c d : Char} (hd : d.isLower = false) (h : c.toLower = d) : c = d := by
  have hc : ¬c.isUpper := by
    intro hc
    rw [← h, Char.isLower_toLower_eq_isAlpha, Char.isAlpha, hc] at hd
    cases hd
  exact (Char.toLower_eq_of_not_isUpper hc).symm.trans h

theorem eq_of_map_toLower {cs ds : List Char} (hd : ∀ d ∈ ds, d.isLower = false) (h : cs.map Char.toLower = ds) :
    cs = ds := by
  subst h
  rw [List.forall_mem_map] at hd
  have hmap : cs.map id = cs.map Char.toLower := by
    apply List.map_congr_left
    intro c hc
    exact eq_of_toLower (hd c hc) rfl
  rwa [List.map_id] at hmap

theorem hasPrefixIgnoringCase_iff {start cs : List Char} :
    hasPrefixIgnoringCase start cs = true ↔ start <+: cs.map Char.toLower := by
  rw [hasPrefixIgnoringCase, beq_iff_eq, List.map_take, List.prefix_iff_eq_take, eq_comm]

end Text

def Scheme.ofChars (cs : List Char) : Scheme :=
  if cs.map Char.toLower = "http".toList then .http
  else if cs.map Char.toLower = "https".toList then .https
  else .other (String.ofList cs)

namespace Uri

theorem isSchemeChar_toLower (c : Char) : isSchemeChar c.toLower = isSchemeChar c := by
  by_cases hc : c.isUpper
  · have halpha : c.isAlpha = true := by
      rw [Char.isAlpha, hc]
      rfl
    simp [isSchemeChar, Char.isAlphanum, halpha]
  · rw [Char.toLower_eq_of_not_isUpper hc]

theorem isSchemeChar_of_map_toLower {cs : List Char} (h : ∀ c ∈ cs.map Char.toLower, isSchemeChar c = true) :
    ∀ c ∈ cs, isSchemeChar c = true := by
  rw [List.forall_mem_map] at h
  intro c hc
  rw [← isSchemeChar_toLower]
  exact h c hc

section

variable {scheme word rest cs : List Char}

theorem hasPrefixIgnoringCase_scheme (hw : ∀ c ∈ word, isSchemeChar c = true)
    (hs : ∀ c ∈ scheme, isSchemeChar c = true) :
    Text.hasPrefixIgnoringCase (word ++ "://".toList) (scheme ++ ("://".toList ++ rest)) = true ↔
      scheme.map Char.toLower = word := by
  have hstop (rest : List Char) : ∀ c ∈ (':' :: rest).head?, isSchemeChar c = false := by
    intro c hc
    cases hc
    decide
  have hlower : ∀ c ∈ scheme.map Char.toLower, isSchemeChar c = true := by
    rw [List.forall_mem_map]
    intro c hc
    rw [isSchemeChar_toLower]
    exact hs c hc
  rw [Text.hasPrefixIgnoringCase_iff, List.map_append]
  constructor
  · rintro ⟨more, h⟩
    rw [List.append_assoc] at h
    exact (append_inj_of_stop hw (hstop _) hlower (hstop _) h).1.symm
  · rintro rfl
    exact ⟨rest.map Char.toLower, by simp⟩

theorem splitScheme?_scheme (hs : ∀ c ∈ scheme, isSchemeChar c = true) (hl : scheme.length ≤ longestScheme) :
    splitScheme? (scheme ++ ("://".toList ++ rest)) = some (some (.ofChars scheme), rest) := by
  have hhttp := @hasPrefixIgnoringCase_scheme scheme "http".toList rest (List.all_eq_true.1 (by decide)) hs
  have hhttps := @hasPrefixIgnoringCase_scheme scheme "https".toList rest (List.all_eq_true.1 (by decide)) hs
  have hdrop {word : List Char} (h : scheme.map Char.toLower = word) :
      (scheme ++ ("://".toList ++ rest)).drop (word.length + 3) = rest := by
    rw [← List.append_assoc]
    apply List.drop_left'
    rw [← h]
    simp
  unfold splitScheme? Scheme.ofChars
  split
  · rename_i h
    have hscheme := hhttp.1 h
    rw [if_pos hscheme]
    exact congrArg (fun rest => some (some Scheme.http, rest)) (hdrop hscheme)
  rename_i hnot
  rw [if_neg (mt hhttp.2 hnot)]
  split
  · rename_i h
    have hscheme := hhttps.1 h
    rw [if_pos hscheme]
    exact congrArg (fun rest => some (some Scheme.https, rest)) (hdrop hscheme)
  rename_i hnots
  rw [if_neg (mt hhttps.2 hnots)]
  have hstop : ∀ c ∈ ("://".toList ++ rest).head?, isSchemeChar c = false := by
    intro c hc
    cases hc
    decide
  obtain ⟨htake, hdrop⟩ := span_of_stop hs hstop
  simp only [htake, hdrop]
  exact if_neg (by omega)

theorem exists_of_hasPrefix (h : Text.hasPrefixIgnoringCase (word ++ "://".toList) cs = true) :
    ∃ scheme, scheme.map Char.toLower = word ∧ cs = scheme ++ ("://".toList ++ cs.drop (word.length + 3)) := by
  obtain ⟨more, h⟩ := Text.hasPrefixIgnoringCase_iff.1 h
  rw [List.append_assoc] at h
  obtain ⟨scheme, others, rfl, hscheme, hothers⟩ := List.map_eq_append_iff.1 h.symm
  obtain ⟨mark, rest, rfl, hmark, -⟩ := List.map_eq_append_iff.1 hothers
  obtain rfl := Text.eq_of_map_toLower (by simp) hmark
  refine ⟨scheme, hscheme, ?_⟩
  congr 2
  rw [← List.append_assoc, ← hscheme]
  exact (List.drop_left' (by simp)).symm

theorem exists_of_splitScheme? {found : Scheme} (h : splitScheme? cs = some (some found, rest)) :
    ∃ scheme, (∀ c ∈ scheme, isSchemeChar c = true) ∧ scheme.length ≤ longestScheme ∧
      cs = scheme ++ ("://".toList ++ rest) ∧ found = .ofChars scheme := by
  -- The schemes of the web are found by their texts, and so are spelled with characters of a scheme in either case.
  have web {word : List Char} (hw : ∀ c ∈ word, isSchemeChar c = true) (hl : word.length ≤ longestScheme)
      (hp : Text.hasPrefixIgnoringCase (word ++ "://".toList) cs = true) :
      ∃ scheme, scheme.map Char.toLower = word ∧ (∀ c ∈ scheme, isSchemeChar c = true) ∧
        scheme.length ≤ longestScheme ∧ cs = scheme ++ ("://".toList ++ cs.drop (word.length + 3)) := by
    obtain ⟨scheme, rfl, hcs⟩ := exists_of_hasPrefix hp
    exact ⟨scheme, rfl, isSchemeChar_of_map_toLower hw, by simpa using hl, hcs⟩
  unfold splitScheme? at h
  split at h
  · cases h
    obtain ⟨scheme, hword, hs, hl, hcs⟩ := @web "http".toList (List.all_eq_true.1 (by decide)) (by decide) ‹_›
    exact ⟨scheme, hs, hl, hcs, by rw [Scheme.ofChars, if_pos hword]⟩
  split at h
  · cases h
    obtain ⟨scheme, hword, hs, hl, hcs⟩ := @web "https".toList (List.all_eq_true.1 (by decide)) (by decide) ‹_›
    exact ⟨scheme, hs, hl, hcs, by rw [Scheme.ofChars, hword]; rfl⟩
  rename_i hhttp hhttps
  split at h
  · rename_i more hmore
    dsimp only at h
    split at h
    · cases h
    · cases h
      have hs : ∀ c ∈ cs.takeWhile isSchemeChar, isSchemeChar c = true := List.all_eq_true.1 List.all_takeWhile
      have hcs : cs = cs.takeWhile isSchemeChar ++ ("://".toList ++ rest) := by
        have hwhole := @List.takeWhile_append_dropWhile _ isSchemeChar cs
        rw [hmore] at hwhole
        exact hwhole.symm
      refine ⟨_, hs, by omega, hcs, ?_⟩
      have hnot {word : List Char} (hw : ∀ c ∈ word, isSchemeChar c = true)
          (hp : ¬Text.hasPrefixIgnoringCase (word ++ "://".toList) cs = true) :
          (cs.takeWhile isSchemeChar).map Char.toLower ≠ word := by
        rw [hcs, hasPrefixIgnoringCase_scheme hw hs] at hp
        exact hp
      rw [Scheme.ofChars, if_neg (hnot (List.all_eq_true.1 (by decide)) hhttp),
        if_neg (hnot (List.all_eq_true.1 (by decide)) hhttps)]
  · cases h

theorem eq_of_splitScheme? (h : splitScheme? cs = some (none, rest)) : rest = cs := by
  unfold splitScheme? at h
  split at h
  · cases h
  split at h
  · cases h
  split at h
  · dsimp only at h
    split at h
    · cases h
    · cases h
  · cases h
    rfl

theorem splitScheme?_of_not_mem (h : '/' ∉ cs) : splitScheme? cs = some (none, cs) := by
  cases hsplit : splitScheme? cs with
  | none =>
    unfold splitScheme? at hsplit
    split at hsplit
    · cases hsplit
    split at hsplit
    · cases hsplit
    split at hsplit
    · rename_i more hmore
      have hslash : '/' ∈ cs.dropWhile isSchemeChar := by simp [hmore]
      exact absurd ((List.dropWhile_sublist _).subset hslash) h
    · cases hsplit
  | some p =>
    obtain ⟨found, rest⟩ := p
    cases found with
    | none => rw [eq_of_splitScheme? hsplit]
    | some found =>
      obtain ⟨scheme, -, -, rfl, -⟩ := exists_of_splitScheme? hsplit
      simp at h

end

structure ValidAuthority (name : List Char) : Prop where
  ne : name ≠ []
  valid : isAuthority name = true

theorem ValidAuthority.endsAuthority_eq_false {name : List Char} (h : ValidAuthority name) :
    ∀ c ∈ name, endsAuthority c = false := by
  intro c hc
  have hchar := mem_of_isAuthority h.valid c hc
  cases hends : endsAuthority c with
  | false => rfl
  | true =>
    simp only [endsAuthority, Bool.or_eq_true, beq_iff_eq] at hends
    rcases hends with (rfl | rfl) | rfl
    · exact absurd hchar (by decide)
    · exact absurd hchar (by decide)
    · exact absurd hchar (by decide)

theorem ValidAuthority.not_mem {name : List Char} {c : Char} (h : ValidAuthority name) (hc : endsAuthority c = true) :
    c ∉ name := by
  intro hmem
  rw [h.endsAuthority_eq_false c hmem] at hc
  cases hc

structure Spelling where
  scheme : List Char
  name : List Char
  tail : Target.Spelling
  isScheme : ∀ c ∈ scheme, isSchemeChar c = true
  length_le : scheme.length ≤ longestScheme
  authority : ValidAuthority name
  ends : ∀ c ∈ tail.chars.head?, endsAuthority c = true

namespace Spelling

variable (s : Spelling)

def chars : List Char :=
  s.scheme ++ ("://".toList ++ (s.name ++ s.tail.chars))

def uri : Uri :=
  .absolute (.ofChars s.scheme) (String.ofList s.name) s.tail.target.rooted

end Spelling

/-- What a text with a host stands for: an identifier with a scheme, or a bare authority. -/
inductive Denotes : List Char → Uri → Prop
  | absolute (s : Spelling) : Denotes s.chars s.uri
  | bare {name : List Char} (h : ValidAuthority name) : Denotes name (.bare (String.ofList name))

theorem span_authority {name rest : List Char} (h : ValidAuthority name)
    (hr : ∀ c ∈ rest.head?, endsAuthority c = true) :
    (name ++ rest).takeWhile (!endsAuthority ·) = name ∧ (name ++ rest).dropWhile (!endsAuthority ·) = rest :=
  span_of_stop (by simpa using h.endsAuthority_eq_false) (by simpa using hr)

theorem ofChars?_of_denotes {cs : List Char} {u : Uri} (h : Denotes cs u) : ofChars? cs = some u := by
  cases h with
  | absolute s =>
    obtain ⟨htake, hdrop⟩ := span_authority s.authority s.ends
    have hempty : s.name.isEmpty = false := by simpa using s.authority.ne
    unfold ofChars? Spelling.chars Spelling.uri
    rw [splitScheme?_scheme s.isScheme s.length_le]
    simp only [Option.bind_eq_bind, Option.bind_some, htake, hdrop, hempty, s.authority.valid, Bool.not_true,
      Bool.or_self, Bool.false_eq_true, if_false, s.tail.ofChars?_chars]
  | @bare name h =>
    obtain ⟨htake, hdrop⟩ := @span_authority cs [] h (by simp)
    have hempty : cs.isEmpty = false := by simpa using h.ne
    rw [List.append_nil] at htake hdrop
    unfold ofChars?
    rw [splitScheme?_of_not_mem (h.not_mem (by decide))]
    simp only [Option.bind_eq_bind, Option.bind_some, htake, hdrop, hempty, h.valid, Bool.not_true, Bool.or_self,
      Bool.false_eq_true, if_false, List.isEmpty_nil, if_true]

theorem denotes_of_ofChars? {cs : List Char} {u : Uri} (h : ofChars? cs = some u) : Denotes cs u := by
  unfold ofChars? at h
  obtain ⟨⟨scheme, rest⟩, hsplit, h⟩ := Option.bind_eq_some_iff.1 h
  dsimp only at h
  split at h
  · cases h
  rename_i hname
  simp only [Bool.not_eq_true, Bool.or_eq_false_iff, Bool.not_eq_eq_eq_not, Bool.not_false] at hname
  have hwhole := @List.takeWhile_append_dropWhile _ (!endsAuthority ·) rest
  have hvalid : ValidAuthority (rest.takeWhile (!endsAuthority ·)) := ⟨by simpa using hname.1, by simpa using hname.2⟩
  have hends : ∀ c ∈ (rest.dropWhile (!endsAuthority ·)).head?, endsAuthority c = true := by
    simpa using stop_of_dropWhile (!endsAuthority ·) rest
  cases scheme with
  | none =>
    dsimp only at h
    split at h
    · rename_i htail
      cases h
      rw [List.isEmpty_iff] at htail
      rw [htail, List.append_nil] at hwhole
      rw [hwhole] at hvalid ⊢
      rw [← eq_of_splitScheme? hsplit]
      exact .bare hvalid
    · cases h
  | some found =>
    obtain ⟨target, htarget, h⟩ := Option.bind_eq_some_iff.1 h
    cases h
    obtain ⟨scheme, hs, hl, rfl, rfl⟩ := exists_of_splitScheme? hsplit
    obtain ⟨tail, htail, rfl⟩ := Target.exists_spelling htarget
    rw [← htail] at hwhole hends
    generalize rest.takeWhile (!endsAuthority ·) = name at hwhole hvalid ⊢
    rw [← hwhole]
    exact .absolute ⟨scheme, name, tail, hs, hl, hvalid, hends⟩

theorem Denotes.head?_ne {cs : List Char} {u : Uri} (h : Denotes cs u) : cs.head? ≠ some '/' := by
  intro hslash
  cases h with
  | absolute s =>
    have hs := s.isScheme
    unfold Spelling.chars at hslash
    generalize s.scheme = scheme at hs hslash
    cases scheme with
    | nil => cases hslash
    | cons c scheme =>
      obtain rfl : c = '/' := Option.some.inj hslash
      exact absurd (hs '/' List.mem_cons_self) (by decide)
  | bare h => exact h.not_mem (by decide) (List.mem_of_mem_head? hslash)

theorem isSome_host?_of_denotes {cs : List Char} {u : Uri} (h : Denotes cs u) : u.host?.isSome = true := by
  cases h with
  | absolute s => rfl
  | bare h => rfl

theorem ofText?_eq_some_iff {s : String} {u : Uri} :
    ofText? s = some u ∧ u.host?.isSome ↔ s.utf8ByteSize ≤ longestText ∧ s ≠ "*" ∧ Denotes s.toList u := by
  constructor
  · rintro ⟨h, hu⟩
    unfold ofText? at h
    split at h
    · cases h
    refine ⟨by omega, ?_⟩
    split at h
    · cases h
      cases hu
    · obtain ⟨target, -, rfl⟩ := Option.map_eq_some_iff.1 h
      cases hu
    · rename_i hstar _
      refine ⟨?_, denotes_of_ofChars? h⟩
      rintro rfl
      exact hstar rfl
  · rintro ⟨hl, hstar, h⟩
    refine ⟨?_, isSome_host?_of_denotes h⟩
    unfold ofText?
    rw [if_neg (by omega)]
    split
    · rename_i hs
      exact absurd (String.toList_inj.1 hs) hstar
    · rename_i rest hs
      exact absurd (by rw [hs]; rfl) h.head?_ne
    · exact ofChars?_of_denotes h

end Uri

end MailDiscovery
