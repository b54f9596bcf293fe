import MailDiscovery.Credential
import MailDiscovery.Proofs.Markup.CharacterData
import MailDiscovery.Proofs.UriText

namespace MailDiscovery

structure Target.Lawful (t : Target) : Prop where
  path : ∀ c ∈ t.path.toList, Uri.isPathChar c = true
  query : ∀ q, t.query = some q → ∀ c ∈ q.toList, Uri.isQueryChar c = true

namespace Uri

structure Lawful (u : Uri) : Prop where
  scheme : ∀ s, u.scheme? = some s → ∀ c ∈ s.text.toList, isSchemeChar c = true
  authority : ∀ name, u.authority? = some name → ∀ c ∈ name.toList, (c == '%' || isAuthorityChar c) = true
  target : u.target.Lawful

end Uri

namespace Target

theorem lawful_withPath {path : String} {query : Option String} (hpath : ∀ c ∈ path.toList, Uri.isPathChar c = true)
    (hquery : ∀ q, query = some q → ∀ c ∈ q.toList, Uri.isQueryChar c = true) : (withPath path query).Lawful := by
  cases query with
  | none => exact ⟨hpath, by simp [withPath]⟩
  | some q =>
    refine ⟨?_, hquery⟩
    rw [withPath]
    dsimp only
    split
    · exact List.all_eq_true.1 (by decide : "/".toList.all Uri.isPathChar = true)
    · exact hpath

theorem lawful_of_ofChars? {cs : List Char} {t : Target} (h : ofChars? cs = some t) : t.Lawful := by
  obtain ⟨query, rfl, hquery⟩ := ofChars?_eq_some h
  have hpath : ∀ c ∈ cs.takeWhile Uri.isPathChar, Uri.isPathChar c = true := List.all_eq_true.1 List.all_takeWhile
  exact lawful_withPath (by simpa using hpath) hquery

theorem Lawful.rooted {t : Target} (h : t.Lawful) : t.rooted.Lawful := by
  unfold Target.rooted
  split
  · exact ⟨List.all_eq_true.1 (by decide : "/".toList.all Uri.isPathChar = true), h.query⟩
  · exact h

end Target

namespace Uri

theorem mem_of_isAuthority {cs : List Char} (h : isAuthority cs = true) :
    ∀ c ∈ cs, (c == '%' || isAuthorityChar c) = true := by
  have step {seen seen' : AuthoritySeen} {c : Char} (h : seen.step c = some seen') :
      (c == '%' || isAuthorityChar c) = true := by
    unfold AuthoritySeen.step at h
    split at h
    · simp_all
    split at h
    · cases h
    · simp_all
  have run : ∀ (cs : List Char) (seen seen' : AuthoritySeen), cs.foldlM AuthoritySeen.step seen = some seen' →
      ∀ c ∈ cs, (c == '%' || isAuthorityChar c) = true := by
    intro cs
    induction cs with
    | nil => simp
    | cons c cs ih =>
      intro seen seen' h
      rw [List.foldlM_cons] at h
      obtain ⟨next, hnext, h⟩ := Option.bind_eq_some_iff.1 h
      rw [List.forall_mem_cons]
      exact ⟨step hnext, ih next seen' h⟩
  unfold isAuthority at h
  split at h
  · cases h
  · rename_i seen hseen
    exact run cs {} seen hseen

theorem scheme_of_splitScheme? {cs rest : List Char} {scheme : Scheme}
    (h : splitScheme? cs = some (some scheme, rest)) : ∀ c ∈ scheme.text.toList, isSchemeChar c = true := by
  unfold splitScheme? at h
  split at h
  · cases h
    exact List.all_eq_true.1 (by decide : "http".toList.all isSchemeChar = true)
  split at h
  · cases h
    exact List.all_eq_true.1 (by decide : "https".toList.all isSchemeChar = true)
  split at h
  · dsimp only at h
    split at h
    · cases h
    · cases h
      have hall : ∀ c ∈ cs.takeWhile isSchemeChar, isSchemeChar c = true := List.all_eq_true.1 List.all_takeWhile
      simpa [Scheme.text] using hall
  · cases h

theorem lawful_of_ofChars? {cs : List Char} {u : Uri} (h : ofChars? cs = some u) : u.Lawful := by
  unfold ofChars? at h
  obtain ⟨⟨scheme, rest⟩, hsplit, h⟩ := Option.bind_eq_some_iff.1 h
  dsimp only at h
  split at h
  · cases h
  rename_i hname
  simp only [Bool.not_eq_true, Bool.or_eq_false_iff, Bool.not_eq_eq_eq_not, Bool.not_false] at hname
  have hauthority : ∀ c ∈ rest.takeWhile (!endsAuthority ·), (c == '%' || isAuthorityChar c) = true :=
    mem_of_isAuthority (by simpa using hname.2)
  cases scheme with
  | none =>
    dsimp only at h
    split at h
    · cases h
      exact ⟨by simp [scheme?], by simpa [authority?] using hauthority, ⟨by simp [target], by simp [target]⟩⟩
    · cases h
  | some scheme =>
    obtain ⟨target, htarget, h⟩ := Option.bind_eq_some_iff.1 h
    cases h
    exact ⟨by simpa [scheme?] using scheme_of_splitScheme? hsplit, by simpa [authority?] using hauthority,
      (Target.lawful_of_ofChars? htarget).rooted⟩

theorem lawful_origin {target : Target} (h : target.Lawful) : (origin target).Lawful :=
  ⟨by simp [scheme?], by simp [authority?], h⟩

theorem lawful_of_ofText? {s : String} {u : Uri} (h : ofText? s = some u) : u.Lawful := by
  unfold ofText? at h
  split at h
  · cases h
  split at h
  · cases h
    exact lawful_origin ⟨List.all_eq_true.1 (by decide : "*".toList.all isPathChar = true), by simp⟩
  · obtain ⟨target, htarget, rfl⟩ := Option.map_eq_some_iff.1 h
    exact lawful_origin (Target.lawful_of_ofChars? htarget)
  · exact lawful_of_ofChars? h

theorem lawful_of_ofParts? {scheme : Option Scheme} {name : Option String} {target : Target} {u : Uri}
    (h : ofParts? scheme name target = some u)
    (hscheme : ∀ s, scheme = some s → ∀ c ∈ s.text.toList, isSchemeChar c = true)
    (hname : ∀ n, name = some n → ∀ c ∈ n.toList, (c == '%' || isAuthorityChar c) = true) (ht : target.Lawful) :
    u.Lawful := by
  unfold ofParts? at h
  split at h
  · cases h
    exact ⟨by simpa [scheme?] using hscheme, by simpa [authority?] using hname, ht.rooted⟩
  · cases h
    exact lawful_origin ht
  · cases h

theorem Lawful.resolve? {base u : Uri} {location : ByteArray} (hb : base.Lawful) (h : base.resolve? location = some u) :
    u.Lawful := by
  unfold Uri.resolve? at h
  obtain ⟨text, -, h⟩ := Option.bind_eq_some_iff.1 h
  split at h
  · obtain ⟨target, ht, h⟩ := Option.bind_eq_some_iff.1 h
    exact lawful_of_ofParts? h hb.scheme hb.authority (Target.lawful_of_ofChars? ht)
  · obtain ⟨other, hother, h⟩ := Option.bind_eq_some_iff.1 h
    split at h
    · cases h
      exact lawful_of_ofText? hother
    · cases h

theorem Lawful.legacyOn? {base u : Uri} (hb : base.Lawful) (h : WellKnown.legacyOn? base = some u) : u.Lawful := by
  unfold WellKnown.legacyOn? at h
  split at h
  · cases h
    exact hb
  · have hpath : ∀ c ∈ WellKnown.legacyPath.toList, isPathChar c = true :=
      List.all_eq_true.1 (by decide : WellKnown.legacyPath.toList.all isPathChar = true)
    refine lawful_of_ofParts? h ?_ hb.authority ⟨hpath, by simp⟩
    intro s hs
    cases hscheme : base.scheme? with
    | none =>
      rw [hscheme] at hs
      cases hs
      exact List.all_eq_true.1 (by decide : "https".toList.all isSchemeChar = true)
    | some own =>
      rw [hscheme] at hs
      cases hs
      exact hb.scheme own hscheme

theorem mem_of_mem_strip {path : List Char} {c : Char} (h : c ∈ Flavour.strip path) : c ∈ path := by
  have hends : ∀ c ∈ (path.reverse.dropWhile (· == '/')).reverse, c ∈ path := by
    intro c hc
    exact List.mem_reverse.1 ((List.dropWhile_sublist _).subset (List.mem_reverse.1 hc))
  unfold Flavour.strip at h
  dsimp only at h
  split at h
  · exact hends c (List.mem_of_mem_take h)
  split at h
  · exact hends c (List.mem_of_mem_take h)
  split at h
  · exact hends c (List.mem_of_mem_take h)
  · exact hends c h

theorem Lawful.adjust? {base u : Uri} {credential : Credential} (hb : base.Lawful)
    (h : credential.adjust? base = some u) : u.Lawful := by
  refine lawful_of_ofParts? h hb.scheme hb.authority (Target.lawful_withPath ?_ hb.target.query)
  have hsuffix : ∀ c ∈ credential.flavour.suffix.toList, isPathChar c = true := by
    exact List.all_eq_true.1 (by cases credential.flavour <;> decide)
  intro c hc
  rw [Flavour.applyToPath, String.toList_append, String.toList_ofList, List.mem_append] at hc
  cases hc with
  | inl hc => exact hb.target.path c (mem_of_mem_strip hc)
  | inr hc => exact hsuffix c hc

def isVisible (c : Char) : Bool :=
  0x21 ≤ c.toNat && c.toNat ≤ 0x7e

theorem isVisible_of_isAlphanum {c : Char} (h : c.isAlphanum = true) : isVisible c = true := by
  unfold Char.isAlphanum Char.isAlpha Char.isUpper Char.isLower Char.isDigit at h
  simp only [Bool.or_eq_true, Bool.and_eq_true, decide_eq_true_eq, UInt32.le_iff_toNat_le, ge_iff_le] at h
  change ((65 ≤ c.toNat ∧ c.toNat ≤ 90) ∨ (97 ≤ c.toNat ∧ c.toNat ≤ 122)) ∨ (48 ≤ c.toNat ∧ c.toNat ≤ 57) at h
  simp only [isVisible, Bool.and_eq_true, decide_eq_true_eq]
  omega

theorem isVisible_of_isSchemeChar {c : Char} (h : isSchemeChar c = true) : isVisible c = true := by
  rw [isSchemeChar, Bool.or_eq_true, List.contains_iff_mem] at h
  cases h with
  | inl h => exact isVisible_of_isAlphanum h
  | inr h => exact List.all_eq_true.1 (by decide : ['+', '.', '~', '-'].all isVisible = true) c h

theorem isVisible_of_isAuthorityChar {c : Char} (h : isAuthorityChar c = true) : isVisible c = true := by
  rw [isAuthorityChar, Bool.or_eq_true, List.contains_iff_mem] at h
  cases h with
  | inl h => exact isVisible_of_isAlphanum h
  | inr h =>
    exact List.all_eq_true.1 (by decide : ['!', '$', '&', '\'', '(', ')', '*', '+', ',', '-', '.', ':', ';', '=', '@',
      '[', ']', '_', '~'].all isVisible = true) c h

theorem isVisible_of_isPathChar {c : Char} (h : isPathChar c = true) : isVisible c = true := by
  simp only [isPathChar, isVisible, Bool.or_eq_true, Bool.and_eq_true, decide_eq_true_eq, beq_iff_eq] at h ⊢
  omega

theorem isVisible_of_isQueryChar {c : Char} (h : isQueryChar c = true) : isVisible c = true := by
  simp only [isQueryChar, isVisible, Bool.or_eq_true, Bool.and_eq_true, decide_eq_true_eq, beq_iff_eq] at h ⊢
  omega

theorem isVisible_of_target {t : Target} (h : t.Lawful) : ∀ c ∈ t.text.toList, isVisible c = true := by
  have hpath : ∀ c ∈ t.path.toList, isVisible c = true := fun c hc => isVisible_of_isPathChar (h.path c hc)
  unfold Target.text
  split
  · exact hpath
  · rename_i q hq
    intro c hc
    rw [String.toList_append, String.toList_append, List.mem_append, List.mem_append] at hc
    rcases hc with (hc | hc) | hc
    · exact hpath c hc
    · exact List.all_eq_true.1 (by decide : "?".toList.all isVisible = true) c hc
    · exact isVisible_of_isQueryChar (h.query q hq c hc)

theorem isVisible_of_lawful {u : Uri} (h : u.Lawful) : ∀ c ∈ u.text.toList, isVisible c = true := by
  have hauthority : ∀ name, u.authority? = some name → ∀ c ∈ name.toList, isVisible c = true := by
    intro name hname c hc
    have hc := h.authority name hname c hc
    rw [Bool.or_eq_true, beq_iff_eq] at hc
    cases hc with
    | inl hc =>
      subst hc
      decide
    | inr hc => exact isVisible_of_isAuthorityChar hc
  have htarget := isVisible_of_target h.target
  cases u with
  | absolute scheme name target =>
    intro c hc
    simp only [text, String.toList_append, List.mem_append] at hc
    rcases hc with ((hc | hc) | hc) | hc
    · exact isVisible_of_isSchemeChar (h.scheme scheme rfl c hc)
    · exact List.all_eq_true.1 (by decide : "://".toList.all isVisible = true) c hc
    · exact hauthority name rfl c hc
    · exact htarget c hc
  | bare name => exact hauthority name rfl
  | origin target => exact htarget

theorem Lawful.isLegal {u : Uri} (h : u.Lawful) : Xml.isLegal u.text = true := by
  refine List.all_eq_true.2 ?_
  intro c hc
  have hc := isVisible_of_lawful h c hc
  simp only [isVisible, Bool.and_eq_true, decide_eq_true_eq] at hc
  have hreturn : c ≠ '\r' := by
    rintro rfl
    exact absurd hc.1 (by decide)
  simp only [Xml.isChar, Bool.and_eq_true, bne_iff_ne]
  rw [if_neg (by omega)]
  simp [hreturn]
  omega

end Uri

end MailDiscovery
