import MailDiscovery.Proofs.WebScheme

namespace MailDiscovery

theorem span_of_stop {p : Char → Bool} {front rest : List Char} (hf : ∀ c ∈ front, p c = true)
    (hr : ∀ c ∈ rest.head?, p c = false) :
    (front ++ rest).takeWhile p = front ∧ (front ++ rest).dropWhile p = rest := by
  rw [List.takeWhile_append_of_pos hf, List.dropWhile_append_of_pos hf]
  cases rest with
  | nil => simp
  | cons c rest =>
    have hc : p c = false := hr c rfl
    simp [hc]

theorem stop_of_dropWhile (p : Char → Bool) (cs : List Char) : ∀ c ∈ (cs.dropWhile p).head?, p c = false := by
  intro c hc
  have hstop := List.head?_dropWhile_not p cs
  rwa [Option.mem_def.1 hc] at hstop

namespace Target

/-- What can be read after an authority: a path from the root, and characters that belong where they are. -/
structure Regular (t : Target) : Prop where
  rooted : ∃ rest, t.path.toList = '/' :: rest
  path : ∀ c ∈ t.path.toList, Uri.isPathChar c = true
  query : ∀ q, t.query = some q → ∀ c ∈ q.toList, Uri.isQueryChar c = true

theorem Regular.path_ne {t : Target} (h : t.Regular) : t.path ≠ "" := by
  obtain ⟨rest, hrest⟩ := h.rooted
  intro he
  rw [he] at hrest
  simp at hrest

theorem Regular.rooted_eq {t : Target} (h : t.Regular) : t.rooted = t :=
  if_neg h.path_ne

theorem dropWhile_query {q : String} (hq : ∀ c ∈ q.toList, Uri.isQueryChar c = true) :
    q.toList.dropWhile Uri.isQueryChar = [] := by
  have h : (q.toList ++ []).dropWhile Uri.isQueryChar = [].dropWhile Uri.isQueryChar :=
    List.dropWhile_append_of_pos hq
  simpa using h

theorem Regular.ofChars?_text {t : Target} (h : t.Regular) : ofChars? t.text.toList = some t := by
  obtain ⟨path, query⟩ := t
  have hne : path ≠ "" := h.path_ne
  cases query with
  | none =>
    obtain ⟨htake, hdrop⟩ := @span_of_stop _ path.toList [] h.path (by simp)
    rw [List.append_nil] at htake hdrop
    simp [ofChars?, text, htake, hdrop, withPath]
  | some q =>
    obtain ⟨htake, hdrop⟩ := @span_of_stop _ path.toList ('?' :: q.toList) h.path (by simp; decide)
    have htext : (text ⟨path, some q⟩).toList = path.toList ++ '?' :: q.toList := by
      simp [text, String.toList_append]
    simp [ofChars?, htext, htake, hdrop, dropWhile_query (h.query q rfl), withPath, hne]

theorem ofChars?_eq_some {cs : List Char} {t : Target} (h : ofChars? cs = some t) :
    ∃ query, t = withPath (String.ofList (cs.takeWhile Uri.isPathChar)) query ∧
      ∀ q, query = some q → ∀ c ∈ q.toList, Uri.isQueryChar c = true := by
  have hall (cs : List Char) : ∀ c ∈ cs.takeWhile Uri.isQueryChar, Uri.isQueryChar c = true :=
    List.all_eq_true.1 List.all_takeWhile
  unfold ofChars? at h
  dsimp only at h
  split at h
  · cases h
    exact ⟨none, rfl, by simp⟩
  · cases h
    exact ⟨none, rfl, by simp⟩
  · rename_i rest hrest
    split at h
    · rename_i hend
      cases h
      refine ⟨some (String.ofList rest), rfl, ?_⟩
      have hwhole := @List.takeWhile_append_dropWhile _ Uri.isQueryChar rest
      rw [hend, List.append_nil] at hwhole
      intro q hq
      cases hq
      rw [String.toList_ofList, ← hwhole]
      exact hall rest
    · cases h
      refine ⟨some (String.ofList (rest.takeWhile Uri.isQueryChar)), rfl, ?_⟩
      intro q hq
      cases hq
      rw [String.toList_ofList]
      exact hall rest
    · cases h
  · cases h

theorem regular_of_ofChars? {cs : List Char} {t : Target} (h : ofChars? cs = some t)
    (hcs : ∀ c ∈ cs.head?, Uri.endsAuthority c = true) : t.rooted.Regular := by
  obtain ⟨query, rfl, hquery⟩ := ofChars?_eq_some h
  have hall : ∀ c ∈ cs.takeWhile Uri.isPathChar, Uri.isPathChar c = true := List.all_eq_true.1 List.all_takeWhile
  have hroot : Regular ⟨"/", query⟩ := ⟨⟨[], by simp⟩, by simp; decide, hquery⟩
  generalize hpath : cs.takeWhile Uri.isPathChar = path at hall
  cases path with
  | nil =>
    cases query with
    | none => exact hroot
    | some q => exact hroot
  | cons c rest =>
    have hc : c = '/' := by
      cases cs with
      | nil => simp at hpath
      | cons first cs =>
        rw [List.takeWhile_cons] at hpath
        split at hpath
        · rename_i hfirst
          rw [List.cons.injEq] at hpath
          have hends : Uri.endsAuthority first = true := hcs first rfl
          simp only [Uri.endsAuthority, Bool.or_eq_true, beq_iff_eq] at hends
          rcases hends with (rfl | rfl) | rfl
          · exact hpath.1.symm
          · exact absurd hfirst (by decide)
          · exact absurd hfirst (by decide)
        · cases hpath
    subst hc
    have hne : String.ofList ('/' :: rest) ≠ "" := by
      intro he
      have := congrArg String.toList he
      simp at this
    have hregular : Regular ⟨String.ofList ('/' :: rest), query⟩ :=
      ⟨⟨rest, by simp⟩, by simpa using hall, hquery⟩
    have hwith : withPath (String.ofList ('/' :: rest)) query = ⟨String.ofList ('/' :: rest), query⟩ := by
      cases query with
      | none => rfl
      | some q => rw [withPath, if_neg hne]
    rw [hwith, hregular.rooted_eq]
    exact hregular

end Target

namespace Uri

inductive Regular : Uri → Prop
  | absolute {scheme : Scheme} {name : String} {target : Target} (hne : name ≠ "")
      (ha : isAuthority name.toList = true) (he : ∀ c ∈ name.toList, endsAuthority c = false)
      (ht : target.Regular) : Regular (.absolute scheme name target)
  | bare {name : String} : Regular (.bare name)
  | origin {target : Target} : Regular (.origin target)

theorem regular_of_ofChars? {cs : List Char} {u : Uri} (h : ofChars? cs = some u) : u.Regular := by
  unfold ofChars? at h
  cases hs : splitScheme? cs with
  | none => simp [hs] at h
  | some p =>
    obtain ⟨scheme, rest⟩ := p
    simp only [hs, Option.bind_eq_bind, Option.bind_some] at h
    split at h
    · cases h
    rename_i hname
    simp only [Bool.not_eq_true, Bool.or_eq_false_iff, Bool.not_eq_eq_eq_not, Bool.not_false] at hname
    cases scheme with
    | none =>
      simp only at h
      split at h
      · cases h
        exact .bare
      · cases h
    | some scheme =>
      cases ht : Target.ofChars? (rest.dropWhile (!endsAuthority ·)) with
      | none => simp [ht] at h
      | some target =>
        simp only [ht, Option.bind_some, Option.some.injEq] at h
        subst h
        refine .absolute ?_ (by simpa using hname.2) ?_ (Target.regular_of_ofChars? ht ?_)
        · intro he
          have hempty : rest.takeWhile (!endsAuthority ·) = [] := by
            have := congrArg String.toList he
            simpa using this
          simp [hempty] at hname
        · have hall : ∀ c ∈ rest.takeWhile (!endsAuthority ·), (!endsAuthority c) = true :=
            List.all_eq_true.1 List.all_takeWhile
          intro c hc
          simpa using hall c (by simpa using hc)
        · simpa using stop_of_dropWhile (!endsAuthority ·) rest

theorem regular_of_ofText? {s : String} {u : Uri} (h : ofText? s = some u) : u.Regular := by
  unfold ofText? at h
  split at h
  · cases h
  split at h
  · cases h
    exact .origin
  · obtain ⟨target, -, rfl⟩ := Option.map_eq_some_iff.1 h
    exact .origin
  · exact regular_of_ofChars? h

theorem Regular.resolve? {base u : Uri} {location : ByteArray} (hb : base.Regular)
    (h : base.resolve? location = some u) : u.Regular := by
  unfold Uri.resolve? at h
  obtain ⟨text, -, h⟩ := Option.bind_eq_some_iff.1 h
  split at h
  · rename_i hslash
    obtain ⟨target, ht, h⟩ := Option.bind_eq_some_iff.1 h
    have hstart : ∀ c ∈ text.toList.head?, endsAuthority c = true := by
      rw [hslash]
      simp
      decide
    have htarget : target.rooted.Regular := Target.regular_of_ofChars? ht hstart
    cases hb with
    | absolute hne ha he hown =>
      cases h
      exact .absolute hne ha he htarget
    | bare => cases h
    | origin =>
      cases h
      exact .origin
  · obtain ⟨other, hother, h⟩ := Option.bind_eq_some_iff.1 h
    split at h
    · cases h
      exact regular_of_ofText? hother
    · cases h

theorem Regular.ofText?_text {u : Uri} {scheme : Scheme} (hu : u.Regular) (hs : scheme.IsWeb)
    (hscheme : u.scheme? = some scheme) (hlength : u.text.utf8ByteSize ≤ longestText) : ofText? u.text = some u := by
  cases hu with
  | bare => cases hscheme
  | origin => cases hscheme
  | @absolute own name target hne ha he ht =>
    cases hscheme
    have hchars : (text (.absolute scheme name target)).toList =
        scheme.text.toList ++ ("://".toList ++ (name.toList ++ target.text.toList)) := by
      simp only [text, String.toList_append, List.append_assoc]
    obtain ⟨rest, hrest⟩ : ∃ rest, target.text.toList = '/' :: rest := by
      obtain ⟨rest, hpath⟩ := ht.rooted
      unfold Target.text
      split
      · exact ⟨rest, hpath⟩
      · simp only [String.toList_append, hpath, List.cons_append]
        exact ⟨_, rfl⟩
    have hname : (name.toList ++ target.text.toList).takeWhile (!endsAuthority ·) = name.toList := by
      rw [List.takeWhile_append_of_pos (by simpa using he), hrest, List.takeWhile_cons_of_neg (by decide),
        List.append_nil]
    have htail : (name.toList ++ target.text.toList).dropWhile (!endsAuthority ·) = target.text.toList := by
      rw [List.dropWhile_append_of_pos (by simpa using he), hrest, List.dropWhile_cons_of_neg (by decide)]
    have hread : ofChars? (text (.absolute scheme name target)).toList = some (.absolute scheme name target) := by
      have hempty : name.toList.isEmpty = false := by simpa using hne
      rw [hchars, ofChars?, splitScheme?_of_isWeb hs]
      simp only [Option.bind_eq_bind, Option.bind_some, hname, htail, hempty, ha, Bool.not_true, Bool.or_self,
        Bool.false_eq_true, if_false, ht.ofChars?_text, ht.rooted_eq, String.ofList_toList]
    have hstart : ofText? (text (.absolute scheme name target)) =
        ofChars? (text (.absolute scheme name target)).toList := by
      unfold ofText?
      rw [if_neg (by omega), hchars]
      rcases hs with rfl | rfl
      · rfl
      · rfl
    rw [hstart, hread]

theorem Regular.eq_of_ofText? {u url : Uri} {scheme : Scheme} (hu : u.Regular) (hs : scheme.IsWeb)
    (hscheme : u.scheme? = some scheme) (h : ofText? u.text = some url) : url = u := by
  have hlength : u.text.utf8ByteSize ≤ longestText := by
    unfold ofText? at h
    split at h
    · cases h
    · omega
  rw [hu.ofText?_text hs hscheme hlength, Option.some.injEq] at h
  exact h.symm

end Uri

end MailDiscovery
