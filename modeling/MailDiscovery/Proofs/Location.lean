import MailDiscovery.Proofs.UriSpelling
import MailDiscovery.Query

/-!
Where a redirection leads, told from how its location is written. A location that begins with a slash stays on the same
authority, and any other leaves it, also one that is a name alone and could be meant as a document next to this one.
-/

namespace MailDiscovery

namespace Target.Spelling

variable (s : Spelling)

theorem head?_path (h : s.chars.head? = some '/') : s.path.head? = some '/' := by
  unfold chars at h
  generalize s.path = path at h ⊢
  cases path with
  | cons c path => exact h
  | nil =>
    generalize s.query = query at h
    cases query with
    | none => exact absurd (s.isFragment '/' h) (by decide)
    | some q => cases h

theorem target_of_path (h : s.path ≠ []) : s.target = ⟨String.ofList s.path, s.query.map String.ofList⟩ := by
  have hne : String.ofList s.path ≠ "" := by simpa using h
  unfold target
  cases s.query with
  | none => rfl
  | some q => simp [withPath, hne]

theorem rooted_target (h : s.path ≠ []) : s.target.rooted = s.target := by
  have hne : String.ofList s.path ≠ "" := by simpa using h
  rw [s.target_of_path h, rooted, if_neg hne]

theorem ne_of_isPath {c : Char} (hc : c ∈ s.path) : c ≠ '?' ∧ c ≠ '#' := by
  have hchar := s.isPath c hc
  constructor
  · rintro rfl
    exact absurd hchar (by decide)
  · rintro rfl
    exact absurd hchar (by decide)

theorem path_target (h : s.path ≠ []) :
    s.target.path.toList = s.chars.takeWhile (fun c => c != '?' && c != '#') := by
  have hstop : ∀ c ∈ (s.query.elim [] ('?' :: ·) ++ s.fragment).head?, (c != '?' && c != '#') = false := by
    intro c hc
    generalize s.query = query at hc
    cases query with
    | none =>
      rw [s.isFragment c hc]
      decide
    | some q =>
      cases hc
      decide
  rw [chars, (span_of_stop (fun c hc => by simpa using s.ne_of_isPath hc) hstop).1, s.target_of_path h,
    String.toList_ofList]

theorem text_target (h : s.path ≠ []) : s.target.text.toList = s.chars.takeWhile (· != '#') := by
  have hquery : ∀ c ∈ s.query.elim [] ('?' :: ·), c ≠ '#' := by
    rintro c hc rfl
    have hchars := s.isQuery
    generalize s.query = query at hc hchars
    cases query with
    | none => cases hc
    | some q =>
      cases hc with
      | tail _ hc => exact absurd (hchars q rfl '#' hc) (by decide)
  have hfront : ∀ c ∈ s.path ++ s.query.elim [] ('?' :: ·), (c != '#') = true := by
    intro c hc
    rw [bne_iff_ne]
    exact (List.mem_append.1 hc).elim (fun hc => (s.ne_of_isPath hc).2) (hquery c)
  have hstop : ∀ c ∈ s.fragment.head?, (c != '#') = false := by
    intro c hc
    rw [s.isFragment c hc]
    decide
  rw [chars, ← List.append_assoc, (span_of_stop hfront hstop).1, s.target_of_path h]
  cases s.query with
  | none => simp [Target.text]
  | some q => simp [Target.text, String.toList_append]

end Target.Spelling

namespace Uri

/-- Where the location of a redirection leads: to a target on the same authority, to an identifier of its own, or, if it
can be read so, to an authority without a scheme. -/
inductive LeadsTo (base : Uri) (location : String) : Uri → Prop
  | within {scheme : Scheme} {name : String} {s : Target.Spelling} (hs : base.scheme? = some scheme)
      (hn : base.authority? = some name) (hw : s.chars = location.toList) (hp : s.path.head? = some '/') :
      LeadsTo base location (.absolute scheme name s.target)
  | away {s : Spelling} (hw : s.chars = location.toList) (hl : location.utf8ByteSize ≤ longestText) :
      LeadsTo base location s.uri
  | bare (h : ValidAuthority location.toList) (hl : location.utf8ByteSize ≤ longestText) (hstar : location ≠ "*") :
      LeadsTo base location (.bare location)

variable {base u : Uri} {scheme : Scheme} {location : String}

theorem leadsTo_of_denotes (hl : location.utf8ByteSize ≤ longestText) (hstar : location ≠ "*")
    (h : Denotes location.toList u) : base.LeadsTo location u := by
  generalize hw : location.toList = cs at h
  cases h with
  | absolute s => exact .away hw.symm hl
  | bare h =>
    subst hw
    rw [String.ofList_toList]
    exact .bare h hl hstar

theorem resolve?_eq_some_iff (hs : base.scheme? = some scheme) {name : String} (hn : base.authority? = some name)
    {location : ByteArray} :
    base.resolve? location = some u ↔ ∃ text, String.fromUTF8? location = some text ∧ base.LeadsTo text u := by
  have hparts (t : Target) : ofParts? base.scheme? base.authority? t = some (.absolute scheme name t.rooted) := by
    rw [hs, hn]
    rfl
  constructor
  · intro h
    obtain ⟨text, htext, h⟩ := Option.bind_eq_some_iff.1 h
    refine ⟨text, htext, ?_⟩
    split at h
    · rename_i hslash
      obtain ⟨t, ht, h⟩ := Option.bind_eq_some_iff.1 h
      obtain ⟨s, hw, rfl⟩ := Target.exists_spelling ht
      have hp := s.head?_path (hw ▸ hslash)
      rw [hparts, s.rooted_target (by rintro hnil; simp [hnil] at hp)] at h
      cases h
      exact .within hs hn hw hp
    · obtain ⟨other, hother, h⟩ := Option.bind_eq_some_iff.1 h
      split at h
      · cases h
        obtain ⟨hl, hstar, hdenotes⟩ := ofText?_eq_some_iff.1 ⟨hother, ‹_›⟩
        exact leadsTo_of_denotes hl hstar hdenotes
      · cases h
  · rintro ⟨text, htext, h⟩
    have hdenoted (hl : text.utf8ByteSize ≤ longestText) (hstar : text ≠ "*") (hdenotes : Denotes text.toList u) :
        base.resolve? location = some u := by
      obtain ⟨hread, hhost⟩ := ofText?_eq_some_iff.2 ⟨hl, hstar, hdenotes⟩
      unfold resolve?
      rw [htext]
      simp only [Option.bind_eq_bind, Option.bind_some]
      rw [if_neg hdenotes.head?_ne, hread, Option.bind_some, if_pos hhost]
    cases h with
    | @within scheme' name' s hs' hn' hw hp =>
      cases hs.symm.trans hs'
      cases hn.symm.trans hn'
      obtain ⟨rest, hpath⟩ := List.head?_eq_some_iff.1 hp
      have hne : s.path ≠ [] := by simp [hpath]
      have hslash : text.toList.head? = some '/' := by simp [← hw, Target.Spelling.chars, hpath]
      have htarget : Target.ofText? text = some s.target := by
        rw [Target.ofText?, ← hw, s.ofChars?_chars]
      unfold resolve?
      rw [htext]
      simp only [Option.bind_eq_bind, Option.bind_some]
      rw [if_pos hslash, htarget, Option.bind_some, hparts, s.rooted_target hne]
    | @away s hw hl =>
      refine hdenoted hl ?_ (hw ▸ .absolute s)
      rintro rfl
      have hcolon : ':' ∈ s.chars := by simp [Spelling.chars]
      rw [hw] at hcolon
      exact absurd hcolon (by decide)
    | bare hvalid hl hstar =>
      have hdenotes := Denotes.bare hvalid
      rw [String.ofList_toList] at hdenotes
      exact hdenoted hl hstar hdenotes

namespace LeadsTo

variable {text : String}

theorem isSome_host? (h : base.LeadsTo text u) : u.host?.isSome = true := by
  cases h with
  | within | away | bare => rfl

theorem of_slash (h : base.LeadsTo text u) (hslash : text.toList.head? = some '/') :
    u.scheme? = base.scheme? ∧ u.authority? = base.authority? ∧
      u.path.toList = text.toList.takeWhile (fun c => c != '?' && c != '#') ∧
      u.target.text.toList = text.toList.takeWhile (· != '#') := by
  cases h with
  | @within scheme name s hs hn hw hp =>
    have hne : s.path ≠ [] := by
      rintro hnil
      simp [hnil] at hp
    rw [← hw]
    exact ⟨hs.symm, hn.symm, s.path_target hne, s.text_target hne⟩
  | @away s hw hl => exact absurd (hw ▸ hslash) (Denotes.absolute s).head?_ne
  | bare h hl hstar => exact absurd hslash (Denotes.bare h).head?_ne

theorem scheme?_eq_none_iff (h : base.LeadsTo text u) : u.scheme? = none ↔ ValidAuthority text.toList := by
  cases h with
  | @within scheme name s hs hn hw hp =>
    obtain ⟨rest, hpath⟩ := List.head?_eq_some_iff.1 hp
    have hslash : '/' ∈ text.toList := by simp [← hw, Target.Spelling.chars, hpath]
    exact iff_of_false (by simp [scheme?]) fun h => h.not_mem (by decide) hslash
  | @away s hw hl =>
    have hslash : '/' ∈ text.toList := by simp [← hw, Spelling.chars]
    exact iff_of_false (by simp [scheme?, Spelling.uri]) fun h => h.not_mem (by decide) hslash
  | bare h hl hstar => exact iff_of_true rfl h

theorem eq_bare (h : base.LeadsTo text u) (hu : u.scheme? = none) : u = .bare text := by
  cases h with
  | within | away => cases hu
  | bare => rfl

end LeadsTo

theorem ofText?_of_resolve? {location : ByteArray} {text : String} (htext : String.fromUTF8? location = some text)
    (hslash : text.toList.head? ≠ some '/') (h : base.resolve? location = some u) : ofText? text = some u := by
  unfold resolve? at h
  rw [htext, Option.bind_eq_bind, Option.bind_some, if_neg hslash] at h
  obtain ⟨other, hother, h⟩ := Option.bind_eq_some_iff.1 h
  split at h
  · cases h
    exact hother
  · cases h

theorem accepts_eq_false {q : Query} (h : u.scheme? = none) : q.accepts u = false := by
  cases q <;> simp [Query.accepts, h]

/-- A location is understood if it stays on the authority of the request, is an identifier of its own, or is an authority
as a whole. Only the last has no scheme, and no query is sent there. -/
theorem locations_resolved (hs : base.scheme? = some scheme) (location : ByteArray) :
    (∀ u, base.resolve? location = some u ↔ ∃ text, String.fromUTF8? location = some text ∧ base.LeadsTo text u) ∧
      ∀ text u, String.fromUTF8? location = some text → base.resolve? location = some u →
        u.host?.isSome = true ∧
        (text.toList.head? = some '/' → u.scheme? = base.scheme? ∧ u.authority? = base.authority? ∧
          u.path.toList = text.toList.takeWhile (fun c => c != '?' && c != '#') ∧
          u.target.text.toList = text.toList.takeWhile (· != '#')) ∧
        (text.toList.head? ≠ some '/' → ofText? text = some u) ∧
        (u.scheme? = none ↔ ValidAuthority text.toList) ∧
        (u.scheme? = none → u = .bare text ∧ ∀ q : Query, q.accepts u = false) := by
  obtain ⟨name, hn⟩ : ∃ name, base.authority? = some name := by
    cases base with
    | absolute own name target => exact ⟨name, rfl⟩
    | bare | origin => cases hs
  refine ⟨fun u => resolve?_eq_some_iff hs hn, ?_⟩
  intro text u htext h
  obtain ⟨own, hown, hleads⟩ := (resolve?_eq_some_iff hs hn).1 h
  cases htext.symm.trans hown
  exact ⟨hleads.isSome_host?, hleads.of_slash, fun hslash => ofText?_of_resolve? htext hslash h,
    hleads.scheme?_eq_none_iff, fun hu => ⟨hleads.eq_bare hu, fun q => accepts_eq_false hu⟩⟩

def requested : Uri :=
  .absolute .https "a.example" ⟨"/autodiscover/autodiscover.xml", none⟩

theorem location_may_lack_scheme :
    ¬ ∀ (base u : Uri) (location : ByteArray), base.scheme?.isSome = true → base.authority?.isSome = true →
      base.resolve? location = some u → u.scheme?.isSome = true ∧ u.host?.isSome = true := by
  intro h
  have hscheme := (h requested (.bare "autodiscover.xml") "autodiscover.xml".toUTF8 rfl rfl (by decide +kernel)).1
  cases hscheme

theorem locations_resolved_requested :
    requested.scheme? = some .https ∧
      requested.resolve? "/other/autodiscover.xml?x=1#top".toUTF8 =
        some (.absolute .https "a.example" ⟨"/other/autodiscover.xml", some "x=1"⟩) ∧
      (Target.mk "/other/autodiscover.xml" (some "x=1")).text.toList =
        "/other/autodiscover.xml?x=1#top".toList.takeWhile (· != '#') := by
  have hresolve : requested.resolve? "/other/autodiscover.xml?x=1#top".toUTF8 =
      some (.absolute .https "a.example" ⟨"/other/autodiscover.xml", some "x=1"⟩) := by decide +kernel
  have hlocation := (locations_resolved rfl "/other/autodiscover.xml?x=1#top".toUTF8).2 "/other/autodiscover.xml?x=1#top" _
    (by decide +kernel) hresolve
  exact ⟨rfl, hresolve, (hlocation.2.1 (by decide)).2.2.2⟩

end Uri

end MailDiscovery
