import MailDiscovery.Proofs.UriSpelling

namespace MailDiscovery

namespace Uri

variable {scheme : Scheme}

theorem length_text_le (hs : scheme.IsWeb) : scheme.text.toList.length ≤ longestScheme := by
  rcases hs with rfl | rfl
  · decide
  · decide

theorem isSchemeChar_text (hs : scheme.IsWeb) : ∀ c ∈ scheme.text.toList, isSchemeChar c = true := by
  rcases hs with rfl | rfl
  · exact List.all_eq_true.1 (by decide)
  · exact List.all_eq_true.1 (by decide)

theorem ofChars_text (hs : scheme.IsWeb) : Scheme.ofChars scheme.text.toList = scheme := by
  rcases hs with rfl | rfl
  · rfl
  · rfl

theorem denotes_web_iff (hs : scheme.IsWeb) {rest : List Char} {url : Uri} :
    Denotes (scheme.text.toList ++ ("://".toList ++ rest)) url ↔
      ∃ (name : List Char) (tail : Target.Spelling), ValidAuthority name ∧
        (∀ c ∈ tail.chars.head?, endsAuthority c = true) ∧ rest = name ++ tail.chars ∧
        url = .absolute scheme (String.ofList name) tail.target.rooted := by
  have hstop (cs : List Char) : ∀ c ∈ ("://".toList ++ cs).head?, isSchemeChar c = false := by
    intro c hc
    cases hc
    decide
  constructor
  · intro h
    generalize hcs : scheme.text.toList ++ ("://".toList ++ rest) = cs at h
    cases h with
    | absolute s =>
      obtain ⟨hscheme, hrest⟩ := append_inj_of_stop (isSchemeChar_text hs) (hstop _) s.isScheme (hstop _) hcs
      refine ⟨s.name, s.tail, s.authority, s.ends, List.append_cancel_left hrest, ?_⟩
      rw [Spelling.uri, ← hscheme, ofChars_text hs]
    | bare h =>
      have hslash : '/' ∈ cs := by simp [← hcs]
      exact absurd hslash (h.not_mem (by decide))
  · rintro ⟨name, tail, hname, hends, rfl, rfl⟩
    have hdenotes := Denotes.absolute
      ⟨scheme.text.toList, name, tail, isSchemeChar_text hs, length_text_le hs, hname, hends⟩
    rw [Spelling.uri, ofChars_text hs] at hdenotes
    exact hdenotes

end Uri

namespace WellKnown

open Uri (ValidAuthority endsAuthority longestText)

inductive Kind where
  | legacy
  | plainLegacy
  | soap (flavour : Flavour)

namespace Kind

def scheme : Kind → Scheme
  | plainLegacy => .http
  | legacy | soap _ => .https

def path : Kind → String
  | legacy | plainLegacy => legacyPath
  | soap flavour => soapPath ++ flavour.suffix

def on? (host : String) : Kind → Option Uri
  | legacy => legacyHttps? host
  | plainLegacy => legacyHttp? host
  | soap flavour => soap? host flavour

def text (host : String) (k : Kind) : String :=
  k.scheme.text ++ "://" ++ host ++ k.path

variable (k : Kind) (host : String)

theorem on?_eq : k.on? host = Uri.ofText? (k.text host) := by
  cases k with
  | legacy | plainLegacy => rfl
  | soap flavour =>
    simp only [on?, soap?, text, path, scheme, Scheme.text, String.append_assoc]
    rfl

theorem isWeb_scheme : k.scheme.IsWeb := by
  cases k with
  | legacy | soap => exact Scheme.isWeb_https
  | plainLegacy => exact Scheme.isWeb_http

theorem isPathChar_path : ∀ c ∈ k.path.toList, Uri.isPathChar c = true := by
  apply List.all_eq_true.1
  cases k with
  | legacy | plainLegacy => decide +kernel
  | soap flavour => cases flavour <;> decide +kernel

theorem head?_path : k.path.toList.head? = some '/' := by
  cases k with
  | legacy | plainLegacy => decide +kernel
  | soap flavour => cases flavour <;> decide +kernel

/-- What a host is made into: a URL on the authority that it begins with. What stands behind that authority, if anything,
comes before the path. -/
inductive Places (host : String) : Uri → Prop
  | mk {name rest : List Char} {tail : Target.Spelling} (hhost : host.toList = name ++ rest) (hname : ValidAuthority name)
      (hends : ∀ c ∈ rest.head?, endsAuthority c = true) (htail : tail.chars = rest ++ k.path.toList) :
      Places host (.absolute k.scheme (String.ofList name) tail.target.rooted)

variable {k} {host} {url : Uri}

theorem toList_text :
    (k.text host).toList = k.scheme.text.toList ++ ("://".toList ++ (host.toList ++ k.path.toList)) := by
  simp only [text, String.toList_append, List.append_assoc]

theorem denotes_iff_places : Uri.Denotes (k.text host).toList url ↔ k.Places host url := by
  -- If nothing in the host ends the authority, the slash of the path does.
  have hslash {rest : List Char} (hr : ∀ c ∈ rest.head?, endsAuthority c = true) :
      ∀ c ∈ (rest ++ k.path.toList).head?, endsAuthority c = true := by
    cases rest with
    | nil =>
      intro c hc
      rw [List.nil_append, k.head?_path] at hc
      cases hc
      decide
    | cons d rest => exact hr
  rw [toList_text, Uri.denotes_web_iff k.isWeb_scheme]
  constructor
  · rintro ⟨name, tail, hname, hends, hpasted, rfl⟩
    have hhost := @List.takeWhile_append_dropWhile _ (!endsAuthority ·) host.toList
    have hfront : ∀ c ∈ host.toList.takeWhile (!endsAuthority ·), (!endsAuthority c) = true :=
      List.all_eq_true.1 List.all_takeWhile
    have hrest : ∀ c ∈ (host.toList.dropWhile (!endsAuthority ·)).head?, endsAuthority c = true := by
      simpa using stop_of_dropWhile (!endsAuthority ·) host.toList
    rw [← hhost, List.append_assoc] at hpasted
    obtain ⟨hname', htail⟩ := append_inj_of_stop hfront (by simpa using hslash hrest)
      (by simpa using hname.endsAuthority_eq_false) (by simpa using hends) hpasted
    rw [hname'] at hhost
    exact .mk hhost.symm hname hrest htail.symm
  · rintro ⟨hhost, hname, hends, htail⟩
    refine ⟨_, _, hname, ?_, ?_, rfl⟩
    · rw [htail]
      exact hslash hends
    · rw [hhost, htail, List.append_assoc]

theorem on?_eq_some_iff :
    k.on? host = some url ↔ (k.text host).utf8ByteSize ≤ longestText ∧ k.Places host url := by
  have hstar : k.text host ≠ "*" := by
    intro h
    have hcolon : ':' ∈ (k.text host).toList := by simp [toList_text]
    rw [h] at hcolon
    exact absurd hcolon (by decide)
  rw [on?_eq, ← denotes_iff_places]
  constructor
  · intro h
    obtain ⟨name, target, hurl⟩ := Uri.ofText?_of_isWeb k.isWeb_scheme (by rwa [text, String.append_assoc] at h)
    obtain ⟨hl, -, hdenotes⟩ := Uri.ofText?_eq_some_iff.1 ⟨h, by rw [hurl]; rfl⟩
    exact ⟨hl, hdenotes⟩
  · rintro ⟨hl, hdenotes⟩
    exact (Uri.ofText?_eq_some_iff.2 ⟨hl, hstar, hdenotes⟩).1

theorem places_iff_of_valid (h : ValidAuthority host.toList) :
    k.Places host url ↔ url = .absolute k.scheme host ⟨k.path, none⟩ := by
  let written : Target.Spelling := ⟨k.path.toList, none, [], k.isPathChar_path, by simp, by simp⟩
  have hne : k.path ≠ "" := by
    intro hempty
    have := k.head?_path
    simp [hempty] at this
  have hwritten : written.target.rooted = ⟨k.path, none⟩ := by
    simp [written, Target.Spelling.target, Target.withPath, Target.rooted, hne]
  have hchars : written.chars = k.path.toList := by simp [written, Target.Spelling.chars]
  constructor
  · rintro ⟨hhost, hname, hends, htail⟩
    rename_i name rest tail
    have hrest : rest = [] := by
      cases rest with
      | nil => rfl
      | cons c rest =>
        have hmem : c ∈ host.toList := by simp [hhost]
        exact absurd hmem (h.not_mem (hends c rfl))
    subst hrest
    rw [List.append_nil] at hhost
    rw [List.nil_append, ← hchars] at htail
    have htarget : tail.target = written.target := by
      have hread := tail.ofChars?_chars
      rw [htail, written.ofChars?_chars, Option.some.injEq] at hread
      exact hread.symm
    rw [htarget, hwritten, ← hhost, String.ofList_toList]
  · rintro rfl
    have hplaces : k.Places host (.absolute k.scheme (String.ofList host.toList) written.target.rooted) :=
      .mk (List.append_nil _).symm h (by simp) (by simp [hchars])
    rw [hwritten, String.ofList_toList] at hplaces
    exact hplaces

theorem Places.on_authority (h : k.Places host url) :
    url.scheme? = some k.scheme ∧ ∃ name rest, host.toList = name ++ rest ∧ ValidAuthority name ∧
      (∀ c ∈ rest.head?, endsAuthority c = true) ∧ url.authority? = some (String.ofList name) := by
  cases h with
  | mk hhost hname hends htail => exact ⟨rfl, _, _, hhost, hname, hends, rfl⟩

theorem known_urls_placed (k : Kind) (host : String) :
    (∀ url, k.on? host = some url ↔ (k.text host).utf8ByteSize ≤ longestText ∧ k.Places host url) ∧
      (∀ url, k.on? host = some url → url.scheme? = some k.scheme ∧
        ∃ name rest, host.toList = name ++ rest ∧ ValidAuthority name ∧
          (∀ c ∈ rest.head?, endsAuthority c = true) ∧ url.authority? = some (String.ofList name)) ∧
      (ValidAuthority host.toList → ∀ url, k.on? host = some url ↔
        (k.text host).utf8ByteSize ≤ longestText ∧ url = .absolute k.scheme host ⟨k.path, none⟩) ∧
      ((∀ c ∈ host.toList, endsAuthority c = false) → ∀ url, k.on? host = some url → ValidAuthority host.toList) := by
  refine ⟨fun url => on?_eq_some_iff, fun url h => (on?_eq_some_iff.1 h).2.on_authority, ?_, ?_⟩
  · intro h url
    rw [on?_eq_some_iff, places_iff_of_valid h]
  · intro h url hurl
    obtain ⟨-, name, rest, hhost, hname, hends, -⟩ := (on?_eq_some_iff.1 hurl).2.on_authority
    cases rest with
    | nil =>
      rw [hhost, List.append_nil]
      exact hname
    | cons c rest =>
      have hc := h c (by simp [hhost])
      rw [hends c rfl] at hc
      cases hc

theorem known_url_may_leave_host :
    ¬ ∀ (k : Kind) (host : String) (url : Uri), k.on? host = some url →
      ValidAuthority host.toList ∧ url.authority? = some host ∧ url.path = k.path ∧ url.query? = none := by
  intro h
  have hvalid := (h .legacy "a.example/b" (.absolute .https "a.example" ⟨"/b/autodiscover/autodiscover.xml", none⟩)
    (by decide +kernel)).1
  exact hvalid.not_mem (by decide : endsAuthority '/' = true) (by decide)

theorem known_urls_placed_literal :
    (∀ c ∈ "[fe80::1%25eth0]:8443".toList, endsAuthority c = false) ∧
      (Kind.soap .x509Cert).on? "[fe80::1%25eth0]:8443" =
        some (.absolute .https "[fe80::1%25eth0]:8443" ⟨"/autodiscover/autodiscover.svc/wssecurity/x509cert", none⟩) ∧
      ValidAuthority "[fe80::1%25eth0]:8443".toList := by
  have hvalid : ValidAuthority "[fe80::1%25eth0]:8443".toList := ⟨by decide, by decide⟩
  have hplaced := known_urls_placed (.soap .x509Cert) "[fe80::1%25eth0]:8443"
  have hurl := (hplaced.2.2.1 hvalid _).2 ⟨by decide +kernel, rfl⟩
  exact ⟨hvalid.endsAuthority_eq_false, hurl, hplaced.2.2.2 hvalid.endsAuthority_eq_false _ hurl⟩

end Kind

end WellKnown

end MailDiscovery
