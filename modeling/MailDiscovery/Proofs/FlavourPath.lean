import MailDiscovery.Credential
import MailDiscovery.Proofs.TrailingCharacters

namespace MailDiscovery

namespace Flavour

theorem take_append_suffix {f : Flavour} {path : List Char}
    (h : f.suffix.toList.isSuffixOf (path.map Char.toLower) = true) :
    ∃ suffix, path = path.take (path.length - f.suffix.length) ++ suffix ∧
      suffix.map Char.toLower = f.suffix.toList := by
  obtain ⟨before, hbefore⟩ := List.isSuffixOf_iff_suffix.1 h
  obtain ⟨first, last, rfl, -, hlast⟩ := List.map_eq_append_iff.1 hbefore.symm
  have hlength : last.length = f.suffix.length := by
    rw [← String.length_toList, ← hlast, List.length_map]
  refine ⟨last, ?_, hlast⟩
  rw [List.length_append, ← hlength, Nat.add_sub_cancel, List.take_left]

def IsLongest (f : Flavour) (text : List Char) : Prop :=
  f.suffix.toList <:+ text ∧ ∀ g : Flavour, g.suffix.toList <:+ text → g.suffix.length ≤ f.suffix.length

theorem exists_isLongest (text : List Char) : ∃ f, IsLongest f text := by
  have length_le (g : Flavour) : g.suffix.length ≤ symmetricKey.suffix.length := by cases g <;> decide
  by_cases hsymmetric : symmetricKey.suffix.toList <:+ text
  · exact ⟨symmetricKey, hsymmetric, fun g _ => length_le g⟩
  by_cases hcertificate : x509Cert.suffix.toList <:+ text
  · refine ⟨x509Cert, hcertificate, fun g hg => ?_⟩
    cases g with
    | symmetricKey => exact absurd hg hsymmetric
    | plain | wsSecurity | x509Cert => decide
  by_cases hsecurity : wsSecurity.suffix.toList <:+ text
  · refine ⟨wsSecurity, hsecurity, fun g hg => ?_⟩
    cases g with
    | symmetricKey => exact absurd hg hsymmetric
    | x509Cert => exact absurd hg hcertificate
    | plain | wsSecurity => decide
  · refine ⟨plain, List.nil_suffix, fun g hg => ?_⟩
    cases g with
    | symmetricKey => exact absurd hg hsymmetric
    | x509Cert => exact absurd hg hcertificate
    | wsSecurity => exact absurd hg hsecurity
    | plain => decide

theorem strip_of_isLongest {front slashes : List Char} {f : Flavour} (hs : ∀ c ∈ slashes, c = '/')
    (hf : front.getLast? ≠ some '/') (h : f.IsLongest (front.map Char.toLower)) :
    strip (front ++ slashes) = front.take (front.length - f.suffix.length) := by
  have shorter {g : Flavour} (hg : f.suffix.length < g.suffix.length) :
      ¬g.suffix.toList.isSuffixOf (front.map Char.toLower) = true := by
    rw [List.isSuffixOf_iff_suffix]
    intro hsuffix
    have := h.2 g hsuffix
    omega
  have hown := List.isSuffixOf_iff_suffix.2 h.1
  have hfront : ((front ++ slashes).reverse.dropWhile (· == '/')).reverse = front :=
    Text.dropTrailing_eq_iff.2 ⟨slashes, rfl, hs, hf⟩
  unfold strip
  simp only [hfront]
  cases f with
  | symmetricKey => rw [if_pos hown]
  | x509Cert => rw [if_neg (shorter (by decide)), if_pos hown]
  | wsSecurity => rw [if_neg (shorter (by decide)), if_neg (shorter (by decide)), if_pos hown]
  | plain =>
    rw [if_neg (shorter (by decide)), if_neg (shorter (by decide)), if_neg (shorter (by decide))]
    exact (List.take_length).symm

/-- What a path is without the slashes at its end and the longest suffix of a flavour before them, in any case. -/
inductive Unflavoured (path : List Char) : List Char → Prop
  | mk {rest ending slashes : List Char} {f : Flavour} (hpath : path = rest ++ ending ++ slashes)
      (hs : ∀ c ∈ slashes, c = '/') (hlast : (rest ++ ending).getLast? ≠ some '/')
      (hending : ending.map Char.toLower = f.suffix.toList)
      (hlongest : f.IsLongest ((rest ++ ending).map Char.toLower)) : Unflavoured path rest

theorem unflavoured_iff {path rest : List Char} : Unflavoured path rest ↔ strip path = rest := by
  constructor
  · rintro ⟨rfl, hs, hlast, hending, hlongest⟩
    rename_i ending slashes f
    have hlength : ending.length = f.suffix.length := by
      rw [← String.length_toList, ← hending, List.length_map]
    rw [strip_of_isLongest hs hlast hlongest, List.length_append, ← hlength, Nat.add_sub_cancel, List.take_left]
  · rintro rfl
    obtain ⟨slashes, hpath, hs, hlast⟩ := Text.dropTrailing_eq_iff.1 (Eq.refl (path.reverse.dropWhile (· == '/')).reverse)
    generalize (path.reverse.dropWhile (· == '/')).reverse = front at hpath hlast
    obtain ⟨f, hlongest⟩ := exists_isLongest (front.map Char.toLower)
    obtain ⟨ending, hfront, hending⟩ := take_append_suffix (List.isSuffixOf_iff_suffix.2 hlongest.1)
    have hstrip := strip_of_isLongest hs hlast hlongest
    rw [← hpath] at hstrip
    rw [← hstrip] at hfront
    rw [hfront] at hpath hlast hlongest
    exact .mk hpath hs hlast hending hlongest

theorem eq_of_suffix {f g : Flavour} (hf : f ≠ .plain) (h : f.suffix.toList <:+ g.suffix.toList) : f = g := by
  cases f with
  | plain => exact absurd rfl hf
  | wsSecurity =>
    cases g with
    | wsSecurity => rfl
    | plain | symmetricKey | x509Cert => exact absurd h (by decide)
  | symmetricKey =>
    cases g with
    | symmetricKey => rfl
    | plain | wsSecurity | x509Cert => exact absurd h (by decide)
  | x509Cert =>
    cases g with
    | x509Cert => rfl
    | plain | wsSecurity | symmetricKey => exact absurd h (by decide)

theorem isLongest_append {f : Flavour} (hf : f ≠ .plain) (text : List Char) :
    f.IsLongest (text ++ f.suffix.toList) := by
  refine ⟨List.suffix_append _ _, fun g hg => ?_⟩
  -- A longer suffix would have to end with this one.
  apply Nat.le_of_not_lt
  intro hlonger
  have hsuffix : f.suffix.toList <:+ g.suffix.toList :=
    List.suffix_of_suffix_length_le (List.suffix_append _ _) hg (by simp only [String.length_toList]; omega)
  rw [eq_of_suffix hf hsuffix] at hlonger
  exact Nat.lt_irrefl _ hlonger

theorem strip_append_suffix {f : Flavour} (hf : f ≠ .plain) (rest : List Char) :
    strip (rest ++ f.suffix.toList) = rest := by
  have hlower : f.suffix.toList.map Char.toLower = f.suffix.toList := by cases f <;> decide
  have hlast : (rest ++ f.suffix.toList).getLast? ≠ some '/' := by
    have hend : f.suffix.toList.getLast?.any (· != '/') = true := by
      cases f with
      | plain => exact absurd rfl hf
      | wsSecurity | symmetricKey | x509Cert => decide
    rw [List.getLast?_append]
    intro h
    rcases Option.or_eq_some_iff.1 h with h | ⟨h, -⟩
    · simp [h] at hend
    · simp [h] at hend
  apply unflavoured_iff.1
  refine .mk (List.append_nil _).symm (by simp) hlast hlower ?_
  rw [List.map_append, hlower]
  exact isLongest_append hf _

inductive Bare (path rest : List Char) : Prop
  | plain {slashes : List Char} (hp : path = rest ++ slashes) (hs : ∀ c ∈ slashes, c = '/')
      (hr : rest.getLast? ≠ some '/')
      (hn : ∀ f : Flavour, f ≠ .plain → ¬f.suffix.toList <:+ rest.map Char.toLower) : Bare path rest
  | suffixed {f : Flavour} {suffix slashes : List Char} (hf : f ≠ .plain) (hp : path = rest ++ suffix ++ slashes)
      (hs : ∀ c ∈ slashes, c = '/') (hsuffix : suffix.map Char.toLower = f.suffix.toList) : Bare path rest

theorem Unflavoured.bare {path rest : List Char} (h : Unflavoured path rest) : Bare path rest := by
  cases h with
  | @mk ending slashes f hpath hs hlast hending hlongest =>
    by_cases hf : f = .plain
    · subst hf
      obtain rfl : ending = [] := List.map_eq_nil_iff.1 hending
      rw [List.append_nil] at hpath hlast hlongest
      refine .plain hpath hs hlast fun g hg hsuffix => hg ?_
      have hlength := hlongest.2 g hsuffix
      cases g with
      | plain => rfl
      | wsSecurity | symmetricKey | x509Cert => exact absurd hlength (by decide)
    · exact .suffixed hf hpath hs hending

theorem bare_strip (path : List Char) : Bare path (strip path) :=
  (unflavoured_iff.2 rfl).bare

theorem applyToPath_ne {f : Flavour} (hf : f ≠ .plain) (path : String) : f.applyToPath path ≠ "" := by
  have hsuffix : f.suffix.toList ≠ [] := by
    cases f with
    | plain => exact absurd rfl hf
    | wsSecurity | symmetricKey | x509Cert => decide
  intro h
  have hempty := congrArg String.toList h
  rw [applyToPath, String.toList_append, String.toList_empty, List.append_eq_nil_iff] at hempty
  exact hsuffix hempty.2

end Flavour

theorem Target.rooted_withPath (path : String) (query : Option String) :
    (withPath path query).rooted = ⟨if path = "" then "/" else path, query⟩ := by
  by_cases hpath : path = ""
  · cases query <;> simp [withPath, rooted, hpath]
  · cases query <;> simp [withPath, rooted, hpath]

namespace Credential

variable {credential : Credential}

theorem adjust?_eq_of_absolute (credential : Credential) (scheme : Scheme) (name : String) (target : Target) :
    credential.adjust? (.absolute scheme name target) =
      some (.absolute scheme name (Target.withPath (credential.flavour.applyToPath target.path) target.query).rooted) :=
  rfl

theorem adjust?_absolute (hf : credential.flavour ≠ .plain) (scheme : Scheme) (name : String) (target : Target) :
    credential.adjust? (.absolute scheme name target) =
      some (.absolute scheme name ⟨credential.flavour.applyToPath target.path, target.query⟩) := by
  rw [adjust?_eq_of_absolute, Target.rooted_withPath, if_neg (Flavour.applyToPath_ne hf target.path)]

theorem adjust?_of_scheme (hf : credential.flavour ≠ .plain) {url : Uri} {scheme : Scheme}
    (hs : url.scheme? = some scheme) :
    ∃ adjusted, credential.adjust? url = some adjusted ∧ adjusted.scheme? = url.scheme? ∧
      adjusted.authority? = url.authority? ∧ adjusted.query? = url.query? ∧
      adjusted.path = credential.flavour.applyToPath url.path := by
  cases url with
  | absolute own name target =>
    exact ⟨_, adjust?_absolute hf own name target, by simp only [Uri.scheme?], by simp only [Uri.authority?],
      by simp only [Uri.query?, Uri.target], by simp only [Uri.path, Uri.target]⟩
  | bare | origin => cases hs

end Credential

end MailDiscovery
