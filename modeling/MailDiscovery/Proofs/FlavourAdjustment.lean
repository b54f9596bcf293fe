import MailDiscovery.Proofs.FlavourPath
import MailDiscovery.Proofs.UriSpelling

/-!
Adjusting a URL to one flavour and then to another is adjusting it to the second. What the first one appended is the
longest suffix of a flavour at the end of the new path, and so the second one takes off exactly that.
-/

namespace MailDiscovery

namespace Flavour

theorem applyToPath_applyToPath {g : Flavour} (hg : g ≠ .plain) (f : Flavour) (path : String) :
    f.applyToPath (g.applyToPath path) = f.applyToPath path := by
  unfold applyToPath
  rw [String.toList_append, String.toList_ofList, strip_append_suffix hg]

theorem isPathChar_applyToPath {path : String} (h : ∀ c ∈ path.toList, Uri.isPathChar c = true) (f : Flavour) :
    ∀ c ∈ (f.applyToPath path).toList, Uri.isPathChar c = true := by
  have hsuffix : ∀ c ∈ f.suffix.toList, Uri.isPathChar c = true := List.all_eq_true.1 (by cases f <;> decide)
  intro c hc
  rw [applyToPath, String.toList_append, String.toList_ofList, List.mem_append] at hc
  rcases hc with hc | hc
  · exact h c (Uri.mem_of_mem_strip hc)
  · exact hsuffix c hc

end Flavour

namespace Target

theorem ofText?_text {path : String} {query : Option String} (hpath : ∀ c ∈ path.toList, Uri.isPathChar c = true)
    (hquery : ∀ q, query = some q → ∀ c ∈ q.toList, Uri.isQueryChar c = true) :
    ofText? (text ⟨path, query⟩) = some (withPath path query) := by
  have hspelled := Spelling.ofChars?_chars
    ⟨path.toList, query.map String.toList, [], hpath, by simpa using hquery, by simp⟩
  unfold ofText?
  cases query with
  | none => simpa [Spelling.chars, Spelling.target, text] using hspelled
  | some q => simpa [Spelling.chars, Spelling.target, text] using hspelled

end Target

namespace Credential

/-- Adjusting by text: the path and the query are written out, and read again before the URL is put together. -/
def adjustText? (c : Credential) (url : Uri) : Option Uri := do
  let target ← Target.ofText? (Target.text ⟨c.flavour.applyToPath url.path, url.query?⟩)
  Uri.ofParts? url.scheme? url.authority? target

theorem adjustText?_eq {url : Uri} (h : url.Lawful) (c : Credential) : c.adjustText? url = c.adjust? url := by
  have hread := Target.ofText?_text (Flavour.isPathChar_applyToPath h.target.path c.flavour) h.target.query
  unfold adjustText? adjust?
  rw [show url.query? = url.target.query from rfl, show url.path = url.target.path from rfl, hread]
  rfl

structure Adjusted (f : Flavour) (url adjusted : Uri) : Prop where
  scheme : adjusted.scheme? = url.scheme?
  authority : adjusted.authority? = url.authority?
  query : adjusted.query? = url.query?
  path : ∃ rest, Flavour.Unflavoured url.path.toList rest ∧
    adjusted.path = if String.ofList rest ++ f.suffix = "" then "/" else String.ofList rest ++ f.suffix

theorem adjusted_absolute (f : Credential) (scheme : Scheme) (name : String) (target : Target) :
    Adjusted f.flavour (.absolute scheme name target)
      (.absolute scheme name (Target.withPath (f.flavour.applyToPath target.path) target.query).rooted) := by
  rw [Target.rooted_withPath]
  constructor
  case scheme | authority => simp only [Uri.scheme?, Uri.authority?]
  case query => simp only [Uri.query?, Uri.target]
  case path =>
    refine ⟨Flavour.strip target.path.toList, Flavour.unflavoured_iff.2 ?_, ?_⟩
    · simp only [Uri.path, Uri.target]
    · simp only [Uri.path, Uri.target]
      rw [Flavour.applyToPath]

theorem adjusting_forgets_flavour {url : Uri} {scheme : Scheme} (hs : url.scheme? = some scheme) (f : Credential) :
    ∃ adjusted, f.adjust? url = some adjusted ∧ Adjusted f.flavour url adjusted ∧
      (url.Lawful → f.adjustText? url = some adjusted) ∧
      ∀ g : Credential, g.flavour ≠ .plain →
        ∃ between, g.adjust? url = some between ∧ f.adjust? between = some adjusted := by
  cases url with
  | bare | origin => cases hs
  | absolute own name target =>
    have hadjusted := adjust?_eq_of_absolute f own name target
    refine ⟨_, hadjusted, adjusted_absolute f own name target, ?_, ?_⟩
    · intro hlawful
      rw [adjustText?_eq hlawful, hadjusted]
    · intro g hg
      refine ⟨_, adjust?_absolute hg own name target, ?_⟩
      rw [adjust?_eq_of_absolute, Flavour.applyToPath_applyToPath hg]

def certifiedUrl : Uri :=
  .absolute .https "mail.a.example" ⟨"/wssecurity/WSSecurity/X509Cert//", some "page=2"⟩

theorem adjusting_forgets_flavour_certified :
    certifiedUrl.scheme? = some .https ∧ (partnerToken "token" "reference").flavour ≠ .plain ∧
      ∃ between,
        (partnerToken "token" "reference").adjust? certifiedUrl = some between ∧
        anonymous.adjust? between = some (.absolute .https "mail.a.example" ⟨"/wssecurity", some "page=2"⟩) := by
  have hscheme : certifiedUrl.scheme? = some .https := rfl
  have hown : anonymous.adjust? certifiedUrl =
      some (.absolute .https "mail.a.example" ⟨"/wssecurity", some "page=2"⟩) := by decide +kernel
  obtain ⟨adjusted, hadjusted, -, -, hforgets⟩ := adjusting_forgets_flavour hscheme anonymous
  rw [← hadjusted, hown] at hforgets
  exact ⟨rfl, by decide, hforgets (partnerToken "token" "reference") (by decide)⟩

end Credential

end MailDiscovery
