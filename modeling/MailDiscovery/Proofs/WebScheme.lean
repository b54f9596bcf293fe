import MailDiscovery.Endpoint.WellKnown

namespace MailDiscovery

namespace Scheme

def IsWeb (scheme : Scheme) : Prop :=
  scheme = .http ∨ scheme = .https

theorem isWeb_http : IsWeb .http :=
  .inl rfl

theorem isWeb_https : IsWeb .https :=
  .inr rfl

end Scheme

namespace Uri

theorem splitScheme?_of_isWeb {scheme : Scheme} (h : scheme.IsWeb) (rest : List Char) :
    splitScheme? (scheme.text.toList ++ ("://".toList ++ rest)) = some (some scheme, rest) := by
  rcases h with rfl | rfl
  · rfl
  · rfl

theorem ofText?_of_isWeb {scheme : Scheme} (hs : scheme.IsWeb) {rest : String} {url : Uri}
    (h : ofText? (scheme.text ++ "://" ++ rest) = some url) : ∃ name target, url = .absolute scheme name target := by
  have hchars : (scheme.text ++ "://" ++ rest).toList = scheme.text.toList ++ ("://".toList ++ rest.toList) := by
    simp only [String.toList_append, List.append_assoc]
  have hread : ofChars? (scheme.text.toList ++ ("://".toList ++ rest.toList)) = some url := by
    unfold ofText? at h
    split at h
    · cases h
    · rw [hchars] at h
      rcases hs with rfl | rfl
      · exact h
      · exact h
  unfold ofChars? at hread
  rw [splitScheme?_of_isWeb hs] at hread
  simp only [Option.bind_eq_bind, Option.bind_some] at hread
  split at hread
  · cases hread
  · cases ht : Target.ofChars? (rest.toList.dropWhile (!endsAuthority ·)) with
    | none => simp [ht] at hread
    | some target =>
      simp only [ht, Option.bind_some, Option.some.injEq] at hread
      exact ⟨_, _, hread.symm⟩

theorem isSome_host?_of_scheme? {url : Uri} {scheme : Scheme} (h : url.scheme? = some scheme) :
    url.host?.isSome = true := by
  cases url with
  | absolute own name target => rfl
  | bare name => cases h
  | origin target => cases h

theorem scheme?_of_text {u url : Uri} {scheme : Scheme} (hs : scheme.IsWeb) (hu : u.scheme? = some scheme)
    (h : ofText? u.text = some url) : url.scheme? = some scheme := by
  cases u with
  | absolute own name target =>
    cases hu
    rw [text, String.append_assoc] at h
    obtain ⟨name, target, rfl⟩ := ofText?_of_isWeb hs h
    rfl
  | bare name => cases hu
  | origin target => cases hu

end Uri

namespace WellKnown

theorem scheme?_of_legacyHttps? {host : String} {url : Uri} (h : legacyHttps? host = some url) :
    url.scheme? = some .https := by
  unfold legacyHttps? at h
  rw [String.append_assoc] at h
  obtain ⟨name, target, rfl⟩ := Uri.ofText?_of_isWeb Scheme.isWeb_https h
  rfl

theorem isSome_host?_of_soap? {host : String} {flavour : Flavour} {url : Uri} (h : soap? host flavour = some url) :
    url.host?.isSome = true := by
  unfold soap? at h
  rw [String.append_assoc, String.append_assoc] at h
  obtain ⟨name, target, rfl⟩ := Uri.ofText?_of_isWeb Scheme.isWeb_https h
  rfl

end WellKnown

end MailDiscovery
