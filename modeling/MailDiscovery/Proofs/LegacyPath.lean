import MailDiscovery.Service.Locator

/-!
Which paths belong to a legacy service, as a grammar, and the legacy service next to any URL. A segment can be split off
in one way only, so that looking for the document behind each is trying everything.
-/

namespace MailDiscovery

namespace LegacyPath

/-- Simple folding of letter case, as far as it leads to ASCII: apart from the capital letters of ASCII, only the long s
and the Kelvin sign fold to a letter of it. -/
def fold (c : Char) : Char :=
  if c = '\u017f' then 's' else if c = '\u212a' then 'k' else c.toLower

def Spells (word cs : List Char) : Prop :=
  cs.map fold = word.map fold

instance (word cs : List Char) : Decidable (Spells word cs) :=
  inferInstanceAs (Decidable (cs.map fold = word.map fold))

inductive IsSegment : List Char → Prop
  | mk {name : List Char} (hne : name ≠ []) (hslash : '/' ∉ name) : IsSegment (name ++ ['/'])

/-- A letter that folds to itself, and to which nothing beyond ASCII folds but the long s. -/
def isFolded (w : Char) : Bool :=
  fold w == w && w != 'k'

theorem fold_eq {w : Char} (hw : isFolded w = true) : fold w = w := by
  rw [isFolded, Bool.and_eq_true, beq_iff_eq] at hw
  exact hw.1

theorem folds_iff {w c : Char} (hw : isFolded w = true) : folds w c = true ↔ fold c = w := by
  have hfold := fold_eq hw
  have hk : w ≠ 'k' := by
    rintro rfl
    exact absurd hw (by decide)
  by_cases hs : c = '\u017f'
  · subst hs
    have hne : '\u017f' ≠ w := by
      rintro rfl
      exact absurd hfold (by decide)
    rw [folds, (by decide : Char.toLower '\u017f' = '\u017f'), (by decide : fold '\u017f' = 's')]
    simp only [Bool.or_eq_true, beq_iff_eq, hne, Bool.and_eq_true, and_true, false_or]
    exact eq_comm
  by_cases hkelvin : c = '\u212a'
  · subst hkelvin
    have hne : '\u212a' ≠ w := by
      rintro rfl
      exact absurd hfold (by decide)
    rw [folds, (by decide : Char.toLower '\u212a' = '\u212a'), (by decide : fold '\u212a' = 'k')]
    simp [hne, hk.symm]
  · simp [folds, fold, hs, hkelvin]

section

variable {word text cs rest : List Char}

theorem afterWord?_append (hw : ∀ w ∈ word, isFolded w = true) (h : Spells word text) :
    afterWord? word (text ++ rest) = some rest := by
  induction word generalizing text with
  | nil =>
    obtain rfl : text = [] := by simpa [Spells] using h
    rfl
  | cons w word ih =>
    rw [List.forall_mem_cons] at hw
    cases text with
    | nil => cases h
    | cons c text =>
      have hcons : fold c = fold w ∧ Spells word text := by simpa [Spells] using h
      rw [fold_eq hw.1] at hcons
      rw [List.cons_append, afterWord?, if_pos ((folds_iff hw.1).2 hcons.1)]
      exact ih hw.2 hcons.2

theorem exists_of_afterWord? (hw : ∀ w ∈ word, isFolded w = true) (h : afterWord? word cs = some rest) :
    ∃ text, Spells word text ∧ cs = text ++ rest := by
  induction word generalizing cs with
  | nil =>
    cases h
    exact ⟨[], rfl, rfl⟩
  | cons w word ih =>
    rw [List.forall_mem_cons] at hw
    cases cs with
    | nil => cases h
    | cons c cs =>
      rw [afterWord?] at h
      split at h
      · rename_i hc
        obtain ⟨text, htext, rfl⟩ := ih hw.2 h
        have hfold : fold c = fold w := by rw [(folds_iff hw.1).1 hc, fold_eq hw.1]
        refine ⟨c :: text, ?_, rfl⟩
        simpa [Spells, hfold] using htext
      · cases h

theorem afterSlash?_append {name : List Char} (h : '/' ∉ name) : afterSlash? (name ++ '/' :: rest) = some rest := by
  induction name with
  | nil => rfl
  | cons c name ih =>
    rw [List.mem_cons, not_or] at h
    rw [List.cons_append, afterSlash?, if_neg (Ne.symm h.1)]
    exact ih h.2

theorem exists_of_afterSlash? (h : afterSlash? cs = some rest) : ∃ name, '/' ∉ name ∧ cs = name ++ '/' :: rest := by
  induction cs with
  | nil => cases h
  | cons c cs ih =>
    rw [afterSlash?] at h
    split at h
    · rename_i hc
      cases h
      exact ⟨[], List.not_mem_nil, by rw [hc]; rfl⟩
    · rename_i hc
      obtain ⟨name, hname, rfl⟩ := ih h
      refine ⟨c :: name, ?_, rfl⟩
      rw [List.mem_cons, not_or]
      exact ⟨Ne.symm hc, hname⟩

theorem afterSegment?_append {segment : List Char} (h : IsSegment segment) :
    afterSegment? (segment ++ rest) = some rest := by
  obtain @⟨name, hne, hslash⟩ := h
  cases name with
  | nil => exact absurd rfl hne
  | cons c name =>
    rw [List.mem_cons, not_or] at hslash
    simp only [List.cons_append, List.append_assoc, List.nil_append, afterSegment?]
    rw [if_neg (Ne.symm hslash.1)]
    exact afterSlash?_append hslash.2

theorem exists_of_afterSegment? (h : afterSegment? cs = some rest) :
    ∃ segment, IsSegment segment ∧ cs = segment ++ rest := by
  cases cs with
  | nil => cases h
  | cons c cs =>
    rw [afterSegment?] at h
    split at h
    · cases h
    · rename_i hc
      obtain ⟨name, hname, rfl⟩ := exists_of_afterSlash? h
      refine ⟨c :: name ++ ['/'], .mk (List.cons_ne_nil c name) ?_, by simp⟩
      rw [List.mem_cons, not_or]
      exact ⟨Ne.symm hc, hname⟩

end

theorem isFolded_folder : ∀ w ∈ folder, isFolded w = true :=
  List.all_eq_true.1 (by decide)

theorem isFolded_document : ∀ w ∈ document, isFolded w = true :=
  List.all_eq_true.1 (by decide)

inductive Leads : List Char → Prop
  | document {text after : List Char} (h : Spells LegacyPath.document text) : Leads (text ++ after)
  | segment {segment rest : List Char} (hs : IsSegment segment) (h : Leads rest) : Leads (segment ++ rest)

theorem leadsToDocument_eq (cs : List Char) :
    leadsToDocument cs = ((afterWord? document cs).isSome || (afterSegment? cs).any leadsToDocument) := by
  rw [leadsToDocument]
  split
  · rename_i hrest
    rw [hrest, Option.any_some]
  · rename_i hnone
    rw [hnone, Option.any_none]

theorem leadsToDocument_iff {cs : List Char} : leadsToDocument cs = true ↔ Leads cs := by
  constructor
  · intro h
    induction cs using leadsToDocument.induct with
    | case1 cs ih =>
      rw [leadsToDocument_eq, Bool.or_eq_true] at h
      rcases h with h | h
      · obtain ⟨after, hafter⟩ := Option.isSome_iff_exists.1 h
        obtain ⟨text, htext, rfl⟩ := exists_of_afterWord? isFolded_document hafter
        exact .document htext
      · obtain ⟨rest, hrest, h⟩ := (Option.any_eq_true _ _).1 h
        have hleads := ih rest hrest h
        obtain ⟨segment, hsegment, rfl⟩ := exists_of_afterSegment? hrest
        exact .segment hsegment hleads
  · intro h
    induction h with
    | document h =>
      rw [leadsToDocument_eq, afterWord?_append isFolded_document h]
      rfl
    | segment hs h ih => rw [leadsToDocument_eq, afterSegment?_append hs, Option.any_some, ih, Bool.or_true]

theorem occursIn_iff {cs : List Char} :
    occursIn cs = true ↔ ∃ before text rest, Spells folder text ∧ Leads rest ∧ cs = before ++ (text ++ rest) := by
  induction cs with
  | nil =>
    constructor
    · intro h
      cases h
    · rintro ⟨before, text, rest, htext, -, h⟩
      simp only [List.nil_eq, List.append_eq_nil_iff] at h
      obtain ⟨-, rfl, -⟩ := h
      exact absurd htext (by decide)
  | cons c cs ih =>
    rw [occursIn, Bool.or_eq_true, ih]
    constructor
    · rintro (h | ⟨before, text, rest, htext, hrest, rfl⟩)
      · obtain ⟨rest, hafter, h⟩ := (Option.any_eq_true _ _).1 h
        obtain ⟨text, htext, hcs⟩ := exists_of_afterWord? isFolded_folder hafter
        exact ⟨[], text, rest, htext, leadsToDocument_iff.1 h, hcs⟩
      · exact ⟨c :: before, text, rest, htext, hrest, rfl⟩
    · rintro ⟨before, text, rest, htext, hrest, h⟩
      cases before with
      | nil =>
        left
        rw [h, List.nil_append, afterWord?_append isFolded_folder htext, Option.any_some]
        exact leadsToDocument_iff.2 hrest
      | cons d before => exact .inr ⟨before, text, rest, htext, hrest, (List.cons.inj h).2⟩

theorem leads_iff {cs : List Char} :
    Leads cs ↔ ∃ (segments : List (List Char)) (text after : List Char), (∀ s ∈ segments, IsSegment s) ∧
      Spells document text ∧ cs = segments.flatten ++ (text ++ after) := by
  constructor
  · intro h
    induction h with
    | document h => exact ⟨[], _, _, by simp, h, rfl⟩
    | @segment segment rest hs h ih =>
      obtain ⟨segments, text, after, hsegments, htext, rfl⟩ := ih
      refine ⟨segment :: segments, text, after, List.forall_mem_cons.2 ⟨hs, hsegments⟩, htext, ?_⟩
      rw [List.flatten_cons, List.append_assoc]
  · rintro ⟨segments, text, after, hsegments, htext, rfl⟩
    induction segments with
    | nil =>
      rw [List.flatten_nil, List.nil_append]
      exact .document htext
    | cons segment segments ih =>
      rw [List.forall_mem_cons] at hsegments
      rw [List.flatten_cons, List.append_assoc]
      exact .segment hsegments.1 (ih hsegments.2)

end LegacyPath

open LegacyPath (Spells IsSegment)

theorem legacy_path_grammar (path : String) :
    isLegacyPath path = true ↔
      ∃ (before folder : List Char) (segments : List (List Char)) (document after : List Char),
        path.toList = before ++ (folder ++ (segments.flatten ++ (document ++ after))) ∧
        Spells "/autodiscover/".toList folder ∧ (∀ s ∈ segments, IsSegment s) ∧
        Spells "autodiscover.xml".toList document := by
  rw [isLegacyPath, LegacyPath.occursIn_iff]
  constructor
  · rintro ⟨before, folder, rest, hfolder, hrest, hpath⟩
    obtain ⟨segments, document, after, hsegments, hdocument, rfl⟩ := LegacyPath.leads_iff.1 hrest
    exact ⟨before, folder, segments, document, after, hpath, hfolder, hsegments, hdocument⟩
  · rintro ⟨before, folder, segments, document, after, hpath, hfolder, hsegments, hdocument⟩
    exact ⟨before, folder, _, hfolder,
      LegacyPath.leads_iff.2 ⟨segments, document, after, hsegments, hdocument, rfl⟩, hpath⟩

-- Behind the first folder stands an empty segment, so that only a second one can lead to the document.
example : isLegacyPath "/autodiscover//x/autodiscover.xml" = false ∧
    isLegacyPath "/autodiscover//Autodiscover/x/AUTODI\u017fCOVER.xml?" = true := by
  decide +kernel

namespace WellKnown

theorem isLegacyPath_legacyPath : isLegacyPath legacyPath = true := by
  have hleads : LegacyPath.Leads LegacyPath.document := by
    rw [← List.append_nil LegacyPath.document]
    exact .document rfl
  exact LegacyPath.occursIn_iff.2 ⟨[], LegacyPath.folder, LegacyPath.document, rfl, hleads, by decide⟩

variable {url : Uri}

theorem legacyOn?_of_legacy (h : isLegacyPath url.path = true) : legacyOn? url = some url :=
  if_pos h

theorem legacyOn?_of_authority {name : String} (hn : url.authority? = some name) (h : isLegacyPath url.path = false) :
    legacyOn? url = some (.absolute (url.scheme?.getD .https) name ⟨legacyPath, none⟩) := by
  have hrooted : Target.rooted ⟨legacyPath, none⟩ = ⟨legacyPath, none⟩ := by decide
  rw [legacyOn?, h, hn, Uri.ofParts?, hrooted]
  rfl

structure Legacy (url placed : Uri) : Prop where
  path : isLegacyPath placed.path = true
  authority : placed.authority? = url.authority?
  scheme : placed.scheme? = some (url.scheme?.getD .https)
  same : isLegacyPath url.path = true → placed = url
  moved : isLegacyPath url.path = false → placed.path = legacyPath ∧ placed.query? = none
  again : legacyOn? placed = some placed

theorem isSome_authority?_of_ofUrl {locator : Locator} (h : Locator.ofUrl url = .ok locator) :
    url.authority?.isSome = true := by
  unfold Locator.ofUrl at h
  split at h
  · cases h
  · rename_i host hhost
    rw [← Option.isSome_map, ← Uri.host?, hhost]
    rfl

theorem isSome_scheme?_of_legacy (ha : url.authority?.isSome = true) (h : isLegacyPath url.path = true) :
    url.scheme?.isSome = true := by
  cases url with
  | absolute scheme name target => rfl
  | bare name =>
    have hnone : isLegacyPath (Uri.bare name).path = false := (by decide : isLegacyPath "" = false)
    rw [hnone] at h
    cases h
  | origin target => cases ha

theorem legacy_service_beside {locator : Locator} (h : Locator.ofUrl url = .ok locator) :
    ∃ placed, legacyOn? url = some placed ∧ Legacy url placed := by
  have hauthority := isSome_authority?_of_ofUrl h
  by_cases hlegacy : isLegacyPath url.path = true
  · obtain ⟨scheme, hscheme⟩ := Option.isSome_iff_exists.1 (isSome_scheme?_of_legacy hauthority hlegacy)
    refine ⟨url, legacyOn?_of_legacy hlegacy, hlegacy, rfl, ?_, fun _ => rfl, ?_, legacyOn?_of_legacy hlegacy⟩
    · rw [hscheme, Option.getD_some]
    · intro hnot
      rw [hlegacy] at hnot
      cases hnot
  · rw [Bool.not_eq_true] at hlegacy
    obtain ⟨name, hname⟩ := Option.isSome_iff_exists.1 hauthority
    refine ⟨_, legacyOn?_of_authority hname hlegacy, isLegacyPath_legacyPath, hname.symm, rfl, ?_, fun _ => ⟨rfl, rfl⟩,
      legacyOn?_of_legacy isLegacyPath_legacyPath⟩
    intro hown
    rw [hlegacy] at hown
    cases hown

theorem legacy_service_beside_bare :
    Locator.ofUrl (.bare "mail.a.example:8443") = .ok (.url (.bare "mail.a.example:8443") "mail.a.example") ∧
      ∃ placed, legacyOn? (.bare "mail.a.example:8443") = some placed ∧
        placed.scheme? = some .https ∧ placed.authority? = some "mail.a.example:8443" ∧ placed.path = legacyPath := by
  have hhost : (Uri.bare "mail.a.example:8443").host? = some "mail.a.example" := by decide +kernel
  have hlocator : Locator.ofUrl (.bare "mail.a.example:8443") =
      .ok (.url (.bare "mail.a.example:8443") "mail.a.example") := by rw [Locator.ofUrl, hhost]
  obtain ⟨placed, hplaced, hlegacy⟩ := legacy_service_beside hlocator
  exact ⟨hlocator, placed, hplaced, hlegacy.scheme, hlegacy.authority, (hlegacy.moved (by decide)).1⟩

end WellKnown

end MailDiscovery
