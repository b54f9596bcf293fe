import Mathlib.Data.List.Count
import Mathlib.Data.List.Nodup
import MailDiscovery.Legacy.Answer
import MailDiscovery.Proofs.Requests.Tree

namespace MailDiscovery

namespace Settings

variable {ν : Type} [DecidableEq ν]

def restrict (s : Settings ν) (wanted : List ν) : Settings ν :=
  ⟨fun n => if n ∈ wanted then s.get? n else none⟩

def orElse (s t : Settings ν) : Settings ν :=
  ⟨fun n => (s.get? n).or (t.get? n)⟩

variable {s t : Settings ν} {name : ν} {wanted : List ν}

theorem restrict_nil_orElse : (s.restrict []).orElse t = t := by
  ext n : 2
  simp [orElse, restrict]

theorem restrict_orElse_empty : (s.restrict wanted).orElse ⟨fun _ => none⟩ = s.restrict wanted := by
  ext n : 2
  simp [orElse]

theorem erase_restrict_orElse_insert {value : SettingValue} (h : s.get? name = some value) :
    ((s.erase name).restrict wanted).orElse (t.insert name value) = (s.restrict (name :: wanted)).orElse t := by
  ext n : 2
  by_cases hn : n = name
  · subst hn
    simp [orElse, restrict, erase, insert, h]
  · simp [orElse, restrict, erase, insert, hn]

theorem restrict_cons_of_none (h : s.get? name = none) : s.restrict (name :: wanted) = s.restrict wanted := by
  ext n : 2
  by_cases hn : n = name
  · subst hn
    simp [restrict, h]
  · simp [restrict, hn]

def names (s : Settings UserSetting) : List UserSetting :=
  UserSetting.all.filter fun n => (s.get? n).isSome

theorem mem_names {s : Settings UserSetting} {name : UserSetting} : name ∈ s.names ↔ (s.get? name).isSome = true := by
  simp [names, UserSetting.mem_all]

theorem nodup_names (s : Settings UserSetting) : s.names.Nodup :=
  List.Nodup.filter _ (by decide : UserSetting.all.Nodup)

theorem names_erase (s : Settings UserSetting) (name : UserSetting) : (s.erase name).names = s.names.erase name := by
  rw [(nodup_names s).erase_eq_filter, names, names, List.filter_filter]
  apply List.filter_congr
  intro n _
  by_cases hn : n = name
  · simp [erase, hn]
  · simp [erase, hn]

end Settings

namespace LegacyAnswer

theorem unavailable_injective : Function.Injective unavailable := by
  intro n m h
  have htext : SettingName.text n = SettingName.text m := congrArg SettingError.setting h
  exact WrittenName.text_injective htext

theorem share_eq (found : Settings UserSetting) (r : Response UserSetting) (requested : List UserSetting) :
    share found r requested =
      { r with
        settings := (found.restrict requested).orElse r.settings
        errors := r.errors ++ (requested.diff found.names).map unavailable } := by
  -- The map shrinks with every value that is handed out.
  induction requested generalizing found r with
  | nil => simp [share, Settings.restrict_nil_orElse]
  | cons name requested ih =>
    rw [share]
    cases hname : found.get? name with
    | some value =>
      have hmem : name ∈ found.names := Settings.mem_names.2 (by simp [hname])
      dsimp only
      rw [ih, Settings.erase_restrict_orElse_insert hname, Settings.names_erase, List.cons_diff_of_mem hmem]
    | none =>
      have hmem : name ∉ found.names := fun h => by simpa [hname] using Settings.mem_names.1 h
      dsimp only
      rw [ih, Settings.restrict_cons_of_none hname, List.cons_diff_of_not_mem hmem, List.map_cons, List.append_assoc]
      rfl

theorem toResponse_settings (identity : String) (found : Settings UserSetting) (requested : List UserSetting) :
    toResponse identity requested (.settings found) =
      { identity, settings := found.restrict requested, errors := (requested.diff found.names).map unavailable } := by
  rw [toResponse, share_eq]
  simp only [Settings.restrict_orElse_empty, List.nil_append]

theorem count_names (found : Settings UserSetting) (name : UserSetting) :
    found.names.count name = if (found.get? name).isSome then 1 else 0 := by
  split
  · exact List.count_eq_one_of_mem found.nodup_names (Settings.mem_names.2 ‹_›)
  · exact List.count_eq_zero_of_not_mem fun h => ‹¬_› (Settings.mem_names.1 h)

structure Answers (found : Settings UserSetting) (requested : List UserSetting) (response : Response UserSetting) :
    Prop where
  code : response.code = .noError
  settings : ∀ name, response.settings.get? name = if name ∈ requested then found.get? name else none
  errors : response.errors = (requested.diff found.names).map unavailable
  once : ∀ name, response.errors.count (unavailable name) + (if (response.settings.get? name).isSome then 1 else 0) =
    requested.count name
  both : ∀ name, (response.settings.get? name).isSome ∧ unavailable name ∈ response.errors ↔
    (found.get? name).isSome ∧ 1 < requested.count name

theorem answers_toResponse (identity : String) (found : Settings UserSetting) (requested : List UserSetting) :
    Answers found requested (toResponse identity requested (.settings found)) := by
  rw [toResponse_settings]
  have hcount (name : UserSetting) : ((requested.diff found.names).map unavailable).count (unavailable name) =
      requested.count name - if (found.get? name).isSome then 1 else 0 := by
    rw [List.count_map_of_injective _ _ unavailable_injective, List.count_diff, count_names]
  have hnone {name : UserSetting} (hmem : name ∉ requested) : requested.count name = 0 :=
    List.count_eq_zero_of_not_mem hmem
  constructor
  case code | errors => rfl
  case settings =>
    intro name
    rfl
  case once =>
    intro name
    by_cases hmem : name ∈ requested
    · have hpos : 0 < requested.count name := List.count_pos_iff.2 hmem
      simp only [hcount, Settings.restrict, if_pos hmem]
      split <;> omega
    · simp [hcount, Settings.restrict, hmem, hnone hmem]
  case both =>
    intro name
    rw [← List.count_pos_iff]
    by_cases hmem : name ∈ requested
    · simp only [hcount, Settings.restrict, if_pos hmem]
      constructor
      · rintro ⟨hfound, hleft⟩
        rw [if_pos hfound] at hleft
        exact ⟨hfound, by omega⟩
      · rintro ⟨hfound, htwice⟩
        rw [if_pos hfound]
        exact ⟨hfound, by omega⟩
    · simp [Settings.restrict, hmem, hnone hmem]

theorem requests_answered (identity : String) (found : Settings UserSetting) (requested : List UserSetting) :
    (toResponse identity requested (.settings found)).identity = identity ∧
      Answers found requested (toResponse identity requested (.settings found)) ∧
      (requested.Nodup → (toResponse identity requested (.settings found)).errors =
        (requested.filter fun name => found.get? name = none).map unavailable) := by
  refine ⟨by rw [toResponse_settings], answers_toResponse identity found requested, ?_⟩
  intro hdistinct
  rw [toResponse_settings]
  dsimp only
  rw [hdistinct.sdiff_eq_filter]
  congr 1
  apply List.filter_congr
  intro name _
  simp [Settings.mem_names]

theorem returned_setting_may_be_reported :
    ¬ ∀ (identity : String) (found : Settings UserSetting) (requested : List UserSetting) (name : UserSetting),
      unavailable name ∈ (toResponse identity requested (.settings found)).errors ↔
        name ∈ requested ∧ found.get? name = none := by
  intro h
  have hreported := h "jane@a.example" (Settings.empty.insert .userDisplayName (.string "Jane"))
    [.userDisplayName, .userDisplayName] .userDisplayName
  rw [toResponse_settings] at hreported
  exact absurd (hreported.1 (by decide +kernel)).2 (by decide)

theorem requests_answered_distinct :
    ([.casVersion, .userDisplayName, .userDN] : List UserSetting).Nodup ∧
      (toResponse "jane@a.example" [.casVersion, .userDisplayName, .userDN]
        (.settings (Settings.empty.insert .userDisplayName (.string "Jane")))).errors =
        [unavailable .casVersion, unavailable .userDN] :=
  ⟨by decide, (requests_answered _ _ _).2.2 (by decide)⟩

end LegacyAnswer

end MailDiscovery
