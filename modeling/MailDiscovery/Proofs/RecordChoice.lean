import MailDiscovery.Proofs.TrailingCharacters
import MailDiscovery.ServiceRecord
import Mathlib.Data.List.Sort

namespace MailDiscovery

namespace ServiceRecord

def Eligible (r : ServiceRecord) : Prop :=
  r.port = 443 ∧ r.target ≠ "" ∧ r.target ≠ "."

theorem isEligible_iff {r : ServiceRecord} : r.isEligible = true ↔ r.Eligible := by
  simp [isEligible, expectedPort, Eligible, and_assoc]

instance (r : ServiceRecord) : Decidable r.Eligible :=
  decidable_of_iff _ isEligible_iff

def candidates (records : List ServiceRecord) : List ServiceRecord :=
  records.filter fun r => r.Eligible

/-- The record at a position is eligible, and every other eligible one has a greater priority, or the same and a smaller
weight, or both the same and a later position. -/
structure Chosen (records : List ServiceRecord) (i : Nat) (r : ServiceRecord) : Prop where
  here : records[i]? = some r
  eligible : r.Eligible
  first : ∀ j s, records[j]? = some s → s.Eligible →
    r.priority < s.priority ∨ (r.priority = s.priority ∧ s.weight < r.weight) ∨
      (r.priority = s.priority ∧ r.weight = s.weight ∧ i ≤ j)

def Trimmed (target host : String) : Prop :=
  ∃ dots, target.toList = host.toList ++ dots ∧ (∀ c ∈ dots, c = '.') ∧ host.toList.getLast? ≠ some '.'

def inOrder (r s : ServiceRecord) : Bool :=
  !s.isBetter r

variable {records others : List ServiceRecord} {r s : ServiceRecord} {i j : Nat}

theorem mem_candidates : r ∈ candidates records ↔ r ∈ records ∧ r.Eligible := by
  rw [candidates, List.mem_filter, decide_eq_true_eq]

theorem candidates_cons (r : ServiceRecord) (records : List ServiceRecord) :
    candidates (r :: records) = if r.Eligible then r :: candidates records else candidates records := by
  simp [candidates, List.filter_cons]

theorem select?_eq (records : List ServiceRecord) : select? records = (best? (candidates records)).map host := by
  have hfilter : records.filter isEligible = candidates records :=
    List.filter_congr fun r _ => by rw [Bool.eq_iff_iff, decide_eq_true_eq, isEligible_iff]
  rw [select?, hfilter]

theorem trimmed_iff {host : String} : Trimmed r.target host ↔ r.host = host := by
  rw [Trimmed, ← Text.dropTrailing_eq_iff, ← String.toList_inj, ServiceRecord.host, String.toList_ofList]

theorem isBetter_iff : r.isBetter s = true ↔
    r.priority < s.priority ∨ r.priority = s.priority ∧ s.weight < r.weight := by
  simp [isBetter]

theorem best?_eq_none_iff : best? records = none ↔ records = [] := by
  cases records with
  | nil => simp [best?]
  | cons r records =>
    rw [best?]
    split
    · simp
    · split <;> simp

theorem best?_candidates_eq_none_iff : best? (candidates records) = none ↔ ∀ r ∈ records, ¬r.Eligible := by
  rw [best?_eq_none_iff, List.eq_nil_iff_forall_not_mem]
  simp only [mem_candidates, not_and]

theorem Chosen.mem_candidates (h : Chosen records i r) : r ∈ candidates records :=
  ServiceRecord.mem_candidates.2 ⟨List.mem_of_getElem? h.here, h.eligible⟩

theorem Chosen.unique (h : Chosen records i r) (h' : Chosen records j s) : i = j ∧ r = s := by
  have hr := h.first j s h'.here h'.eligible
  have hs := h'.first i r h.here h.eligible
  obtain rfl : i = j := by omega
  refine ⟨rfl, Option.some.inj ?_⟩
  rw [← h.here, h'.here]

theorem Chosen.later (h : Chosen records i s) (hr : r.Eligible → s.isBetter r = true) :
    Chosen (r :: records) (i + 1) s where
  here := h.here
  eligible := h.eligible
  first j other hj ho := by
    cases j with
    | zero =>
      cases hj
      exact (isBetter_iff.1 (hr ho)).imp_right .inl
    | succ j =>
      have hother := h.first j other hj ho
      omega

theorem Chosen.sooner (h : Chosen records i s) (hr : r.Eligible) (hs : s.isBetter r = false) :
    Chosen (r :: records) 0 r where
  here := rfl
  eligible := hr
  first j other hj ho := by
    rw [← Bool.not_eq_true, isBetter_iff] at hs
    cases j with
    | zero =>
      cases hj
      omega
    | succ j =>
      have hother := h.first j other hj ho
      omega

theorem chosen_alone (hr : r.Eligible) (h : ∀ s ∈ records, ¬s.Eligible) : Chosen (r :: records) 0 r where
  here := rfl
  eligible := hr
  first j other hj ho := by
    cases j with
    | zero =>
      cases hj
      omega
    | succ j => exact absurd ho (h other (List.mem_of_getElem? hj))

theorem chosen_of_best? (h : best? (candidates records) = some s) : ∃ i, Chosen records i s := by
  induction records generalizing s with
  | nil => cases h
  | cons r records ih =>
    by_cases hr : r.Eligible
    · rw [candidates_cons, if_pos hr, best?] at h
      cases hbest : best? (candidates records) with
      | none =>
        rw [hbest] at h
        cases h
        exact ⟨0, chosen_alone hr (best?_candidates_eq_none_iff.1 hbest)⟩
      | some t =>
        obtain ⟨i, ht⟩ := ih hbest
        rw [hbest] at h
        dsimp only at h
        split at h
        · cases h
          exact ⟨i + 1, ht.later fun _ => ‹_›⟩
        · cases h
          exact ⟨0, ht.sooner hr (Bool.eq_false_iff.2 ‹_›)⟩
    · rw [candidates_cons, if_neg hr] at h
      obtain ⟨i, hs⟩ := ih h
      exact ⟨i + 1, hs.later fun he => absurd he hr⟩

theorem exists_chosen (hr : r ∈ candidates records) :
    ∃ i s, best? (candidates records) = some s ∧ Chosen records i s := by
  cases hbest : best? (candidates records) with
  | none =>
    obtain ⟨hmem, heligible⟩ := mem_candidates.1 hr
    exact absurd heligible (best?_candidates_eq_none_iff.1 hbest r hmem)
  | some s =>
    obtain ⟨i, hs⟩ := chosen_of_best? hbest
    exact ⟨i, s, rfl, hs⟩

theorem best?_iff_chosen : best? (candidates records) = some r ↔ ∃ i, Chosen records i r := by
  refine ⟨chosen_of_best?, fun ⟨i, hr⟩ => ?_⟩
  obtain ⟨j, s, hbest, hs⟩ := exists_chosen hr.mem_candidates
  rw [hbest, (hr.unique hs).2]

theorem Chosen.le (h : Chosen records i r) (hs : s ∈ candidates records) :
    r.priority < s.priority ∨ r.priority = s.priority ∧ s.weight ≤ r.weight := by
  obtain ⟨hmem, heligible⟩ := ServiceRecord.mem_candidates.1 hs
  obtain ⟨j, hj⟩ := List.mem_iff_getElem?.1 hmem
  have hfirst := h.first j s hj heligible
  omega

theorem Chosen.tied (h : Chosen records i r) (hp : (candidates others).Perm (candidates records)) :
    ∃ j s, Chosen others j s ∧ s.priority = r.priority ∧ s.weight = r.weight := by
  have hr : r ∈ candidates others := hp.mem_iff.2 h.mem_candidates
  obtain ⟨j, s, -, hs⟩ := exists_chosen hr
  have hsr := hs.le hr
  have hrs := h.le (hp.mem_iff.1 hs.mem_candidates)
  exact ⟨j, s, hs, by omega, by omega⟩

theorem inOrder_iff : inOrder r s = true ↔
    r.priority < s.priority ∨ r.priority = s.priority ∧ s.weight ≤ r.weight := by
  rw [inOrder, Bool.not_eq_true', ← Bool.not_eq_true, isBetter_iff]
  omega

theorem inOrder_trans (r s t : ServiceRecord) (hrs : inOrder r s = true) (hst : inOrder s t = true) :
    inOrder r t = true := by
  rw [inOrder_iff] at *
  omega

theorem inOrder_total (r s : ServiceRecord) : (inOrder r s || inOrder s r) = true := by
  rw [Bool.or_eq_true, inOrder_iff, inOrder_iff]
  omega

theorem best?_eq_head?_mergeSort (records : List ServiceRecord) : best? records = (records.mergeSort inOrder).head? := by
  induction records with
  | nil => simp [best?]
  | cons r records ih =>
    -- The sorted list is that of the rest, with the first record put behind those alone that are better.
    obtain ⟨before, after, hall, hrest, hbefore⟩ := List.mergeSort_cons inOrder_trans inOrder_total r records
    rw [best?, ih, hrest, hall]
    cases before with
    | nil =>
      cases after with
      | nil => rfl
      | cons s after =>
        have hsorted := List.pairwise_mergeSort inOrder_trans inOrder_total (r :: records)
        rw [hall] at hsorted
        have hrs : inOrder r s = true := List.rel_of_pairwise_cons hsorted List.mem_cons_self
        have hs : s.isBetter r = false := by simpa only [inOrder, Bool.not_eq_true'] using hrs
        simp [hs]
    | cons s before =>
      have hs : s.isBetter r = true := by simpa [inOrder] using hbefore s List.mem_cons_self
      simp [hs]

theorem first_of_best_selected (records : List ServiceRecord) :
    (select? records = none ↔ ∀ r ∈ records, ¬r.Eligible) ∧
      (∀ host, select? records = some host ↔ ∃ i r, Chosen records i r ∧ Trimmed r.target host) ∧
      select? records = ((candidates records).mergeSort inOrder).head?.map host ∧
      (∀ others, candidates others = candidates records → select? others = select? records) ∧
      ∀ others, (candidates others).Perm (candidates records) → ∀ i r, Chosen records i r →
        ∃ j s, Chosen others j s ∧ s.priority = r.priority ∧ s.weight = r.weight := by
  simp only [select?_eq]
  refine ⟨?_, fun host => ?_, ?_, fun others h => ?_, fun others hp i r h => h.tied hp⟩
  · rw [Option.map_eq_none_iff, best?_candidates_eq_none_iff]
  · simp only [Option.map_eq_some_iff, best?_iff_chosen, trimmed_iff]
    exact ⟨fun ⟨r, ⟨i, hr⟩, hhost⟩ => ⟨i, r, hr, hhost⟩, fun ⟨i, r, hr, hhost⟩ => ⟨r, ⟨i, hr⟩, hhost⟩⟩
  · rw [best?_eq_head?_mergeSort]
  · rw [h]

def listed : List ServiceRecord := [
  ⟨0, 0, 80, "plain.example."⟩,
  ⟨10, 5, 443, "backup.example."⟩,
  ⟨5, 20, 443, "first.example.."⟩,
  ⟨5, 20, 443, "second.example."⟩]

def listedOtherwise : List ServiceRecord := [
  ⟨5, 20, 443, "second.example."⟩,
  ⟨0, 0, 443, "."⟩,
  ⟨10, 5, 443, "backup.example."⟩,
  ⟨5, 20, 443, "first.example.."⟩]

theorem first_of_best_selected_listed :
    candidates (⟨0, 0, 443, "."⟩ :: listed) = candidates listed ∧
      select? (⟨0, 0, 443, "."⟩ :: listed) = select? listed ∧
      (candidates listedOtherwise).Perm (candidates listed) ∧ ∃ i r, Chosen listed i r ∧ Trimmed r.target "first.example" ∧
        ∃ j s, Chosen listedOtherwise j s ∧ s.priority = r.priority ∧ s.weight = r.weight := by
  have hsame : candidates (⟨0, 0, 443, "."⟩ :: listed) = candidates listed := by decide
  have hperm : (candidates listedOtherwise).Perm (candidates listed) := by decide
  obtain ⟨-, hhost, -, hothers, htied⟩ := first_of_best_selected listed
  obtain ⟨i, r, hr, htrimmed⟩ := (hhost "first.example").1 (by decide)
  exact ⟨hsame, hothers _ hsame, hperm, i, r, hr, htrimmed, htied _ hperm i r hr⟩

end ServiceRecord

end MailDiscovery
