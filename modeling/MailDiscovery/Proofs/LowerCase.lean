import MailDiscovery.Text.LowerCase

namespace MailDiscovery.Text

namespace LowerCase

namespace Run

/-- No small letter of one run is a capital of the other. Capitals at a distance of two leave room for the letters
between them. -/
def apart (r s : Run) : Bool :=
  Nat.blt s.last r.image || Nat.blt (r.image + (r.last - r.first)) s.first ||
    ((Nat.beq r.step 2 || Nat.beq r.first r.last) && Nat.beq s.step 2 && Nat.beq ((r.image + s.first) % 2) 1)

def reserved : List (Nat × Nat) :=
  [(0x41, 0x5a), (0x130, 0x130), (0x3a3, 0x3a3), (0xd800, 0xdfff)]

def regular (r : Run) : Bool :=
  r.image + (r.last - r.first) < 0x110000 &&
    reserved.all fun range => r.image + (r.last - r.first) < range.1 || range.2 < r.image

variable {r s : Run} {n m : Nat}

theorem small?_eq_some (h : r.small? n = some m) :
    r.first ≤ n ∧ n ≤ r.last ∧ (n - r.first) % r.step = 0 ∧ m = r.image + (n - r.first) := by
  unfold small? at h
  split at h
  · rename_i hn
    exact ⟨hn.1, hn.2.1, hn.2.2, (Option.some.inj h).symm⟩
  · cases h

theorem small?_of_apart (h : r.apart s = true) (hr : r.small? n = some m) : s.small? m = none := by
  obtain ⟨hfirst, hlast, hstep, rfl⟩ := small?_eq_some hr
  simp only [apart, Bool.or_eq_true, Bool.and_eq_true, Nat.blt_eq, Nat.beq_eq] at h
  refine if_neg fun hs => ?_
  rcases h with (h | h) | ⟨⟨hr | hr, hs2⟩, hodd⟩
  · omega
  · omega
  · rw [hr] at hstep
    rw [hs2] at hs
    omega
  · rw [hs2] at hs
    omega

theorem reserved_of_regular (h : r.regular = true) (hr : r.small? n = some m) :
    m < 0x110000 ∧ ∀ range ∈ reserved, m < range.1 ∨ range.2 < m := by
  obtain ⟨hfirst, hlast, -, rfl⟩ := small?_eq_some hr
  simp only [regular, Bool.and_eq_true, decide_eq_true_eq, List.all_eq_true, Bool.or_eq_true] at h
  refine ⟨by omega, fun range hrange => ?_⟩
  have := h.2 range hrange
  omega

end Run

theorem runs_apart : (runs.toList.all fun r => r.regular && runs.toList.all r.apart) = true := by
  decide +kernel

def isSettled (c : Char) : Bool :=
  c != '\u03a3' && smallLetters c == [c]

theorem isSettled_of_reserved {c : Char} (h : ∀ range ∈ Run.reserved, c.toNat < range.1 ∨ range.2 < c.toNat)
    (hnone : ∀ r ∈ runs.toList, r.small? c.toNat = none) : isSettled c = true := by
  simp only [Run.reserved, List.forall_mem_cons] at h
  obtain ⟨hascii, hdotted, hsigma, -⟩ := h
  have hnone : runs.findSome? (·.small? c.toNat) = none := by
    rw [Array.findSome?_eq_none_iff]
    exact fun r hr => hnone r (Array.mem_toList_iff.2 hr)
  have hne (d : Char) (hd : c.toNat ≠ d.toNat) : c ≠ d := fun he => hd (he ▸ rfl)
  have hsmall : smallLetters c = [c] := by
    unfold smallLetters
    split
    · unfold Char.toLower
      rw [dif_neg]
      simp only [ge_iff_le, UInt32.le_iff_toNat_le, Char.toNat_val]
      change ¬(65 ≤ c.toNat ∧ c.toNat ≤ 90)
      omega
    · rw [if_neg (hne _ (by simp; omega)), hnone]
  simp [isSettled, hsmall, hne '\u03a3' (by simp; omega)]

theorem toNat_ofNat {n : Nat} (h : n.isValidChar) : (Char.ofNat n).toNat = n := by
  unfold Char.ofNat
  rw [dif_pos h]
  rfl

theorem isSettled_of_small? {n m : Nat} (h : runs.findSome? (·.small? n) = some m) :
    isSettled (Char.ofNat m) = true := by
  obtain ⟨r, hr, hm⟩ := Array.exists_of_findSome?_eq_some h
  have hall := List.all_eq_true.1 runs_apart r (Array.mem_toList_iff.2 hr)
  rw [Bool.and_eq_true, List.all_eq_true] at hall
  obtain ⟨hlt, hreserved⟩ := Run.reserved_of_regular hall.1 hm
  have hnat : (Char.ofNat m).toNat = m := by
    apply toNat_ofNat
    have := hreserved (0xd800, 0xdfff) (by decide)
    unfold Nat.isValidChar
    omega
  apply isSettled_of_reserved
  · rwa [hnat]
  · rw [hnat]
    exact fun s hs => Run.small?_of_apart (hall.2 s hs) hm

theorem ascii_settled : ((List.range 0x80).all fun n => isSettled (Char.ofNat n).toLower) = true := by
  decide +kernel

theorem exceptions_small? :
    (['\u0307', '\u03c2', '\u03c3'].all fun c => runs.toList.all fun r => (r.small? c.toNat).isNone) = true := by
  decide +kernel

theorem exceptions_settled {c : Char} (h : c ∈ ['\u0307', '\u03c2', '\u03c3']) :
    ∀ r ∈ runs.toList, r.small? c.toNat = none := by
  intro r hr
  have hall := List.all_eq_true.1 exceptions_small? c h
  exact Option.isNone_iff_eq_none.1 (List.all_eq_true.1 hall r hr)

/-- The capital sigma is left out, which has a small letter of its own at the end of a word. -/
theorem isSettled_of_mem_smallLetters {c d : Char} (hc : c ≠ '\u03a3') (h : d ∈ smallLetters c) : isSettled d = true := by
  unfold smallLetters at h
  split at h
  · rename_i hlt
    rw [List.mem_singleton.1 h]
    have hc := List.all_eq_true.1 ascii_settled c.toNat (List.mem_range.2 hlt)
    rwa [Char.ofNat_toNat] at hc
  split at h
  · rcases List.mem_cons.1 h with rfl | h
    · decide +kernel
    · rw [List.mem_singleton.1 h]
      exact isSettled_of_reserved (by decide) (exceptions_settled (by decide))
  split at h
  · rw [List.mem_singleton.1 h]
    exact isSettled_of_small? ‹_›
  · rename_i hnone
    rw [List.mem_singleton.1 h]
    simp [isSettled, smallLetters, *]

theorem isSettled_sigma (before after : List Char) : isSettled (sigma before after) = true := by
  unfold sigma
  split
  · exact isSettled_of_reserved (by decide) (exceptions_settled (by decide))
  · exact isSettled_of_reserved (by decide) (exceptions_settled (by decide))

theorem isSettled_of_mem_lowerAfter {before cs : List Char} : ∀ c ∈ lowerAfter before cs, isSettled c = true := by
  induction cs generalizing before with
  | nil => simp [lowerAfter]
  | cons c rest ih =>
    intro d hd
    rw [lowerAfter, List.mem_append] at hd
    rcases hd with hd | hd
    · split at hd
      · rw [List.mem_singleton.1 hd]
        exact isSettled_sigma before rest
      · exact isSettled_of_mem_smallLetters ‹_› hd
    · exact ih d hd

theorem lowerAfter_of_settled {cs : List Char} (h : ∀ c ∈ cs, isSettled c = true) (before : List Char) :
    lowerAfter before cs = cs := by
  induction cs generalizing before with
  | nil => rfl
  | cons c rest ih =>
    rw [List.forall_mem_cons] at h
    have hc : c ≠ '\u03a3' ∧ smallLetters c = [c] := by simpa [isSettled] using h.1
    rw [lowerAfter, if_neg hc.1, hc.2, ih h.2]
    rfl

end LowerCase

theorem lower_lower (s : String) : lower (lower s) = lower s := by
  unfold lower
  rw [String.toList_ofList, LowerCase.lowerAfter_of_settled LowerCase.isSettled_of_mem_lowerAfter]

end MailDiscovery.Text
