namespace MailDiscovery.Text

variable {c : Char} {cs front last : List Char}

theorem exists_trailing (c : Char) (cs : List Char) :
    ∃ last, cs = (cs.reverse.dropWhile (· == c)).reverse ++ last ∧ ∀ d ∈ last, d = c := by
  refine ⟨(cs.reverse.takeWhile (· == c)).reverse, ?_, fun d hd => ?_⟩
  · rw [← List.reverse_append, List.takeWhile_append_dropWhile, List.reverse_reverse]
  · have hall : ∀ d ∈ cs.reverse.takeWhile (· == c), (d == c) = true := List.all_eq_true.1 List.all_takeWhile
    simpa using hall d (List.mem_reverse.1 hd)

theorem getLast?_dropTrailing (c : Char) (cs : List Char) :
    (cs.reverse.dropWhile (· == c)).reverse.getLast? ≠ some c := by
  intro h
  rw [List.getLast?_reverse] at h
  have hstop := List.head?_dropWhile_not (· == c) cs.reverse
  rw [h] at hstop
  simp at hstop

theorem dropTrailing_append (hl : ∀ d ∈ last, d = c) (hf : front.getLast? ≠ some c) :
    ((front ++ last).reverse.dropWhile (· == c)).reverse = front := by
  rw [List.reverse_append, List.dropWhile_append_of_pos (by simpa using hl)]
  cases hreverse : front.reverse with
  | nil => simpa using hreverse.symm
  | cons d rest =>
    have hd : d ≠ c := by
      rintro rfl
      apply hf
      rw [List.getLast?_eq_head?_reverse, hreverse]
      rfl
    rw [List.dropWhile_cons_of_neg (by simpa using hd), ← hreverse, List.reverse_reverse]

theorem dropTrailing_eq_iff : (cs.reverse.dropWhile (· == c)).reverse = front ↔
    ∃ last, cs = front ++ last ∧ (∀ d ∈ last, d = c) ∧ front.getLast? ≠ some c := by
  constructor
  · rintro rfl
    obtain ⟨last, hcs, hlast⟩ := exists_trailing c cs
    exact ⟨last, hcs, hlast, getLast?_dropTrailing c cs⟩
  · rintro ⟨last, rfl, hlast, hfront⟩
    exact dropTrailing_append hlast hfront

end MailDiscovery.Text
