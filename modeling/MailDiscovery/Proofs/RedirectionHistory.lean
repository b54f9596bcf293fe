import Mathlib.Data.List.Nodup
import MailDiscovery.Redirection

namespace MailDiscovery

namespace Redirection

inductive Step where
  | hop
  | visit (address : String)
  deriving DecidableEq, Repr

inductive Outcome where
  | followed
  | refused
  | visited (address : String)
  deriving DecidableEq, Repr

def step (r : Redirection) : Step → Outcome × Redirection
  | .hop =>
    match r.hop? with
    | none => (.refused, r)
    | some next => (.followed, next)
  | .visit address => (.visited (r.visit address).2, (r.visit address).1)

def run (r : Redirection) : List Step → List Outcome × Redirection
  | [] => ([], r)
  | s :: steps => ((r.step s).1 :: (run (r.step s).2 steps).1, (run (r.step s).2 steps).2)

def Step.address? : Step → Option String
  | .hop => none
  | .visit address => some address

def history (address : Option String) (steps : List Step) : List String :=
  (address.toList ++ steps.filterMap Step.address?).map Text.lower

variable {r : Redirection} {address : Option String} {directory : Bool} {steps : List Step} {outcomes : List Outcome}

theorem history_append_hop (address : Option String) (steps : List Step) :
    history address (steps ++ [.hop]) = history address steps := by
  simp [history, Step.address?]

theorem history_append_visit (address : Option String) (steps : List Step) (target : String) :
    history address (steps ++ [.visit target]) = history address steps ++ [Text.lower target] := by
  simp [history, Step.address?]

theorem history_append (address : Option String) (steps more : List Step) :
    history address (steps ++ more) = history address steps ++ history none more := by
  simp [history]

/-- What each step preserves: the hops that are left are those that were not asked for, and the addresses that were
tried are those of the history. -/
structure Remembers (address : Option String) (directory : Bool) (steps : List Step) (outcomes : List Outcome)
    (r : Redirection) : Prop where
  left : r.left = limit - steps.count .hop
  followed : outcomes.count .followed = min (steps.count .hop) limit
  tried : ∀ other, other ∈ r.tried ↔ other ∈ history address steps
  directory : r.directory = true ↔ directory = true ∧ (history address steps).Nodup

theorem remembers_start (address : Option String) (directory : Bool) :
    Remembers address directory [] [] (start address directory) where
  left := rfl
  followed := rfl
  tried other := by simp [start, history]
  directory := by cases address <;> simp [start, history]

theorem step_hop (r : Redirection) :
    r.step .hop = if r.left = 0 then (.refused, r) else (.followed, { r with left := r.left - 1 }) := by
  simp only [step]
  cases hhop : r.hop? with
  | none => rw [if_pos (left_eq_zero_of_hop? hhop)]
  | some next =>
    have hleft := left_of_hop? hhop
    obtain ⟨htried, hdirectory⟩ := remembered_of_hop? hhop
    rw [if_neg (by omega), ← htried, ← hdirectory, hleft]
    rfl

theorem tried_visit (r : Redirection) (address other : String) :
    other ∈ (r.visit address).1.tried ↔ other ∈ r.tried ∨ other = Text.lower address := by
  simp only [visit, List.contains_iff_mem]
  split
  · rename_i hseen
    exact ⟨.inl, fun h => h.elim id fun h => h ▸ hseen⟩
  · rw [List.mem_cons, or_comm]

theorem directory_visit (r : Redirection) (address : String) :
    (r.visit address).1.directory = true ↔ r.directory = true ∧ Text.lower address ∉ r.tried := by
  simp only [visit, List.contains_iff_mem]
  split
  · rename_i hseen
    simp [hseen]
  · rename_i hnew
    simp [hnew]

theorem Remembers.step_hop (h : Remembers address directory steps outcomes r) :
    Remembers address directory (steps ++ [.hop]) (outcomes ++ [(r.step .hop).1]) (r.step .hop).2 := by
  have hleft := h.left
  have hfollowed := h.followed
  have hsteps : (steps ++ [Step.hop]).count .hop = steps.count .hop + 1 := by
    rw [List.count_append, List.count_singleton_self]
  rw [Redirection.step_hop]
  split
  · rename_i hnone
    have hrefused : (outcomes ++ [Outcome.refused]).count .followed = outcomes.count .followed := by
      simp [List.count_append]
    exact {
      left := by
        dsimp only
        omega
      followed := by
        dsimp only
        omega
      tried := history_append_hop address steps ▸ h.tried
      directory := history_append_hop address steps ▸ h.directory }
  · have hone : (outcomes ++ [Outcome.followed]).count .followed = outcomes.count .followed + 1 := by
      rw [List.count_append, List.count_singleton_self]
    exact {
      left := by
        dsimp only
        omega
      followed := by
        dsimp only
        omega
      tried := history_append_hop address steps ▸ h.tried
      directory := history_append_hop address steps ▸ h.directory }

theorem Remembers.step_visit (h : Remembers address directory steps outcomes r) (target : String) :
    Remembers address directory (steps ++ [.visit target]) (outcomes ++ [(r.step (.visit target)).1])
      (r.step (.visit target)).2 where
  left := by simpa [step, left_visit, List.count_append] using h.left
  followed := by simpa [step, List.count_append] using h.followed
  tried other := by
    rw [history_append_visit, List.mem_append, List.mem_singleton, ← h.tried]
    exact tried_visit r target other
  directory := by
    have hfresh : (history address steps ++ [Text.lower target]).Nodup ↔
        (history address steps).Nodup ∧ Text.lower target ∉ r.tried := by
      rw [List.nodup_append_comm, List.singleton_append, List.nodup_cons, h.tried, and_comm]
    rw [history_append_visit, hfresh, ← and_assoc, ← h.directory]
    exact directory_visit r target

theorem Remembers.step (h : Remembers address directory steps outcomes r) (s : Step) :
    Remembers address directory (steps ++ [s]) (outcomes ++ [(r.step s).1]) (r.step s).2 := by
  cases s with
  | hop => exact h.step_hop
  | visit target => exact h.step_visit target

theorem Remembers.run (h : Remembers address directory steps outcomes r) (more : List Step) :
    Remembers address directory (steps ++ more) (outcomes ++ (r.run more).1) (r.run more).2 := by
  induction more generalizing steps outcomes r with
  | nil => simpa only [Redirection.run, List.append_nil] using h
  | cons s more ih => simpa only [Redirection.run, List.append_assoc, List.singleton_append] using ih (h.step s)

structure Recounts (address : Option String) (directory : Bool) (steps : List Step) (outcomes : List Outcome)
    (r : Redirection) : Prop where
  hops : r.hops = min (steps.count .hop) 10
  hop : (r.step .hop).1 = if outcomes.count .followed = 10 then .refused else .followed
  refused : (r.step .hop).1 = .refused → (r.step .hop).2 = r
  visit : ∀ target, (r.step (.visit target)).1 = .visited (Text.lower target) ∧
    (r.step (.visit target)).2.hops = r.hops
  directory : r.directory = true ↔ directory = true ∧ (history address steps).Nodup
  disabled : r.directory = false → ∀ more, (r.run more).2.directory = false

theorem Remembers.recounts (h : Remembers address directory steps outcomes r) :
    Recounts address directory steps outcomes r where
  hops := by
    have hleft := h.left
    simp only [Redirection.hops, limit] at hleft ⊢
    omega
  hop := by
    have hleft := h.left
    have hfollowed := h.followed
    simp only [limit] at hleft hfollowed
    rw [Redirection.step_hop]
    by_cases hnone : r.left = 0
    · rw [if_pos hnone, if_pos (by omega)]
    · rw [if_neg hnone, if_neg (by omega)]
  refused := by
    rw [Redirection.step_hop]
    split
    · exact fun _ => rfl
    · rintro ⟨⟩
  visit target := by simp [Redirection.step, snd_visit, Redirection.hops, left_visit]
  directory := h.directory
  disabled := by
    intro hdisabled more
    -- A history in which an address comes back has one coming back however it goes on.
    rw [← Bool.not_eq_true, h.directory] at hdisabled
    rw [← Bool.not_eq_true, (h.run more).directory, history_append]
    exact fun ⟨henabled, hdistinct⟩ => hdisabled ⟨henabled, hdistinct.of_append_left⟩

/-- After any history of redirections, the hops are those that were asked for, up to ten; the eleventh is refused and changes
nothing; and the directory may be asked if that was allowed and no address has come back, in any case of its letters. -/
theorem history_recounted (address : Option String) (directory : Bool) (steps : List Step) :
    Recounts address directory steps ((start address directory).run steps).1 ((start address directory).run steps).2 :=
  ((remembers_start address directory).run steps).recounts

theorem run_hops (r : Redirection) (followed : Nat) :
    (r.run (List.replicate followed .hop)).2 = r.spend followed := by
  induction followed generalizing r with
  | zero => rfl
  | succ followed ih =>
    rw [List.replicate_succ, run]
    dsimp only
    rw [ih, step_hop]
    split
    · rename_i hnone
      simp [spend, hnone]
    · simp only [spend]
      congr 1
      omega

end Redirection

end MailDiscovery
