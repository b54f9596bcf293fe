import MailDiscovery.Proofs.Run.Basic
import MailDiscovery.Service.Resolution

/-!
First-success search. Candidates come from one source after the other; they are tried in order, up to the first that
concludes the search, and a source is drawn on only when every candidate before has failed.
-/

namespace MailDiscovery

open Conversation (Meets bind_of_eq)

/-- What an attempt at a candidate is, and which outcomes conclude a search. Any other is noted. -/
structure Discipline (α ω ν ρ : Type) where
  attempt : (left : Nat) → Candidate α → Conversation (ω × Nat)
  conclusion? : Candidate α → ω → Option ρ
  note : ν → Candidate α → ω → ν

abbrev Candidates (α : Type) := List (Candidate α)

structure Attempt (α ω : Type) where
  candidate : Candidate α
  outcome : ω
  followed : Nat
  events : Record

structure Stage (α ω : Type) where
  finding : Record
  candidates : Candidates α
  attempts : List (Attempt α ω)

namespace Attempt

variable {α ω : Type}

def record (attempts : List (Attempt α ω)) : Record :=
  attempts.flatMap Attempt.events

def spent (attempts : List (Attempt α ω)) : Nat :=
  attempts.foldr (fun a further => a.followed + further) 0

theorem record_cons (a : Attempt α ω) (attempts : List (Attempt α ω)) :
    record (a :: attempts) = a.events ++ record attempts :=
  List.flatMap_cons

theorem spent_cons (a : Attempt α ω) (attempts : List (Attempt α ω)) :
    spent (a :: attempts) = a.followed + spent attempts :=
  rfl

theorem spent_append (first rest : List (Attempt α ω)) : spent (first ++ rest) = spent first + spent rest := by
  induction first with
  | nil => simp [spent]
  | cons a first ih => rw [List.cons_append, spent_cons, spent_cons, ih, Nat.add_assoc]

end Attempt

namespace Stage

variable {α ω : Type}

def events (stage : Stage α ω) : Record :=
  stage.finding ++ Attempt.record stage.attempts

def record (stages : List (Stage α ω)) : Record :=
  stages.flatMap Stage.events

def allCandidates (stages : List (Stage α ω)) : Candidates α :=
  stages.flatMap Stage.candidates

def allAttempts (stages : List (Stage α ω)) : List (Attempt α ω) :=
  stages.flatMap Stage.attempts

theorem record_cons (stage : Stage α ω) (stages : List (Stage α ω)) :
    record (stage :: stages) = stage.events ++ record stages :=
  List.flatMap_cons

theorem allCandidates_cons (stage : Stage α ω) (stages : List (Stage α ω)) :
    allCandidates (stage :: stages) = stage.candidates ++ allCandidates stages :=
  List.flatMap_cons

theorem allAttempts_cons (stage : Stage α ω) (stages : List (Stage α ω)) :
    allAttempts (stage :: stages) = stage.attempts ++ allAttempts stages :=
  List.flatMap_cons

end Stage

namespace Discipline

variable {α ω ν ρ : Type} (d : Discipline α ω ν ρ) {env : Environment}

def tryAll (left : Nat) (notes : ν) : Candidates α → Conversation (Except ν ρ × Nat)
  | [] => pure (.error notes, 0)
  | candidate :: rest => do
    let (outcome, followed) ← d.attempt left candidate
    match d.conclusion? candidate outcome with
    | some result => pure (.ok result, followed)
    | none => do
      let (result, further) ← tryAll (left - followed) (d.note notes candidate outcome) rest
      pure (result, followed + further)

def search (left : Nat) (notes : ν) : List (Conversation (Candidates α)) → Conversation (Except ν ρ × Nat)
  | [] => pure (.error notes, 0)
  | source :: sources => do
    let candidates ← source
    match ← d.tryAll left notes candidates with
    | (.ok result, followed) => pure (.ok result, followed)
    | (.error notes, followed) => do
      let (result, further) ← search (left - followed) notes sources
      pure (result, followed + further)

def proceed (left : Nat) (sources : List (Conversation (Candidates α))) :
    Except ν ρ × Nat → Conversation (Except ν ρ × Nat)
  | (.ok result, followed) => pure (.ok result, followed)
  | (.error notes, followed) => do
    let (result, further) ← d.search (left - followed) notes sources
    pure (result, followed + further)

theorem search_cons (left : Nat) (notes : ν) (source : Conversation (Candidates α))
    (sources : List (Conversation (Candidates α))) :
    d.search left notes (source :: sources) = source >>= d.tryAll left notes >>= d.proceed left sources :=
  rfl

theorem proceed_nil (left : Nat) (p : Except ν ρ × Nat) : d.proceed left [] p = pure p := by
  rcases p with ⟨notes | result, followed⟩ <;> rfl

theorem search_single (left : Nat) (notes : ν) (source : Conversation (Candidates α)) :
    d.search left notes [source] = source >>= d.tryAll left notes := by
  rw [search_cons]
  simp only [funext (d.proceed_nil left), bind_pure]

theorem proceed_cons (left : Nat) (source : Conversation (Candidates α))
    (sources : List (Conversation (Candidates α))) (p : Except ν ρ × Nat) :
    d.proceed left (source :: sources) p = d.proceed left [source] p >>= d.proceed left sources := by
  rcases p with ⟨notes | result, followed⟩
  · simp only [proceed, search_cons, bind_assoc, pure_bind]
    apply bind_congr
    intro candidates
    apply bind_congr
    rintro ⟨notes | result, further⟩
    · simp only [search, bind_assoc, pure_bind, Nat.add_zero, Nat.sub_sub, Nat.add_assoc]
    · rfl
  · rfl

def conclusionOf? (a : Attempt α ω) : Option ρ :=
  d.conclusion? a.candidate a.outcome

def outcome (notes : ν) (attempts : List (Attempt α ω)) : Except ν ρ :=
  match attempts.findSome? d.conclusionOf? with
  | some result => .ok result
  | none => .error (attempts.foldl (fun notes a => d.note notes a.candidate a.outcome) notes)

theorem outcome_of_some {a : Attempt α ω} {result : ρ} (h : d.conclusionOf? a = some result) (notes : ν)
    (rest : List (Attempt α ω)) : d.outcome notes (a :: rest) = .ok result := by
  simp [outcome, h]

theorem outcome_of_none {a : Attempt α ω} (h : d.conclusionOf? a = none) (notes : ν)
    (rest : List (Attempt α ω)) : d.outcome notes (a :: rest) = d.outcome (d.note notes a.candidate a.outcome) rest := by
  simp [outcome, h]

theorem outcome_append {first : List (Attempt α ω)} (h : ∀ a ∈ first, d.conclusionOf? a = none) (notes : ν)
    (rest : List (Attempt α ω)) :
    d.outcome notes (first ++ rest) =
      d.outcome (first.foldl (fun notes a => d.note notes a.candidate a.outcome) notes) rest := by
  induction first generalizing notes with
  | nil => rfl
  | cons a first ih =>
    rw [List.cons_append, d.outcome_of_none (h a List.mem_cons_self)]
    exact ih (fun b hb => h b (List.mem_cons_of_mem _ hb)) _

/-- An attempt that was made when `log` was on record and `left` redirections were left. -/
def Made (env : Environment) (log : Record) (left : Nat) (a : Attempt α ω) : Prop :=
  d.attempt left a.candidate env log = ((a.outcome, a.followed), log ++ a.events)

inductive Walked (env : Environment) : Record → Nat → Candidates α → List (Attempt α ω) → Prop
  | nil {log : Record} {left : Nat} : Walked env log left [] []
  | concluded {log : Record} {left : Nat} {a : Attempt α ω} {rest : Candidates α} (h : d.Made env log left a)
      (hc : (d.conclusionOf? a).isSome = true) : Walked env log left (a.candidate :: rest) [a]
  | next {log : Record} {left : Nat} {a : Attempt α ω} {rest : Candidates α} {attempts : List (Attempt α ω)}
      (h : d.Made env log left a) (hc : d.conclusionOf? a = none)
      (hn : Walked env (log ++ a.events) (left - a.followed) rest attempts) :
      Walked env log left (a.candidate :: rest) (a :: attempts)

inductive Searched (env : Environment) :
    Record → Nat → List (Conversation (Candidates α)) → List (Stage α ω) → Prop
  | nil {log : Record} {left : Nat} : Searched env log left [] []
  | concluded {log : Record} {left : Nat} {source : Conversation (Candidates α)}
      {sources : List (Conversation (Candidates α))} {stage : Stage α ω}
      (hs : source env log = (stage.candidates, log ++ stage.finding))
      (hw : d.Walked env (log ++ stage.finding) left stage.candidates stage.attempts)
      (hc : ∃ a ∈ stage.attempts, (d.conclusionOf? a).isSome = true) :
      Searched env log left (source :: sources) [stage]
  | next {log : Record} {left : Nat} {source : Conversation (Candidates α)}
      {sources : List (Conversation (Candidates α))} {stage : Stage α ω} {stages : List (Stage α ω)}
      (hs : source env log = (stage.candidates, log ++ stage.finding))
      (hw : d.Walked env (log ++ stage.finding) left stage.candidates stage.attempts)
      (hc : ∀ a ∈ stage.attempts, d.conclusionOf? a = none)
      (hn : Searched env (log ++ stage.events) (left - Attempt.spent stage.attempts) sources stages) :
      Searched env log left (source :: sources) (stage :: stages)

theorem tryAll_walked (hd : ∀ left candidate, Meets env (d.attempt left candidate) fun _ _ => True)
    (candidates : Candidates α) (log : Record) (left : Nat) (notes : ν) :
    ∃ attempts, d.Walked env log left candidates attempts ∧
      d.tryAll left notes candidates env log =
        ((d.outcome notes attempts, Attempt.spent attempts), log ++ Attempt.record attempts) := by
  induction candidates generalizing log left notes with
  | nil =>
    refine ⟨[], .nil, ?_⟩
    change ((Except.error notes, 0), log) = ((Except.error notes, 0), log ++ [])
    rw [List.append_nil]
  | cons candidate rest ih =>
    obtain ⟨events, hlog, -⟩ := hd left candidate log
    let a : Attempt α ω :=
      ⟨candidate, (d.attempt left candidate env log).1.1, (d.attempt left candidate env log).1.2, events⟩
    have hmade : d.Made env log left a := Prod.ext rfl hlog
    rw [tryAll, bind_of_eq hmade]
    dsimp only
    cases hc : d.conclusionOf? a with
    | some result =>
      refine ⟨[a], .concluded hmade (by rw [hc]; rfl), ?_⟩
      have hc' : d.conclusion? candidate a.outcome = some result := hc
      rw [d.outcome_of_some hc, hc']
      simp [Attempt.record, Attempt.spent]
      rfl
    | none =>
      obtain ⟨attempts, hw, hrun⟩ := ih (log ++ events) (left - a.followed) (d.note notes candidate a.outcome)
      refine ⟨a :: attempts, .next hmade hc hw, ?_⟩
      have hc' : d.conclusion? candidate a.outcome = none := hc
      rw [d.outcome_of_none hc, Attempt.record_cons, Attempt.spent_cons, ← List.append_assoc, hc']
      exact bind_of_eq hrun _

theorem search_searched (hd : ∀ left candidate, Meets env (d.attempt left candidate) fun _ _ => True)
    {sources : List (Conversation (Candidates α))} (hs : ∀ source ∈ sources, Meets env source fun _ _ => True)
    (log : Record) (left : Nat) (notes : ν) :
    ∃ stages, d.Searched env log left sources stages ∧
      d.search left notes sources env log =
        ((d.outcome notes (Stage.allAttempts stages), Attempt.spent (Stage.allAttempts stages)),
          log ++ Stage.record stages) := by
  induction sources generalizing log left notes with
  | nil =>
    refine ⟨[], .nil, ?_⟩
    change ((Except.error notes, 0), log) = ((Except.error notes, 0), log ++ [])
    rw [List.append_nil]
  | cons source sources ih =>
    obtain ⟨finding, hfinding, -⟩ := hs source List.mem_cons_self log
    have hsource : source env log = ((source env log).1, log ++ finding) := Prod.ext rfl hfinding
    obtain ⟨attempts, hw, hrun⟩ := d.tryAll_walked hd (source env log).1 (log ++ finding) left notes
    let stage : Stage α ω := ⟨finding, (source env log).1, attempts⟩
    rw [search, bind_of_eq hsource, bind_of_eq hrun]
    cases hf : attempts.findSome? d.conclusionOf? with
    | some result =>
      have houtcome : d.outcome notes attempts = .ok result := by rw [outcome, hf]
      obtain ⟨a, ha, hc⟩ := List.exists_of_findSome?_eq_some hf
      refine ⟨[stage], .concluded hsource hw ⟨a, ha, by rw [hc]; rfl⟩, ?_⟩
      simp only [Stage.allAttempts, Stage.record, List.flatMap_cons, List.flatMap_nil, List.append_nil, Stage.events,
        stage, houtcome, ← List.append_assoc]
      rfl
    | none =>
      have hnone : ∀ a ∈ attempts, d.conclusionOf? a = none := List.findSome?_eq_none_iff.1 hf
      obtain ⟨stages, hsearched, hmore⟩ := ih (fun source h => hs source (List.mem_cons_of_mem _ h))
        (log ++ stage.events) (left - Attempt.spent attempts)
        (attempts.foldl (fun notes a => d.note notes a.candidate a.outcome) notes)
      refine ⟨stage :: stages, .next hsource hw hnone hsearched, ?_⟩
      rw [Stage.allAttempts_cons, Stage.record_cons, d.outcome_append hnone, Attempt.spent_append, ← List.append_assoc]
      have houtcome : d.outcome notes attempts =
          .error (attempts.foldl (fun notes a => d.note notes a.candidate a.outcome) notes) := by rw [outcome, hf]
      have hevents : log ++ finding ++ Attempt.record attempts = log ++ stage.events := List.append_assoc ..
      rw [houtcome, hevents]
      exact bind_of_eq hmore _

namespace Walked

variable {d} {log : Record} {left : Nat} {candidates : Candidates α} {attempts : List (Attempt α ω)}

theorem isPrefix (h : d.Walked env log left candidates attempts) : attempts.map Attempt.candidate <+: candidates := by
  induction h with
  | nil => exact List.nil_prefix
  | concluded h hc => exact List.prefix_append [_] _
  | next h hc hn ih => exact List.prefix_cons_inj _ |>.2 ih

theorem complete (h : d.Walked env log left candidates attempts) (hnone : ∀ a ∈ attempts, d.conclusionOf? a = none) :
    attempts.map Attempt.candidate = candidates := by
  induction h with
  | nil => rfl
  | concluded h hc => simp [hnone _ List.mem_cons_self] at hc
  | next h hc hn ih =>
    rw [List.map_cons, ih fun a ha => hnone a (List.mem_cons_of_mem _ ha)]

theorem last (h : d.Walked env log left candidates attempts) {before after : List (Attempt α ω)} {a : Attempt α ω}
    (heq : attempts = before ++ a :: after) (hafter : after ≠ []) : d.conclusionOf? a = none := by
  induction h generalizing before with
  | nil => simp at heq
  | concluded h hc =>
    cases before with
    | nil =>
      rw [List.nil_append, List.cons.injEq] at heq
      exact absurd heq.2.symm hafter
    | cons b before => simp at heq
  | next h hc hn ih =>
    cases before with
    | nil =>
      rw [List.nil_append, List.cons.injEq] at heq
      exact heq.1 ▸ hc
    | cons b before =>
      rw [List.cons_append, List.cons.injEq] at heq
      exact ih heq.2

theorem first {candidate : Candidate α} {rest : Candidates α}
    (h : d.Walked env log left (candidate :: rest) attempts) :
    ∃ a more, attempts = a :: more ∧ a.candidate = candidate ∧ d.Made env log left a := by
  cases h with
  | concluded h hc => exact ⟨_, _, rfl, rfl, h⟩
  | next h hc hn => exact ⟨_, _, rfl, rfl, h⟩

theorem made (h : d.Walked env log left candidates attempts) {a : Attempt α ω} (ha : a ∈ attempts) :
    ∃ log left, d.Made env log left a := by
  induction h with
  | nil => simp at ha
  | concluded h hc =>
    rw [List.mem_singleton.1 ha]
    exact ⟨_, _, h⟩
  | next h hc hn ih =>
    rcases List.mem_cons.1 ha with rfl | ha
    · exact ⟨_, _, h⟩
    · exact ih ha

end Walked

def Exhausted (stages : List (Stage α ω)) : Prop :=
  (Stage.allAttempts stages).map Attempt.candidate = Stage.allCandidates stages ∧
    ∀ a ∈ Stage.allAttempts stages, d.conclusionOf? a = none

structure FirstSuccess (sources : Nat) (stages : List (Stage α ω)) : Prop where
  isPrefix : (Stage.allAttempts stages).map Attempt.candidate <+: Stage.allCandidates stages
  last : ∀ before a after, Stage.allAttempts stages = before ++ a :: after → after ≠ [] → d.conclusionOf? a = none
  drawn : ∀ before stage after, stages = before ++ stage :: after → d.Exhausted before
  complete : (∀ a ∈ Stage.allAttempts stages, d.conclusionOf? a = none) →
    stages.length = sources ∧ d.Exhausted stages

theorem Exhausted.cons {d : Discipline α ω ν ρ} {stage : Stage α ω} {stages : List (Stage α ω)}
    (hmap : stage.attempts.map Attempt.candidate = stage.candidates)
    (hnone : ∀ a ∈ stage.attempts, d.conclusionOf? a = none) (h : d.Exhausted stages) :
    d.Exhausted (stage :: stages) := by
  constructor
  · rw [Stage.allAttempts_cons, Stage.allCandidates_cons, List.map_append, hmap, h.1]
  · rw [Stage.allAttempts_cons]
    exact fun a ha => (List.mem_append.1 ha).elim (hnone a) (h.2 a)

theorem exhausted_nil : d.Exhausted ([] : List (Stage α ω)) :=
  ⟨rfl, by simp [Stage.allAttempts]⟩

theorem Searched.firstSuccess {d : Discipline α ω ν ρ} {log : Record} {left : Nat}
    {sources : List (Conversation (Candidates α))} {stages : List (Stage α ω)}
    (h : d.Searched env log left sources stages) : d.FirstSuccess sources.length stages := by
  induction h with
  | nil =>
    refine ⟨List.nil_prefix, ?_, ?_, fun _ => ⟨rfl, d.exhausted_nil⟩⟩
    · intro before a after heq
      simp [Stage.allAttempts] at heq
    · intro before stage after heq
      simp at heq
  | @concluded log left source sources stage hs hw hc =>
    have hattempts : Stage.allAttempts [stage] = stage.attempts := by simp [Stage.allAttempts]
    refine ⟨?_, ?_, ?_, ?_⟩
    · rw [hattempts, Stage.allCandidates_cons]
      exact hw.isPrefix.trans (List.prefix_append _ _)
    · rw [hattempts]
      exact fun before a after heq => hw.last heq
    · intro before other after heq
      cases before with
      | nil => exact d.exhausted_nil
      | cons b before => simp at heq
    · rw [hattempts]
      obtain ⟨a, ha, hc⟩ := hc
      intro hnone
      simp [hnone a ha] at hc
  | @next log left source sources stage stages hs hw hc hn ih =>
    have hmap := hw.complete hc
    refine ⟨?_, ?_, ?_, ?_⟩
    · rw [Stage.allAttempts_cons, Stage.allCandidates_cons, List.map_append, hmap]
      exact (List.prefix_append_right_inj _).2 ih.isPrefix
    · intro before a after heq hafter
      rw [Stage.allAttempts_cons] at heq
      -- The attempt is one of this stage, or one of those that follow.
      rcases List.append_eq_append_iff.1 heq with ⟨more, rfl, hrest⟩ | ⟨more, hfirst, hrest⟩
      · exact ih.last more a after hrest hafter
      · cases more with
        | nil => exact ih.last [] a after hrest.symm hafter
        | cons b more =>
          rw [List.cons_append, List.cons.injEq] at hrest
          apply hc
          rw [hfirst, hrest.1]
          simp
    · intro before other after heq
      cases before with
      | nil => exact d.exhausted_nil
      | cons b before =>
        rw [List.cons_append, List.cons.injEq] at heq
        rw [← heq.1]
        exact (ih.drawn before other after heq.2).cons hmap hc
    · intro hnone
      rw [Stage.allAttempts_cons] at hnone
      obtain ⟨hlength, hexhausted⟩ := ih.complete fun a ha => hnone a (List.mem_append_right _ ha)
      exact ⟨by rw [List.length_cons, List.length_cons, hlength], hexhausted.cons hmap hc⟩

namespace Searched

variable {d} {log : Record} {left : Nat} {sources : List (Conversation (Candidates α))} {stages : List (Stage α ω)}

theorem first {source : Conversation (Candidates α)}
    (h : d.Searched env log left (source :: sources) stages) :
    ∃ stage more, stages = stage :: more ∧ source env log = (stage.candidates, log ++ stage.finding) ∧
      d.Walked env (log ++ stage.finding) left stage.candidates stage.attempts := by
  cases h with
  | concluded hs hw hc => exact ⟨_, _, rfl, hs, hw⟩
  | next hs hw hc hn => exact ⟨_, _, rfl, hs, hw⟩

theorem source (h : d.Searched env log left sources stages) {i : Nat} {stage : Stage α ω}
    (hi : stages[i]? = some stage) :
    ∃ source log, sources[i]? = some source ∧ source env log = (stage.candidates, log ++ stage.finding) := by
  induction h generalizing i with
  | nil => simp at hi
  | concluded hs hw hc =>
    cases i with
    | zero =>
      cases hi
      exact ⟨_, _, rfl, hs⟩
    | succ i => simp at hi
  | next hs hw hc hn ih =>
    cases i with
    | zero =>
      cases hi
      exact ⟨_, _, rfl, hs⟩
    | succ i => exact ih hi

theorem made (h : d.Searched env log left sources stages) {stage : Stage α ω} (hstage : stage ∈ stages)
    {a : Attempt α ω} (ha : a ∈ stage.attempts) : ∃ log left, d.Made env log left a := by
  induction h with
  | nil => simp at hstage
  | concluded hs hw hc =>
    rw [List.mem_singleton.1 hstage] at ha
    exact hw.made ha
  | next hs hw hc hn ih =>
    rcases List.mem_cons.1 hstage with rfl | hstage
    · exact hw.made ha
    · exact ih hstage

end Searched

namespace FirstSuccess

variable {d} {n : Nat} {stages : List (Stage α ω)} {before after : List (Attempt α ω)} {a : Attempt α ω}

theorem exhausted_iff (h : d.FirstSuccess n stages) :
    stages.length = n ∧ d.Exhausted stages ↔ ∀ a ∈ Stage.allAttempts stages, d.conclusionOf? a = none :=
  ⟨fun hall => hall.2.2, h.complete⟩

theorem concluded (h : d.FirstSuccess n stages) (heq : Stage.allAttempts stages = before ++ a :: after) {result : ρ}
    (hc : d.conclusionOf? a = some result) (notes : ν) :
    after = [] ∧ d.outcome notes (Stage.allAttempts stages) = .ok result := by
  constructor
  · cases after with
    | nil => rfl
    | cons b after =>
      have hnone := h.last before a (b :: after) heq (by simp)
      simp [hnone] at hc
  · have hbefore : ∀ b ∈ before, d.conclusionOf? b = none := by
      intro b hb
      obtain ⟨first, rest, rfl⟩ := List.append_of_mem hb
      exact h.last first b (rest ++ a :: after) (by rw [heq]; simp) (by simp)
    rw [heq, d.outcome_append hbefore, d.outcome_of_some hc]

theorem decided (h : d.FirstSuccess n stages) (ha : a ∈ Stage.allAttempts stages) {result : ρ}
    (hc : d.conclusionOf? a = some result) (notes : ν) : d.outcome notes (Stage.allAttempts stages) = .ok result := by
  obtain ⟨before, after, heq⟩ := List.append_of_mem ha
  exact (h.concluded heq hc notes).2

theorem next (h : d.FirstSuccess n stages) (heq : Stage.allAttempts stages = before ++ a :: after)
    (hc : d.conclusionOf? a = none) :
    after.head?.map Attempt.candidate = (Stage.allCandidates stages)[before.length + 1]? ∧
      (after = [] → stages.length = n) := by
  obtain ⟨rest, hrest⟩ := h.isPrefix
  rw [heq] at hrest
  cases after with
  | cons b after =>
    refine ⟨?_, by simp⟩
    rw [← hrest]
    simp
  | nil =>
    have hnone : ∀ b ∈ Stage.allAttempts stages, d.conclusionOf? b = none := by
      intro b hb
      rw [heq] at hb
      rcases List.mem_append.1 hb with hb | hb
      · obtain ⟨first, more, rfl⟩ := List.append_of_mem hb
        exact h.last first b (more ++ [a]) (by rw [heq]; simp) (by simp)
      · rw [List.mem_singleton.1 hb, hc]
    obtain ⟨hlength, hall, -⟩ := h.complete hnone
    refine ⟨?_, fun _ => hlength⟩
    rw [← hall, heq]
    simp

end FirstSuccess

theorem outcome_eq_error {notes rest : ν} {attempts : List (Attempt α ω)} (h : d.outcome notes attempts = .error rest) :
    (∀ a ∈ attempts, d.conclusionOf? a = none) ∧
      rest = attempts.foldl (fun notes a => d.note notes a.candidate a.outcome) notes := by
  unfold outcome at h
  split at h
  · cases h
  · cases h
    exact ⟨List.findSome?_eq_none_iff.1 ‹_›, rfl⟩

theorem outcome_error_iff {notes : ν} {attempts : List (Attempt α ω)} :
    (∃ rest, d.outcome notes attempts = .error rest) ↔ ∀ a ∈ attempts, d.conclusionOf? a = none := by
  constructor
  · rintro ⟨rest, h⟩
    exact (d.outcome_eq_error h).1
  · intro h
    have hnone : attempts.findSome? d.conclusionOf? = none := List.findSome?_eq_none_iff.2 h
    exact ⟨_, by rw [outcome, hnone]⟩

theorem outcome_eq_ok {notes : ν} {result : ρ} {attempts : List (Attempt α ω)}
    (h : d.outcome notes attempts = .ok result) :
    ∃ before a after, attempts = before ++ a :: after ∧ d.conclusionOf? a = some result := by
  unfold outcome at h
  split at h
  · cases h
    obtain ⟨a, ha, hc⟩ := List.exists_of_findSome?_eq_some ‹_›
    obtain ⟨before, after, rfl⟩ := List.append_of_mem ha
    exact ⟨before, a, after, rfl, hc⟩
  · cases h

end Discipline

end MailDiscovery
