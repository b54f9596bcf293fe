import MailDiscovery.Proofs.Run.Event

namespace MailDiscovery

/-- The address that an answer sends a call for one user on to. A SOAP answer must have passed the checks on the
collection and on the number of its responses. -/
def Answer.namedAddress? : Answer → Option String
  | .legacy (.redirectAddress target) => some target
  | .users c =>
    match c.code, c.responses with
    | .noError, [first] => if first.code = .redirectAddress then first.redirectTarget else none
    | _, _ => none
  | _ => none

namespace Event

def namedAddress? (q : Query) (event : Event) : Option String :=
  (event.answer? q).bind Answer.namedAddress?

def lookup? : Event → Option String
  | .directory domain => some domain
  | _ => none

end Event

namespace Record

def named (q : Query) (events : Record) : List String :=
  events.filterMap (Event.namedAddress? q)

def lookups (events : Record) : List String :=
  events.filterMap Event.lookup?

def Fresh (q : Query) (events : Record) : Prop :=
  ∀ first domain after, events = first ++ .directory domain :: after → Record.named q after ≠ []

def AsksFirst (allowed : Prop) (domain : String) (events : Record) : Prop :=
  events.lookups = [] ∨ allowed ∧ ∃ rest, events = .directory domain :: rest ∧ lookups rest = []

def LooksUp (P : Record → String → Prop) (before events : Record) : Prop :=
  ∀ first domain after, events = first ++ .directory domain :: after → P (before ++ first) domain

variable {q : Query} {domain : String} {events more before : Record} {allowed : Prop} {P : Record → String → Prop}

@[simp]
theorem named_append (q : Query) (events more : Record) : (events ++ more).named q = events.named q ++ more.named q :=
  List.filterMap_append

@[simp]
theorem lookups_append (events more : Record) : (events ++ more).lookups = events.lookups ++ more.lookups :=
  List.filterMap_append

theorem named_cons (q : Query) (event : Event) (events : Record) :
    named q (event :: events) = (event.namedAddress? q).toList ++ events.named q := by
  unfold named
  rw [List.filterMap_cons]
  split <;> simp_all

theorem named_users (addresses others : List String) (settings : List UserSetting) (events : Record) :
    events.named (.users addresses settings) = events.named (.users others settings) :=
  rfl

theorem named_eq_nil (h : ∀ event ∈ events, event.answer? q = none) : events.named q = [] := by
  rw [named, List.filterMap_eq_nil_iff]
  intro event he
  rw [Event.namedAddress?, h event he]
  rfl

theorem Quiet.named (h : events.Quiet) : events.named q = [] :=
  named_eq_nil fun event he => Event.answer?_eq_none (h event he)

theorem lookups_of_isPost (h : ∀ event ∈ events, event.isPost = true) : events.lookups = [] := by
  rw [lookups, List.filterMap_eq_nil_iff]
  intro event he
  cases event with
  | directory domain => exact absurd (h _ he) (by simp [Event.isPost])
  | exchange | records | approval => rfl

theorem exists_lookup (h : events.lookups ≠ []) : ∃ first domain after, events = first ++ .directory domain :: after := by
  induction events with
  | nil => exact absurd rfl h
  | cons event events ih =>
    cases event with
    | directory domain => exact ⟨[], domain, events, rfl⟩
    | exchange | records | approval =>
      obtain ⟨first, domain, after, rfl⟩ := ih h
      exact ⟨_ :: first, domain, after, rfl⟩

theorem lookups_ne_nil {first after : Record} (h : events = first ++ .directory domain :: after) :
    events.lookups ≠ [] := by
  simp [h, lookups, Event.lookup?]

theorem LooksUp.of_lookups (h : events.lookups = []) : LooksUp P before events :=
  fun _ _ _ heq => absurd h (lookups_ne_nil heq)

theorem LooksUp.cons (h : P before domain) (hmore : more.lookups = []) :
    LooksUp P before (.directory domain :: more) := by
  intro first other after heq
  cases first with
  | nil =>
    rw [List.nil_append, List.cons.injEq, Event.directory.injEq] at heq
    rw [List.append_nil, ← heq.1]
    exact h
  | cons event first =>
    rw [List.cons_append, List.cons.injEq] at heq
    exact absurd hmore (lookups_ne_nil heq.2)

theorem AsksFirst.looksUp (h : events.AsksFirst allowed domain) (hP : allowed → P before domain) :
    LooksUp P before events := by
  rcases h with h | ⟨hallowed, rest, rfl, hrest⟩
  · exact .of_lookups h
  · exact .cons (hP hallowed) hrest

theorem AsksFirst.length_le (h : events.AsksFirst allowed domain) : events.lookups.length ≤ 1 := by
  rcases h with h | ⟨-, rest, rfl, hrest⟩
  · rw [h]
    exact Nat.zero_le 1
  · change (domain :: lookups rest).length ≤ 1
    simp [hrest]

theorem Fresh.append (h : events.Fresh q) (hn : events.named q ≠ []) (before : Record) : Fresh q (before ++ events) := by
  intro first domain after heq
  rcases split_append heq with ⟨rest, -, rfl⟩ | ⟨rest, -, hrest⟩
  · rw [named_append]
    exact List.append_ne_nil_of_right_ne_nil _ hn
  · exact h rest domain after hrest

theorem AsksFirst.fresh (h : events.AsksFirst allowed domain) (hn : events.named q ≠ []) : events.Fresh q := by
  intro first other after heq
  rcases h with h | ⟨-, rest, rfl, hrest⟩
  · exact absurd h (lookups_ne_nil heq)
  · cases first with
    | nil =>
      rw [List.nil_append, List.cons.injEq] at heq
      rw [← heq.2]
      exact hn
    | cons event first =>
      rw [List.cons_append, List.cons.injEq] at heq
      exact absurd hrest (lookups_ne_nil heq.2)

theorem LooksUp.append (h : LooksUp P before events) (hmore : LooksUp P (before ++ events) more) :
    LooksUp P before (events ++ more) := by
  intro first domain after heq
  rcases split_append heq with ⟨rest, hevents, -⟩ | ⟨rest, rfl, hrest⟩
  · exact h first domain rest hevents
  · rw [← List.append_assoc]
    exact hmore rest domain after hrest

end Record

end MailDiscovery
