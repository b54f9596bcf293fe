import MailDiscovery.Failure
import MailDiscovery.Soap.Reading

namespace MailDiscovery

section Sequences

variable {ε α β : Type}

theorem isOk_map (f : α → β) (x : Except ε α) : (x.map f).isOk = x.isOk := by
  cases x <;> rfl

theorem isOk_bind {x : Except ε α} {f : α → Except ε β} {p : Bool} (h : ∀ a, x = .ok a → (f a).isOk = p) :
    (x >>= f).isOk = (x.isOk && p) := by
  cases x with
  | error e => rfl
  | ok a => exact h a rfl

theorem isOk_bind_pure (x : Except ε α) (f : α → β) : (x >>= fun a => .ok (f a)).isOk = x.isOk := by
  cases x <;> rfl

theorem mapM_cases (f : α → Except ε β) (l : List α) :
    (∃ bs, l.mapM f = .ok bs ∧ bs.length = l.length ∧
      ∀ (i : Nat) a, l[i]? = some a → ∃ b, f a = .ok b ∧ bs[i]? = some b) ∨
    ∃ before a after e, l = before ++ a :: after ∧ (∀ b ∈ before, (f b).isOk = true) ∧ f a = .error e ∧
      l.mapM f = .error e := by
  induction l with
  | nil => exact .inl ⟨[], rfl, rfl, by simp⟩
  | cons a l ih =>
    rw [List.mapM_cons]
    cases ha : f a with
    | error e => exact .inr ⟨[], a, l, e, rfl, by simp, ha, rfl⟩
    | ok b =>
      rcases ih with ⟨bs, hbs, hlength, hread⟩ | ⟨before, other, after, e, rfl, hbefore, hother, hfail⟩
      · rw [hbs]
        refine .inl ⟨b :: bs, rfl, by simp [hlength], fun i other hi => ?_⟩
        cases i with
        | zero =>
          cases hi
          exact ⟨b, ha, rfl⟩
        | succ i => exact hread i other hi
      · rw [hfail]
        refine .inr ⟨a :: before, other, after, e, rfl, ?_, hother, rfl⟩
        rw [List.forall_mem_cons, ha]
        exact ⟨rfl, hbefore⟩

theorem isOk_mapM (f : α → Except ε β) (l : List α) : (l.mapM f).isOk = l.all fun a => (f a).isOk := by
  rcases mapM_cases f l with ⟨bs, hbs, -, hread⟩ | ⟨before, a, after, e, rfl, -, ha, hfail⟩
  · rw [hbs]
    refine (List.all_eq_true.2 fun a hmem => ?_).symm
    obtain ⟨i, hi⟩ := List.getElem?_of_mem hmem
    obtain ⟨b, hb, -⟩ := hread i a hi
    rw [hb]
    rfl
  · rw [hfail]
    simp [ha, Except.isOk, Except.toBool]

theorem isOk_foldlM {σ : Type} {f : σ → α → Except ε σ} {p : α → Bool} (h : ∀ s a, (f s a).isOk = p a) (s : σ)
    (l : List α) : (l.foldlM f s).isOk = l.all p := by
  induction l generalizing s with
  | nil => rfl
  | cons a l ih =>
    rw [List.foldlM_cons, isOk_bind fun t _ => ih t, h, List.all_cons]

end Sequences

namespace Soap

open Xml (Node)

theorem isOk_require {α : Type} (element : String) (a : Option α) : (Xml.require element a).isOk = a.isSome := by
  cases a <;> rfl

theorem isOk_number? (n : Node) (base : String) :
    (number? n base).isOk = (text? n base).all fun s => (Text.readNat16? s).isSome := by
  unfold number?
  cases text? n base with
  | none => rfl
  | some s =>
    dsimp only
    cases h : Text.readNat16? s <;> simp [h, Except.isOk, Except.toBool]

/-- A connection needs a host name, and a port only if it is a number. -/
def isConnection (n : Node) : Bool :=
  (text? n "Port").all (fun s => (Text.readNat16? s).isSome) && (text? n "Hostname").isSome

theorem isOk_connection (n : Node) : (connection n).isOk = isConnection n := by
  unfold connection isConnection
  rw [← isOk_number?, ← isOk_require "Hostname"]
  exact isOk_bind fun port _ => isOk_bind_pure _ _

def isValue (setting : Node) : Bool :=
  kind? setting != some "ProtocolConnectionCollectionSetting" ||
    (setting.child? (name "ProtocolConnections")).all fun list =>
      (list.childrenNamed (name "ProtocolConnection")).all isConnection

theorem isOk_value? (setting : Node) : (value? setting).isOk = isValue setting := by
  unfold value? isValue
  by_cases hweb : kind? setting = some "WebClientUrlCollectionSetting"
  · simp [hweb, Except.isOk, Except.toBool]
  by_cases hconnections : kind? setting = some "ProtocolConnectionCollectionSetting"
  · rw [if_neg hweb, if_pos hconnections, isOk_map, connections, hconnections, bne_self_eq_false, Bool.false_or]
    cases setting.child? (name "ProtocolConnections") with
    | none => rfl
    | some list =>
      rw [isOk_mapM]
      simp [isOk_connection]
  · rw [if_neg hweb, if_neg hconnections]
    simp [hconnections, Except.isOk, Except.toBool]

variable (ν : Type) [DecidableEq ν] [SettingName ν]

def isSetting (setting : Node) : Bool :=
  (text? setting "Name").any fun name => (SettingName.ofText? name : Option ν).isNone || isValue setting

theorem isOk_addSetting (s : Settings ν) (setting : Node) : (addSetting s setting).isOk = isSetting ν setting := by
  unfold addSetting isSetting
  cases text? setting "Name" with
  | none => rfl
  | some name =>
    simp only [Xml.require, bind, Except.bind]
    cases h : (SettingName.ofText? name : Option ν) with
    | none => simp [h, Except.isOk, Except.toBool]
    | some name => simp [h, isOk_map, isOk_value?]

def isResponse (layout : Layout) (n : Node) : Bool :=
  (n.child? layout.settings).all fun list => (list.childrenNamed layout.setting).all (isSetting ν)

theorem isOk_response (layout : Layout) (n : Node) : (response (ν := ν) layout n).isOk = isResponse ν layout n := by
  unfold response isResponse
  rw [isOk_bind_pure, settings]
  cases n.child? layout.settings with
  | none => rfl
  | some list => exact isOk_foldlM (isOk_addSetting ν) _ _

variable {ν}

def answer? (layout : Layout) (root : Node) : Option Node :=
  (part? root "Body").bind fun body =>
    if (part? body "Fault").isSome then none
    else (body.child? layout.message).bind (·.child? (name "Response"))

def items (layout : Layout) (answer : Node) : List Node :=
  (answer.child? layout.responses).elim [] (·.childrenNamed layout.response)

/-- The elements of the responses in an envelope without fault, whose answer has no error as a whole. -/
def batch? (layout : Layout) (root : Node) : Option (List Node) :=
  if isPart "Envelope" root && (heading root).isOk then
    ((answer? layout root).filter (code · = .noError)).map (items layout)
  else none

theorem responses_eq_mapM (layout : Layout) (answer : Node) :
    responses (ν := ν) layout answer = (items layout answer).mapM (response layout) := by
  unfold responses items
  cases answer.child? layout.responses <;> rfl

theorem ofRoot_of_batch? {layout : Layout} {root : Node} {list : List Node} (h : batch? layout root = some list) :
    ∃ frame : Collection ν, frame.code = .noError ∧
      ofRoot layout root = (list.mapM (response (ν := ν) layout)).map fun responses => { frame with responses } := by
  unfold batch? at h
  split at h
  · rename_i henvelope
    rw [Bool.and_eq_true] at henvelope
    obtain ⟨answer, hanswer, rfl⟩ := Option.map_eq_some_iff.1 h
    obtain ⟨hanswer, hcode⟩ := Option.filter_eq_some_iff.1 hanswer
    obtain ⟨body, hbody, hanswer⟩ := Option.bind_eq_some_iff.1 hanswer
    split at hanswer
    · cases hanswer
    rename_i hfault
    obtain ⟨message, hmessage, hanswer⟩ := Option.bind_eq_some_iff.1 hanswer
    cases hheading : heading root with
    | error e => simp [hheading, Except.isOk, Except.toBool] at henvelope
    | ok head =>
      refine ⟨⟨code answer, text? answer "ErrorMessage", none, [], head.serverInfo, head.partnerToken,
        head.partnerReference⟩, by simpa using hcode, ?_⟩
      rw [← responses_eq_mapM]
      simp only [ofRoot, henvelope.1, Bool.not_true, Bool.false_eq_true, if_false, hheading, hbody, Xml.require,
        bind, Except.bind]
      split
      · rename_i n hn
        simp [hn] at hfault
      · rw [hmessage]
        dsimp only
        rw [hanswer]
        rfl
  · cases h

theorem isOk_ofRoot_of_batch? {layout : Layout} {root : Node} {list : List Node}
    (h : batch? layout root = some list) :
    (ofRoot (ν := ν) layout root).isOk = list.all (isResponse ν layout) := by
  obtain ⟨frame, -, hroot⟩ := ofRoot_of_batch? (ν := ν) h
  rw [hroot, isOk_map, isOk_mapM]
  simp only [isOk_response]

end Soap

end MailDiscovery
