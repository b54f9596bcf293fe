import MailDiscovery.Text.Base64

namespace MailDiscovery.Text.Base64

def value? (c : Char) : Option Nat :=
  if 'A' ≤ c ∧ c ≤ 'Z' then some (c.toNat - 'A'.toNat)
  else if 'a' ≤ c ∧ c ≤ 'z' then some (c.toNat - 'a'.toNat + 26)
  else if '0' ≤ c ∧ c ≤ '9' then some (c.toNat - '0'.toNat + 52)
  else if c = '+' then some 62
  else if c = '/' then some 63
  else none

def number? (digits : List Char) : Option Nat :=
  digits.foldlM (fun n c => (value? c).map (n * 64 + ·)) 0

/-- A last group that is filled up. The bits beyond its bytes have to be zero. -/
def decodeLast? (a b c : Char) : Option (List UInt8) :=
  if c = '=' then
    (number? [a, b]).bind fun n => if n % 16 = 0 then some [UInt8.ofNat (n / 16)] else none
  else
    (number? [a, b, c]).bind fun n =>
      if n % 4 = 0 then some [UInt8.ofNat (n / 1024), UInt8.ofNat (n / 4 % 256)] else none

def decode? : List Char → Option (List UInt8)
  | [] => some []
  | a :: b :: c :: d :: rest =>
    if d = '=' ∧ rest = [] then decodeLast? a b c
    else do
      let n ← number? [a, b, c, d]
      let bytes ← decode? rest
      some (UInt8.ofNat (n / 65536) :: UInt8.ofNat (n / 256 % 256) :: UInt8.ofNat (n % 256) :: bytes)
  | _ => none

theorem value?_digit : ∀ n < 64, value? (digit n) = some n := by
  decide

theorem digit_ne : ∀ n < 64, digit n ≠ '=' := by
  decide

theorem number?_digits (values : List Nat) (h : ∀ n ∈ values, n < 64) {number : Nat}
    (hnumber : values.foldl (· * 64 + ·) 0 = number) : number? (values.map digit) = some number := by
  subst hnumber
  unfold number?
  generalize 0 = start
  induction values generalizing start with
  | nil => rfl
  | cons n values ih =>
    rw [List.forall_mem_cons] at h
    rw [List.map_cons, List.foldlM_cons, value?_digit n h.1, List.foldl_cons, ← ih h.2]
    rfl

theorem number?_one (a : UInt8) : number? [digit (a.toNat / 4), digit (a.toNat % 4 * 16)] = some (a.toNat * 16) := by
  have ha := a.toNat_lt
  apply number?_digits [_, _]
  · simp
    omega
  · simp
    omega

theorem number?_two (a b : UInt8) :
    number? [digit (a.toNat / 4), digit (a.toNat % 4 * 16 + b.toNat / 16), digit (b.toNat % 16 * 4)] =
      some ((a.toNat * 256 + b.toNat) * 4) := by
  have ha := a.toNat_lt
  have hb := b.toNat_lt
  apply number?_digits [_, _, _]
  · simp
    omega
  · simp
    omega

theorem number?_three (a b c : UInt8) :
    number? [digit (a.toNat / 4), digit (a.toNat % 4 * 16 + b.toNat / 16), digit (b.toNat % 16 * 4 + c.toNat / 64),
      digit (c.toNat % 64)] = some (a.toNat * 65536 + b.toNat * 256 + c.toNat) := by
  have ha := a.toNat_lt
  have hb := b.toNat_lt
  have hc := c.toNat_lt
  apply number?_digits [_, _, _, _]
  · simp
    omega
  · simp
    omega

theorem decode?_encode (bytes : List UInt8) : decode? (encode bytes) = some bytes := by
  fun_induction encode bytes with
  | case1 => rfl
  | case2 a => simp [decode?, decodeLast?, number?_one]
  | case3 a b =>
    have ha := a.toNat_lt
    have hb := b.toNat_lt
    have hdigit : digit (b.toNat % 16 * 4) ≠ '=' := digit_ne _ (by omega)
    have hfirst : (a.toNat * 256 + b.toNat) * 4 / 1024 = a.toNat := by omega
    have hsecond : (a.toNat * 256 + b.toNat) % 256 = b.toNat := by omega
    simp [decode?, decodeLast?, hdigit, number?_two, hfirst, hsecond]
  | case4 a b c rest ih =>
    have ha := a.toNat_lt
    have hb := b.toNat_lt
    have hc := c.toNat_lt
    have hdigit : digit (c.toNat % 64) ≠ '=' := digit_ne _ (by omega)
    have hfirst : (a.toNat * 65536 + b.toNat * 256 + c.toNat) / 65536 = a.toNat := by omega
    have hsecond : (a.toNat * 65536 + b.toNat * 256 + c.toNat) / 256 % 256 = b.toNat := by omega
    have hthird : (a.toNat * 65536 + b.toNat * 256 + c.toNat) % 256 = c.toNat := by omega
    simp [decode?, hdigit, number?_three, ih, hfirst, hsecond, hthird]

theorem of_mem_encode {bytes : List UInt8} {c : Char} (h : c ∈ encode bytes) : c = '=' ∨ ∃ n < 64, c = digit n := by
  fun_induction encode bytes with
  | case1 => cases h
  | case2 a =>
    have ha := a.toNat_lt
    simp only [List.mem_cons, List.not_mem_nil, or_false, or_self] at h
    rcases h with rfl | rfl | rfl
    · exact .inr ⟨_, by omega, rfl⟩
    · exact .inr ⟨_, by omega, rfl⟩
    · exact .inl rfl
  | case3 a b =>
    have ha := a.toNat_lt
    have hb := b.toNat_lt
    simp only [List.mem_cons, List.not_mem_nil, or_false] at h
    rcases h with rfl | rfl | rfl | rfl
    · exact .inr ⟨_, by omega, rfl⟩
    · exact .inr ⟨_, by omega, rfl⟩
    · exact .inr ⟨_, by omega, rfl⟩
    · exact .inl rfl
  | case4 a b c' rest ih =>
    have ha := a.toNat_lt
    have hb := b.toNat_lt
    have hc := c'.toNat_lt
    simp only [List.mem_cons] at h
    rcases h with rfl | rfl | rfl | rfl | h
    · exact .inr ⟨_, by omega, rfl⟩
    · exact .inr ⟨_, by omega, rfl⟩
    · exact .inr ⟨_, by omega, rfl⟩
    · exact .inr ⟨_, by omega, rfl⟩
    · exact ih h

theorem digit_visible : ∀ n < 64, 0x21 ≤ (digit n).toNat ∧ (digit n).toNat ≤ 0x7e := by
  decide

theorem encode_visible {bytes : List UInt8} {c : Char} (h : c ∈ encode bytes) :
    0x21 ≤ c.toNat ∧ c.toNat ≤ 0x7e := by
  rcases of_mem_encode h with rfl | ⟨n, hn, rfl⟩
  · decide
  · exact digit_visible n hn

theorem encode_append {bytes : List UInt8} (h : 3 ∣ bytes.length) (more : List UInt8) :
    encode (bytes ++ more) = encode bytes ++ encode more := by
  fun_induction encode bytes with
  | case1 => rfl
  | case2 a => exact absurd h (by decide : ¬3 ∣ 1)
  | case3 a b => exact absurd h (by decide : ¬3 ∣ 2)
  | case4 a b c rest ih =>
    have hrest : 3 ∣ rest.length := by
      simp only [List.length_cons] at h
      omega
    simp only [List.cons_append, encode, ih hrest]

structure Writer where
  written : List Char
  pending : List UInt8 := []
  pending_lt : pending.length < 3 := by decide

namespace Writer

def write (w : Writer) (piece : List UInt8) : Writer where
  written := w.written ++ encode ((w.pending ++ piece).take ((w.pending ++ piece).length / 3 * 3))
  pending := (w.pending ++ piece).drop ((w.pending ++ piece).length / 3 * 3)
  pending_lt := by
    rw [List.length_drop]
    omega

def finish (w : Writer) : List Char :=
  w.written ++ encode w.pending

theorem finish_write (w : Writer) (piece more : List UInt8) :
    (w.write piece).written ++ encode ((w.write piece).pending ++ more) =
      w.written ++ encode (w.pending ++ (piece ++ more)) := by
  have hgroups : 3 ∣ ((w.pending ++ piece).take ((w.pending ++ piece).length / 3 * 3)).length := by
    rw [List.length_take]
    omega
  simp only [write]
  rw [List.append_assoc, ← encode_append hgroups, ← List.append_assoc, List.take_append_drop, List.append_assoc]

theorem finish_pieces (w : Writer) (pieces : List (List UInt8)) :
    (pieces.foldl write w).finish = w.written ++ encode (w.pending ++ pieces.flatten) := by
  induction pieces generalizing w with
  | nil => simp [finish]
  | cons piece pieces ih => rw [List.foldl_cons, ih, finish_write, List.flatten_cons]

end Writer

end MailDiscovery.Text.Base64
