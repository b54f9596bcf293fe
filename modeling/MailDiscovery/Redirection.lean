import MailDiscovery.Text.LowerCase

/-!
What is remembered of the redirections of one call: how many may still be followed, which addresses were tried, and
whether the directory may be asked, which ends with the first address that comes back.
-/

namespace MailDiscovery

structure Redirection where
  left : Nat
  tried : List String
  directory : Bool
  deriving DecidableEq, Repr

namespace Redirection

def limit : Nat := 10

def start (address : Option String) (directory : Bool) : Redirection where
  left := limit
  tried := (address.map Text.lower).toList
  directory := directory

def hops (r : Redirection) : Nat := limit - r.left

def hop? (r : Redirection) : Option Redirection :=
  match r.left with
  | 0 => none
  | left + 1 => some { r with left }

def spend (r : Redirection) (followed : Nat) : Redirection :=
  { r with left := r.left - followed }

def visit (r : Redirection) (address : String) : Redirection × String :=
  let address := Text.lower address
  if r.tried.contains address then ({ r with directory := false }, address)
  else ({ r with tried := address :: r.tried }, address)

theorem left_visit (r : Redirection) (address : String) : (r.visit address).1.left = r.left := by
  simp only [visit]
  split <;> rfl

theorem snd_visit (r : Redirection) (address : String) : (r.visit address).2 = Text.lower address := by
  simp only [visit]
  split <;> rfl

theorem left_eq_zero_of_hop? {r : Redirection} (h : r.hop? = none) : r.left = 0 := by
  unfold hop? at h
  split at h
  · assumption
  · cases h

theorem left_of_hop? {r next : Redirection} (h : r.hop? = some next) : r.left = next.left + 1 := by
  unfold hop? at h
  split at h
  · cases h
  · cases h
    assumption

theorem remembered_of_hop? {r next : Redirection} (h : r.hop? = some next) :
    next.tried = r.tried ∧ next.directory = r.directory := by
  unfold hop? at h
  split at h
  · cases h
  · cases h
    exact ⟨rfl, rfl⟩

theorem left_hop?_lt {r s : Redirection} {followed : Nat} (h : (r.spend followed).hop? = some s) :
    s.left < r.left := by
  simp only [hop?, spend] at h
  split at h
  · simp at h
  · simp only [Option.some.injEq] at h
    subst h
    simp only
    omega

def exceededMessage : String :=
  "maximum amount of redirection hops (10) exceeded"

end Redirection

end MailDiscovery
