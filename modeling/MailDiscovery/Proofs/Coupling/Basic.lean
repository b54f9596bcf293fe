import MailDiscovery.Conversation

/-!
Two conversations side by side, each in an environment of its own. They are coupled if, as long as their records were
related before, they give related results and leave related records.
-/

namespace MailDiscovery.Conversation

variable {α α' β β' : Type} {S : Record → Record → Prop} {env env' : Environment}

def Coupled (S : Record → Record → Prop) (env env' : Environment) (x : Conversation α) (y : Conversation α')
    (R : α → α' → Prop) : Prop :=
  ∀ log log', S log log' → R (x env log).1 (y env' log').1 ∧ S (x env log).2 (y env' log').2

theorem Coupled.mono {x : Conversation α} {y : Conversation α'} {R R' : α → α' → Prop}
    (h : Coupled S env env' x y R) (hR : ∀ a b, R a b → R' a b) : Coupled S env env' x y R' := by
  intro log log' hlog
  obtain ⟨hresult, hafter⟩ := h log log' hlog
  exact ⟨hR _ _ hresult, hafter⟩

theorem coupled_pure {R : α → α' → Prop} {a : α} {b : α'} (h : R a b) :
    Coupled S env env' (pure a) (pure b) R :=
  fun _ _ hlog => ⟨h, hlog⟩

theorem Coupled.bind {x : Conversation α} {y : Conversation α'} {f : α → Conversation β}
    {g : α' → Conversation β'} {R : α → α' → Prop} {R' : β → β' → Prop} (hx : Coupled S env env' x y R)
    (hf : ∀ a b, R a b → Coupled S env env' (f a) (g b) R') : Coupled S env env' (x >>= f) (y >>= g) R' := by
  intro log log' hlog
  obtain ⟨hresult, hafter⟩ := hx log log' hlog
  exact hf _ _ hresult _ _ hafter

theorem Coupled.bind_eq {x y : Conversation α} {f : α → Conversation β} {g : α → Conversation β'}
    {R : β → β' → Prop} (hx : Coupled S env env' x y Eq)
    (hf : ∀ a, Coupled S env env' (f a) (g a) R) : Coupled S env env' (x >>= f) (y >>= g) R := by
  apply hx.bind
  rintro a _ rfl
  exact hf a

end MailDiscovery.Conversation
