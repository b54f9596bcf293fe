import MailDiscovery.Proofs.Coupling.Resolution
import MailDiscovery.Service.LegacyResolution

namespace MailDiscovery

open Conversation (Coupled coupled_pure)

variable {S : Record → Record → Prop} {env env' : Environment} {c c' : Client}

namespace Alike

theorem queryLegacy (h : Alike S env env' c c') (address : String) (url : Uri) :
    Coupled S env env' (c.queryLegacy address url) (c'.queryLegacy address url) Eq := by
  unfold Client.queryLegacy
  apply (h.query (.legacy address) url).bind_eq
  exact fun _ => coupled_pure rfl

theorem tryLegacy (h : Alike S env env' c c') (address : String) (left : Nat) (failures : LegacyFailures)
    (candidates : List (Candidate Uri)) :
    Coupled S env env' (c.tryLegacy address left failures candidates)
      (c'.tryLegacy address left failures candidates) Eq := by
  cases candidates with
  | nil =>
    rw [Client.tryLegacy, Client.tryLegacy]
    exact coupled_pure rfl
  | cons candidate rest =>
    rw [Client.tryLegacy, Client.tryLegacy]
    apply (h.queryLegacy address candidate.target).bind_eq
    rintro (e | found | target | target | e)
    · dsimp only
      split
      · exact coupled_pure rfl
      · exact tryLegacy h address left _ rest
    · exact coupled_pure rfl
    · cases left with
      | zero => exact coupled_pure rfl
      | succ left =>
        dsimp only
        split
        · apply (tryLegacy h address left failures _).bind_eq
          exact fun _ => coupled_pure rfl
        · apply (tryLegacy h address left failures rest).bind_eq
          exact fun _ => coupled_pure rfl
    · exact coupled_pure rfl
    · dsimp only
      split
      · exact tryLegacy h address left _ rest
      · exact coupled_pure rfl
termination_by left + candidates.length

theorem fallBackLegacy (h : Alike S env env' c c') (address : String) (left : Nat) (origin : Origin)
    {candidate candidate' : Conversation (Option Uri)} (hc : Coupled S env env' candidate candidate' Eq)
    (state : LegacyStep × Nat) :
    Coupled S env env' (c.fallBackLegacy address left origin candidate state)
      (c'.fallBackLegacy address left origin candidate' state) Eq := by
  unfold Client.fallBackLegacy
  split
  · apply hc.bind_eq
    intro url
    apply (h.tryLegacy address _ _ _).bind_eq
    exact fun _ => coupled_pure rfl
  · exact coupled_pure rfl

theorem legacyRound (h : Alike S env env' c c') (address domain : String) (r : Redirection) :
    Coupled S env env' (c.legacyRound address domain r) (c'.legacyRound address domain r) Eq := by
  unfold Client.legacyRound
  apply (h.directoryUrls r domain).bind_eq
  intro urls
  refine Conversation.Coupled.bind_eq ?_ (h.fallBackLegacy address r.left .records (h.records domain))
  refine Conversation.Coupled.bind_eq ?_
    (h.fallBackLegacy address r.left .redirection (h.redirection (.legacy address) domain))
  exact h.tryLegacy address r.left {} _

theorem discoverLegacy (h : Alike S env env' c c') (r : Redirection) (address : String) :
    Coupled S env env' (c.discoverLegacy r address) (c'.discoverLegacy r address) Eq := by
  rw [Client.discoverLegacy, Client.discoverLegacy]
  split
  · exact coupled_pure rfl
  rename_i domain _
  apply (h.legacyRound address domain r).bind_eq
  rintro ⟨found | target | e | failures, followed⟩
  · exact coupled_pure rfl
  · dsimp only
    split
    · exact coupled_pure rfl
    · exact discoverLegacy h _ _
  · exact coupled_pure rfl
  · exact coupled_pure rfl
termination_by r.left
decreasing_by
  rw [Redirection.left_visit]
  exact Redirection.left_hop?_lt (by assumption)

end Alike

def Twins.Replied {α : Type} (c c' : Client) : α × Service → α × Service → Prop
  | (result, s), (result', s') => result = result' ∧ Twins c c' s s'

theorem Twins.legacyUserSettings {s s' : Service} (ha : Alike S env env' c c') (h : Twins c c' s s')
    (address : String) (settings : List UserSetting) :
    Coupled S env env' (s.legacyUserSettings address settings) (s'.legacyUserSettings address settings)
      (Twins.Replied c c') := by
  have htwins := h
  obtain ⟨locator, isExternal⟩ := h
  unfold Service.legacyUserSettings
  cases locator with
  | undetermined =>
    dsimp only
    rw [ha.config]
    apply (ha.discoverLegacy _ address).bind_eq
    rintro (e | ⟨found, origin⟩)
    · exact coupled_pure ⟨rfl, htwins⟩
    · exact coupled_pure ⟨rfl, htwins.discovered _⟩
  | url url host =>
    dsimp only
    split
    · exact coupled_pure ⟨rfl, htwins⟩
    · apply (ha.queryLegacy address _).bind_eq
      exact fun _ => coupled_pure ⟨rfl, htwins⟩
  | domain name =>
    dsimp only
    split
    · exact coupled_pure ⟨rfl, htwins⟩
    · apply (ha.queryLegacy address _).bind_eq
      exact fun _ => coupled_pure ⟨rfl, htwins⟩

end MailDiscovery
