import Mathlib
import InstallWatch.Proofs.Service.Course

/-!
How often the connection of a client is closed, and what the closing ends. Every closing by the owner counts, and the
cancellation of the lifetime once, unless the owner came first. From the first one on no request goes out, and once the
owner has closed the connection the lifetime keeps nothing for the client.
-/

namespace InstallWatch.Service

/-- Nothing goes over the connection any more. -/
structure Session.Dead {T : Type} (s : Session T) : Prop where
  closed : s.isOpen = false
  empty : s.queue = []

namespace Client

variable {T : Type} [Seconds T]

/-- A closed connection stays closed, and nothing is sent over it. -/
theorem step_of_dead (c : Client T) {s : Session T} (dead : s.Dead) (st : Step T) :
    (c.step s st).Dead ∧ (c.step s st).requests = s.requests := by
  cases st with
  | call k =>
    obtain ⟨es, noted⟩ := c.call_fst k s
    rw [step, noted, c.list_of_closed k.query dead.closed]
    exact ⟨⟨dead.closed, dead.empty⟩, rfl⟩
  | close => exact ⟨⟨rfl, rfl⟩, rfl⟩
  | cancel =>
    rw [step, Session.cancel_eq]
    exact ⟨⟨by simp [dead.closed], by simp [dead.empty]⟩, rfl⟩
  | advance seconds => exact ⟨⟨dead.closed, dead.empty⟩, rfl⟩
  | finish i =>
    rw [step, Session.finish]
    split
    · exact ⟨dead, rfl⟩
    · dsimp only
      split
      · exact ⟨⟨dead.closed, dead.empty⟩, rfl⟩
      · rename_i queue
        simp [dead.empty] at queue
  | serve server => exact ⟨⟨dead.closed, dead.empty⟩, rfl⟩

theorem requests_steps_of_dead (c : Client T) {s : Session T} (dead : s.Dead) (ss : List (Step T)) :
    (c.steps s ss).requests = s.requests := by
  induction ss generalizing s with
  | nil => rfl
  | cons st ss ih =>
    obtain ⟨still, unsent⟩ := c.step_of_dead dead st
    exact (ih still).trans unsent

/-- The closings of a run are the owner's and the one of a cancellation that came before them; after any of them no
request is sent; and after the owner's the lifetime keeps only what is none of the client's. -/
theorem closings_account {l : Lifetime T Hook} (found : Found l) (c : Client T) (now : T) (server : Server T)
    (ss : List (Step T)) :
    let s := c.steps (attach (.start now l server)) ss
    s.closes = ss.countP Step.isClose + (if c.cancelledEarly (attach (.start now l server)) ss then 1 else 0) ∧
    (ss.any Step.isClose = true ∨ s.lifetime.isCancelled = true →
      ∀ more, (c.steps s more).requests = s.requests) ∧
    (ss.any Step.isClose = true → ∀ h ∈ s.lifetime.pending, ∃ owner, h = .other owner) := by
  have stands := stands_steps found c now server ss
  have closings : ss.any Step.isClose = true ↔ ss.countP Step.isClose ≠ 0 := by
    rw [List.any_eq_true, ← Nat.pos_iff_ne_zero, List.countP_pos_iff]
  intro s
  refine ⟨?_, ?_, ?_⟩
  · rw [stands.closes]
    cases c.cancelledEarly (attach (.start now l server)) ss <;> rfl
  · intro ended more
    have shut : s.isOpen = false := by
      rw [stands.isOpen]
      rcases ended with closed | cancelled
      · simp [closings.mp closed]
      · simp [s, cancelled]
    exact c.requests_steps_of_dead ⟨shut, stands.queue shut⟩ more
  · intro closed h kept
    rw [stands.pending, if_neg (closings.mp closed)] at kept
    split at kept
    · cases kept
    · exact found.others h (by simpa using kept)

/-- The service cancels the lifetime of a request; the owner closes the connection twice after that. -/
theorem closings_account_thrice :
    let l : Lifetime Float Hook := ⟨none, false, [.other 0]⟩
    let c : Client Float := ⟨⟨"10.0.0.5", 8090, "/api", "http"⟩, 30.0, "10.0.0.5", []⟩
    let server : Server Float := ⟨[("clusters", [.prompt 1.0 true true (.error ⟨.connection, "reset"⟩)])]⟩
    let s := c.steps (attach (.start 0.0 l server)) [.call .isLive, .call .cluster, .close, .close]
    Found l ∧ s.closes = 3 ∧ s.requests.length = 2 ∧
      (∀ more, (c.steps s more).requests = s.requests) ∧ ∀ h ∈ s.lifetime.pending, ∃ owner, h = .other owner := by
  intro l c server s
  have found : Found l := ⟨by simp [l], by simp [l]⟩
  obtain ⟨closes, unsent, kept⟩ :=
    closings_account found c 0.0 server [.call .isLive, .call .cluster, .close, .close]
  exact ⟨found, closes.trans (by decide +kernel), by decide +kernel, unsent (.inl rfl), kept rfl⟩

end Client

end InstallWatch.Service
