import Mathlib
import InstallWatch.Proofs.Time.Exact
import InstallWatch.Service.Waiting

/-!
What the end of a wait says. A free worker takes every request up at once. Without rounding, whoever gives up or takes
a request back is cancelled by then, or his deadline has been reached, and no wait ends before it begins.
-/

namespace InstallWatch.Service

namespace Waited

/-- The wait has ended without the request. -/
def IsAbandoned (w : Waited) : Prop := w = .givenUp ∨ w = .takenBack

end Waited

namespace Reply

section
variable {T : Type} [Seconds T] (r : Reply T) (free : Bool) (now : T) (deadline : Option T)

/-- All ways in which a wait goes: it ends with what happens to the request, it is refused, or it is abandoned. -/
inductive Goes : Course T → Prop where
  | settled (settles : deadline = none ∨ r.finishes free = true ∨ r.cancels = true) : Goes (r.settled free now)
  | refused (d : T) (bounded : deadline = some d) (far : Seconds.longestWait < Seconds.left (now + r.lag) d) :
      Goes ⟨.refused, r.isSentBy free now (now + r.lag), now + r.lag, false⟩
  | abandoned (d : T) (bounded : deadline = some d) :
      Goes (r.abandoned free now (Seconds.later (now + r.lag) d))

theorem course_goes : Goes r free now deadline (r.course free now deadline) := by
  unfold course
  cases deadline with
  | none => exact .settled (.inl rfl)
  | some d =>
    dsimp only
    split
    · rename_i early
      exact .settled (.inr (by simpa using (Bool.and_eq_true_iff.mp early).1))
    · split
      · exact .refused d rfl ‹_›
      · split
        · rename_i timely
          exact .settled (.inr (by simpa using (Bool.and_eq_true_iff.mp timely).1))
        · exact .abandoned d rfl

theorem waited_settled : (r.settled free now).waited ≠ .refused := by
  rw [Reply.settled]
  split
  · simp
  · split <;> simp

theorem isAbandoned_abandoned (time : T) : (r.abandoned free now time).waited.IsAbandoned := by
  rw [Reply.abandoned, Waited.IsAbandoned]
  split <;> simp

/-- A free worker takes a request up at once. -/
theorem isSent_of_free : (r.course true now deadline).isSent = true := by
  generalize course r true now deadline = c, r.course_goes true now deadline = goes
  cases goes <;> rfl

variable {r free now deadline}

/-- A request is taken up by the end of the wait if and only if it is not taken back, unless the wait is refused. -/
theorem isSent_iff (waits : (r.course free now deadline).waited ≠ .refused) :
    (r.course free now deadline).isSent = true ↔ (r.course free now deadline).waited ≠ .takenBack := by
  generalize course r free now deadline = c, r.course_goes free now deadline = goes at *
  cases goes with
  | settled settles =>
    simp only [Reply.settled]
    split
    · rename_i finishes
      simp [(Bool.and_eq_true_iff.mp finishes).1]
    · split <;> simp [*]
  | refused d bounded far => exact absurd rfl waits
  | abandoned d bounded =>
    simp only [Reply.abandoned]
    split <;> simp [*]

/-- Only a deadline that is too far away has a wait refused, which is then over as soon as it begins. -/
theorem of_refused (refused : (r.course free now deadline).waited = .refused) :
    (∃ d, deadline = some d ∧ Seconds.longestWait < Seconds.left (now + r.lag) d) ∧
      (r.course free now deadline).time = now + r.lag ∧ (r.course free now deadline).cancels = false := by
  generalize course r free now deadline = c, r.course_goes free now deadline = goes at *
  cases goes with
  | settled settles => exact absurd refused (r.waited_settled free now)
  | refused d bounded far => exact ⟨⟨d, bounded, far⟩, rfl, rfl⟩
  | abandoned d bounded =>
    obtain gaveUp | tookBack := r.isAbandoned_abandoned free now (Seconds.later (now + r.lag) d)
    · cases refused.symm.trans gaveUp
    · cases refused.symm.trans tookBack

/-- Whoever does not wait for the end of a request is cancelled by then, or has reached his deadline. -/
theorem over_of_isAbandoned [Seconds.Irreversible T] (h : (r.course free now deadline).waited.IsAbandoned) :
    (r.course free now deadline).cancels = true ∨
      ∃ d, deadline = some d ∧ ¬ Seconds.zero < Seconds.left (r.course free now deadline).time d := by
  generalize course r free now deadline = c, r.course_goes free now deadline = goes at *
  cases goes with
  | settled settles =>
    left
    simp only [Reply.settled, Waited.IsAbandoned] at h ⊢
    cases finishes : r.finishes free with
    | true => simp [finishes] at h
    | false => simp
  | refused d bounded far => simp [Waited.IsAbandoned] at h
  | abandoned d bounded => exact .inr ⟨d, bounded, Seconds.Irreversible.reached_later _ d⟩

/-- Before a deadline only a reply that cancels does so. -/
theorem cancels_of_bounded {d : T} (cancels : (r.course free now (some d)).cancels = true) : r.cancels = true := by
  generalize course r free now (some d) = c, r.course_goes free now (some d) = goes at *
  cases goes with
  | settled settles =>
    obtain none | finishes | cancelled := settles
    · cases none
    · simpa [Reply.settled, finishes] using cancels
    · exact cancelled
  | refused d bounded far => cases cancels
  | abandoned d bounded => cases cancels

end

section
variable {K : Type} [Field K] [LinearOrder K] {r : Reply K} {free : Bool} {now : K} {deadline : Option K}

/-- No wait ends before it begins. -/
theorem lag_le_time : now + r.lag ≤ (r.course free now deadline).time := by
  generalize course r free now deadline = c, r.course_goes free now deadline = goes
  cases goes with
  | settled settles =>
    rw [Reply.settled, Seconds.later_eq_max]
    exact le_max_left _ _
  | refused d bounded far => exact le_rfl
  | abandoned d bounded =>
    rw [Reply.abandoned, Seconds.later_eq_max]
    exact le_max_left _ _

/-- What a free worker brings at once is waited for in no time. -/
theorem course_atOnce (outcome : Except Outage Answer) :
    (atOnce outcome : Reply K).course true now deadline = ⟨.ended, true, now, false⟩ := by
  have settled : (atOnce outcome : Reply K).settled true now = ⟨.ended, true, now, false⟩ := by
    have time : Seconds.later (now + (Seconds.zero : K)) (now + Seconds.zero) = now := by
      rw [Seconds.later_eq_max, max_self]
      exact add_zero now
    simpa [Reply.settled, Reply.finishes, Reply.endsAt, Reply.begins?, atOnce, prompt] using time
  rw [← settled]
  cases deadline with
  | none => rfl
  | some d =>
    have finishes : (atOnce outcome : Reply K).finishes true = true := rfl
    have timely : ¬ now + (atOnce outcome : Reply K).lag < (atOnce outcome : Reply K).endsAt true now := lt_irrefl _
    simp [course, finishes, timely]

/-- A wait that is refused is over before the deadline. -/
theorem time_lt_of_refused [IsStrictOrderedRing K] {d : K} (refused : (r.course free now (some d)).waited = .refused) :
    (r.course free now (some d)).time < d := by
  obtain ⟨⟨_, bounded, far⟩, time, -⟩ := of_refused refused
  cases bounded
  rw [time, ← Seconds.left_pos_iff]
  exact lt_trans Seconds.longestWait_pos far

end

end Reply

end InstallWatch.Service
