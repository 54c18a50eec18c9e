import Mathlib
import InstallWatch.Command.Outcome
import InstallWatch.Proofs.Decimal.Quotient
import InstallWatch.Proofs.Service.Listing
import InstallWatch.Proofs.Time.Exact

/-!
When the polls of a wait for the service start and end, told from the replies alone. No pause outlasts the deadline,
and a pause that does not reach it is as long as the interval, so that the deadline is reached after as many polls as
the interval goes into the timeout. What breaks a wait off is told from the replies as well.
-/

namespace InstallWatch.Command
open InstallWatch.Service

/-- The reply neither takes the clock back nor cancels the wait. -/
def IsSteady {T : Type} [Seconds T] (r : Reply T) : Prop := ¬ r.lag < Seconds.zero ∧ r.cancels = false

/-- A wait for the service behind a client: from when until when, and how long to pause between two polls. -/
structure Wait (T : Type) where
  client : Client T
  server : Server T
  begins : T
  deadline : T
  interval : T

namespace Wait

section
variable {T : Type} [Seconds T]

/-- The service once it was polled a number of times. -/
def serverAt (w : Wait T) : Nat → Server T
  | 0 => w.server
  | k + 1 => ((w.serverAt k).answer (w.client.urlOf .infraEnvs) []).2

/-- The reply to the poll of a number, counted from zero. -/
def replyAt (w : Wait T) (k : Nat) : Reply T := ((w.serverAt k).answer (w.client.urlOf .infraEnvs) []).1

/-- How the wait for the request of a poll goes that starts at a time. A worker is free for it. -/
def courseFrom (w : Wait T) (k : Nat) (started : T) : Service.Course T :=
  (w.replyAt k).course true started (some w.deadline)

/-- The pause after a poll that ended at a time: the interval, but not past the deadline. -/
def pauseFrom (w : Wait T) (ended : T) : T := Seconds.shorter w.interval (Seconds.left ended w.deadline)

def startAt (w : Wait T) : Nat → T
  | 0 => w.begins
  | k + 1 =>
    let ended := (w.courseFrom k (w.startAt k)).time
    ended + w.pauseFrom ended

def courseAt (w : Wait T) (k : Nat) : Service.Course T := w.courseFrom k (w.startAt k)

def endAt (w : Wait T) (k : Nat) : T := (w.courseAt k).time

def pauseAt (w : Wait T) (k : Nat) : T := w.pauseFrom (w.endAt k)

/-- The request of a poll, which does not outlast the deadline. -/
def requestAt (w : Wait T) (k : Nat) : Request T :=
  ⟨w.client.urlOf .infraEnvs, [], Seconds.shorter w.client.timeout (Seconds.left (w.startAt k) w.deadline),
    Client.accept⟩

/-- The poll starts and ends before the deadline, and this is what the service answers to it. -/
structure Answers (w : Wait T) (k : Nat) (result : Except Fault (List Json)) : Prop where
  starts : w.startAt k < w.deadline
  ends : w.endAt k < w.deadline
  returns : (w.courseAt k).waited = .ended
  conveys : Conveys w.client .infraEnvs (w.replyAt k).outcome result

/-- The service lists its infra-envs. -/
def Succeeds (w : Wait T) (k : Nat) : Prop := ∃ items, w.Answers k (.ok items)

/-- What a poll comes to that nobody expects: there is no room to read the answer, or no waiting for it until the
deadline. -/
inductive Fails (w : Wait T) (k : Nat) : Fault → Prop where
  | tooDeep (answers : w.Answers k (.error (.notJson .tooDeep))) : Fails w k (.notJson .tooDeep)
  | tooFar (starts : w.startAt k < w.deadline) (refused : (w.courseAt k).waited = .refused) : Fails w k .tooFar

/-- The poll starts and ends before the deadline, and another one is due. -/
structure Passes (w : Wait T) (k : Nat) : Prop where
  starts : w.startAt k < w.deadline
  ends : w.endAt k < w.deadline
  fruitless : ¬ w.Succeeds k
  expected : ¬ ∃ f, w.Fails k f

/-- Nobody can sleep through the pause before the next poll. -/
structure Oversleeps (w : Wait T) (k : Nat) : Prop where
  passes : w.Passes k
  endless : Seconds.clockEnd < w.pauseAt k ∨ Seconds.clockEnd < w.endAt k + w.pauseAt k

/-- What the poll of a number, or the pause after it, breaks the command off with. -/
inductive Upsets (w : Wait T) (k : Nat) : Crash → Prop where
  | poll {f : Fault} (fails : w.Fails k f) : Upsets w k (.call f)
  | pause (oversleeps : w.Oversleeps k) : Upsets w k .endlessPause

/-- The poll, or the pause after it, decides the wait. -/
def Decides (w : Wait T) (k : Nat) : Prop := w.Succeeds k ∨ ∃ crash, w.Upsets k crash

/-- The wait is broken off before the service has listed anything. -/
def Breaks (w : Wait T) (crash : Crash) : Prop := ∃ k, w.Upsets k crash ∧ ∀ j < k, ¬ w.Decides j

/-- No reply takes the clock back or cancels the wait. -/
def Steady (w : Wait T) : Prop := ∀ k, IsSteady (w.replyAt k)

variable {w : Wait T} {k : Nat}

theorem Fails.starts {f : Fault} (h : w.Fails k f) : w.startAt k < w.deadline := by
  cases h with
  | tooDeep answers => exact answers.starts
  | tooFar starts refused => exact starts

theorem Upsets.starts {crash : Crash} (h : w.Upsets k crash) : w.startAt k < w.deadline := by
  cases h with
  | poll fails => exact fails.starts
  | pause oversleeps => exact oversleeps.passes.starts

theorem Decides.starts (h : w.Decides k) : w.startAt k < w.deadline := by
  obtain ⟨items, answers⟩ | ⟨crash, upsets⟩ := h
  · exact answers.starts
  · exact upsets.starts

theorem Fails.not_isExpected {f : Fault} (h : w.Fails k f) : f.isExpected = false := by
  cases h with
  | tooDeep answers => rfl
  | tooFar starts refused => rfl

/-- A poll that succeeds does not fail. -/
theorem Fails.not_succeeds {f : Fault} (h : w.Fails k f) : ¬ w.Succeeds k := by
  rintro ⟨items, succeeds⟩
  cases h with
  | tooDeep answers => cases succeeds.conveys.unique answers.conveys
  | tooFar starts refused => simp [succeeds.returns] at refused

theorem Upsets.not_succeeds {crash : Crash} (h : w.Upsets k crash) : ¬ w.Succeeds k := by
  cases h with
  | poll fails => exact fails.not_succeeds
  | pause oversleeps => exact oversleeps.passes.fruitless

theorem Fails.unique {f f' : Fault} (h : w.Fails k f) (h' : w.Fails k f') : f = f' := by
  cases h with
  | tooDeep answers =>
    cases h' with
    | tooDeep answers' => rfl
    | tooFar starts refused => simp [answers.returns] at refused
  | tooFar starts refused =>
    cases h' with
    | tooDeep answers => simp [answers.returns] at refused
    | tooFar starts refused => rfl

theorem Upsets.unique {crash crash' : Crash} (h : w.Upsets k crash) (h' : w.Upsets k crash') : crash = crash' := by
  cases h with
  | poll fails =>
    cases h' with
    | poll fails' => rw [fails.unique fails']
    | pause oversleeps => exact absurd ⟨_, fails⟩ oversleeps.passes.expected
  | pause oversleeps =>
    cases h' with
    | poll fails => exact absurd ⟨_, fails⟩ oversleeps.passes.expected
    | pause oversleeps' => rfl

/-- A wait breaks off in one way. -/
theorem Breaks.unique {crash crash' : Crash} (h : w.Breaks crash) (h' : w.Breaks crash') : crash = crash' := by
  obtain ⟨k, upsets, before⟩ := h
  obtain ⟨k', upsets', before'⟩ := h'
  rcases Nat.lt_trichotomy k k' with earlier | rfl | later
  · exact absurd (.inr ⟨crash, upsets⟩) (before' k earlier)
  · exact upsets.unique upsets'
  · exact absurd (.inr ⟨crash', upsets'⟩) (before k' later)

/-- No poll of a steady wait is cancelled. -/
theorem courseAt_cancels (steady : w.Steady) (k : Nat) : (w.courseAt k).cancels = false := by
  rw [← Bool.not_eq_true]
  unfold courseAt courseFrom
  intro cancels
  simpa [(steady k).2] using Reply.cancels_of_bounded cancels

end

section
variable {K : Type} [Field K] [LinearOrder K] {w : Wait K}

/-- A wait is steady if the service has only such replies to give. -/
theorem steady_of_all (h : w.server.All IsSteady) : w.Steady := by
  have atOnce : ∀ outcome, IsSteady (.atOnce outcome : Reply K) := fun _ => ⟨Seconds.not_lt_self _, rfl⟩
  have step : ∀ k, (w.serverAt k).All IsSteady → IsSteady (w.replyAt k) ∧ (w.serverAt (k + 1)).All IsSteady :=
    fun k hk => hk.answer (atOnce _) (fun _ => atOnce _) _ _
  have all : ∀ k, (w.serverAt k).All IsSteady := by
    intro k
    induction k with
    | zero => exact h
    | succ k ih => exact (step k ih).2
  exact fun k => (step k (all k)).1

/-- A poll that starts before the deadline gets what the service answers at once. -/
theorem answers_of_atOnce {k : Nat} {outcome : Except Outage Answer} {result : Except Fault (List Json)}
    (replies : w.replyAt k = .atOnce outcome) (starts : w.startAt k < w.deadline)
    (conveys : Conveys w.client .infraEnvs outcome result) : w.Answers k result ∧ w.endAt k = w.startAt k := by
  have course : w.courseAt k = ⟨.ended, true, w.startAt k, false⟩ := by
    rw [courseAt, courseFrom, replies, Reply.course_atOnce]
  have ends : w.endAt k = w.startAt k := congrArg Service.Course.time course
  exact ⟨⟨starts, ends ▸ starts, congrArg Service.Course.waited course, replies ▸ conveys⟩, ends⟩

end

variable {K : Type} [Field K] [LinearOrder K] [IsStrictOrderedRing K] {w : Wait K}

/-- A wait that nobody refuses and that ends before the deadline ends with the request. -/
theorem ended_of_ends (steady : w.Steady) {k : Nat} (ends : w.endAt k < w.deadline)
    (waits : (w.courseAt k).waited ≠ .refused) : (w.courseAt k).waited = .ended := by
  have kept := courseAt_cancels steady k
  unfold endAt at ends
  unfold courseAt courseFrom at *
  have lasts : ¬ ((w.replyAt k).course true (w.startAt k) (some w.deadline)).waited.IsAbandoned := by
    intro abandoned
    obtain cancels | ⟨d, bounded, reached⟩ := Reply.over_of_isAbandoned abandoned
    · simp [kept] at cancels
    · cases bounded
      rw [Seconds.left_pos_iff] at reached
      exact reached ends
  generalize Reply.course (w.replyAt k) true (w.startAt k) (some w.deadline) = c at *
  cases waited : c.waited with
  | ended => rfl
  | refused => exact absurd waited waits
  | givenUp => exact absurd (.inl waited) lasts
  | takenBack => exact absurd (.inr waited) lasts

/-- A wait is broken off before the deadline. -/
theorem Upsets.ends {k : Nat} {crash : Crash} (h : w.Upsets k crash) : w.endAt k < w.deadline := by
  cases h with
  | poll fails =>
    cases fails with
    | tooDeep answers => exact answers.ends
    | tooFar starts refused =>
      unfold endAt courseAt courseFrom at *
      exact Reply.time_lt_of_refused refused
  | pause oversleeps => exact oversleeps.passes.ends

theorem startAt_le_endAt (steady : w.Steady) (k : Nat) : w.startAt k ≤ w.endAt k := by
  have waits : w.startAt k + (w.replyAt k).lag ≤ w.endAt k := by
    unfold endAt courseAt courseFrom
    exact Reply.lag_le_time
  have lag : 0 ≤ (w.replyAt k).lag := not_lt.mp (steady k).1
  linarith

omit [IsStrictOrderedRing K] in
theorem pauseAt_eq_min (w : Wait K) (k : Nat) : w.pauseAt k = min w.interval (max 0 (w.deadline - w.endAt k)) := by
  unfold pauseAt pauseFrom
  rw [Seconds.shorter_eq_min, Seconds.left_eq_max]

omit [IsStrictOrderedRing K] in
theorem pauseAt_le_interval (w : Wait K) (k : Nat) : w.pauseAt k ≤ w.interval := by
  rw [pauseAt_eq_min]
  exact min_le_left _ _

omit [IsStrictOrderedRing K] in
theorem pauseAt_nonneg (paused : 0 ≤ w.interval) (k : Nat) : 0 ≤ w.pauseAt k := by
  rw [pauseAt_eq_min]
  exact le_min paused (le_max_left _ _)

/-- A pause that starts before the deadline ends by then. -/
theorem pause_ends (k : Nat) (h : w.endAt k < w.deadline) : w.endAt k + w.pauseAt k ≤ w.deadline := by
  rw [pauseAt_eq_min, max_eq_right (by linarith)]
  have := min_le_right w.interval (w.deadline - w.endAt k)
  linarith

theorem endAt_le_startAt_succ (paused : 0 ≤ w.interval) (k : Nat) : w.endAt k ≤ w.startAt (k + 1) := by
  have := pauseAt_nonneg paused k
  show w.endAt k ≤ w.endAt k + w.pauseAt k
  linarith

theorem startAt_mono (steady : w.Steady) (paused : 0 ≤ w.interval) : Monotone w.startAt :=
  monotone_nat_of_le_succ fun k => (startAt_le_endAt steady k).trans (endAt_le_startAt_succ paused k)

/-- Once the deadline is reached nothing is decided any more. -/
theorem not_decides_of_reached (steady : w.Steady) (paused : 0 ≤ w.interval) {j k : Nat}
    (reached : w.deadline ≤ w.startAt k) (hj : k ≤ j) : ¬ w.Decides j := by
  intro decides
  have starts := decides.starts
  have := startAt_mono steady paused hj
  exact absurd starts (not_lt.mpr (reached.trans this))

/-- Before the deadline every poll starts at least one interval after the one before it. -/
theorem startAt_ge (steady : w.Steady) (paused : 0 ≤ w.interval) (k : Nat) :
    w.deadline ≤ w.startAt k ∨ w.begins + k * w.interval ≤ w.startAt k := by
  induction k with
  | zero =>
    right
    simp [startAt]
  | succ k ih =>
    have later := endAt_le_startAt_succ paused k
    have started := startAt_le_endAt steady k
    rcases ih with ih | ih
    · left
      linarith
    · have next : w.startAt (k + 1) = w.endAt k + w.pauseAt k := rfl
      rw [next, pauseAt_eq_min]
      rcases le_total w.interval (max 0 (w.deadline - w.endAt k)) with h | h
      · right
        rw [min_eq_left h]
        push_cast
        linarith
      · left
        rw [min_eq_right h]
        have := le_max_right 0 (w.deadline - w.endAt k)
        linarith

/-- A wait of whole seconds reaches its deadline by the poll whose number is how often the interval goes into it. -/
theorem deadline_le_startAt (steady : w.Steady) {timeout interval : Nat} (pos : 0 < interval)
    (hd : w.deadline = w.begins + timeout) (hi : w.interval = interval) :
    w.deadline ≤ w.startAt (Decimal.ceilDiv timeout interval) := by
  have enough : timeout ≤ Decimal.ceilDiv timeout interval * interval :=
    (Decimal.ceilDiv_le_iff pos).mp (Nat.le_refl _)
  have enough : (timeout : K) ≤ Decimal.ceilDiv timeout interval * interval := by exact_mod_cast enough
  have paused : 0 ≤ w.interval := by
    rw [hi]
    positivity
  rcases startAt_ge steady paused (Decimal.ceilDiv timeout interval) with h | h
  · exact h
  · rw [hd]
    rw [hi] at h
    linarith

/-- A poll that starts before the deadline has a number below how often the interval goes into the wait. -/
theorem lt_ceilDiv_of_starts (steady : w.Steady) {timeout interval : Nat} (pos : 0 < interval)
    (hd : w.deadline = w.begins + timeout) (hi : w.interval = interval) {k : Nat} (h : w.startAt k < w.deadline) :
    k < Decimal.ceilDiv timeout interval := by
  have paused : 0 ≤ w.interval := by
    rw [hi]
    positivity
  refine Nat.lt_of_not_le fun late => ?_
  have reached := deadline_le_startAt steady pos hd hi
  have := startAt_mono steady paused late
  linarith

end Wait
end InstallWatch.Command
