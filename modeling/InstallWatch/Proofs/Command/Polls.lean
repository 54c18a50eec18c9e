import Mathlib
import InstallWatch.Command.WaitForApi
import InstallWatch.Proofs.Command.Schedule
import InstallWatch.Proofs.Service.Delivery

/-!
The polls of a wait, one after another. Until one of them decides the wait, polls and pauses keep to their schedule;
attempts that outlast the deadline end with the wait decided or at the deadline, never for want of attempts.
-/

namespace InstallWatch.Command
open InstallWatch.Service

section
variable {T : Type} [Seconds T]

/-- A session in a wait that started from another, after a number of polls and of pauses, at a time. -/
structure Underway (w : Wait T) (s₀ : Session T) (sent rests : Nat) (now : T) (s : Session T) : Prop where
  now : s.now = now
  server : s.server = w.serverAt sent
  deadline : s.lifetime.deadline = some w.deadline
  notCancelled : s.lifetime.isCancelled = false
  opened : s.isOpen = true
  closes : s.closes = s₀.closes
  requests : s.requests = s₀.requests ++ (List.range sent).map w.requestAt
  sleeps : s.sleeps = s₀.sleeps ++ (List.range rests).map w.pauseAt

namespace Underway

variable {w : Wait T} {s₀ s : Session T} {sent rests k : Nat} {now : T}

theorem log (h : Underway w s₀ sent rests now s) (es : List Journal.Entry) :
    Underway w s₀ sent rests now (s.log es) :=
  ⟨h.now, h.server, h.deadline, h.notCancelled, h.opened, h.closes, h.requests, h.sleeps⟩

theorem request_eq (h : Underway w s₀ k rests (w.startAt k) s) :
    w.client.request .infraEnvs s = w.requestAt k := by
  simp only [Client.request, Lifetime.bound, Lifetime.remaining, h.deadline, h.now, Option.map_some]
  rfl

theorem replyTo_eq (h : Underway w s₀ k rests (w.startAt k) s) :
    s.replyTo (w.client.request .infraEnvs s) = w.replyAt k := by
  rw [Client.replyTo_request, h.server]
  rfl

/-- With a free worker the wait for a poll's request goes as the schedule tells. -/
theorem courseOf_eq (h : Underway w s₀ k rests (w.startAt k) s) (free : s.hasWorker = true) :
    s.courseOf (w.client.request .infraEnvs s) = w.courseAt k := by
  rw [Session.courseOf, h.replyTo_eq, free, h.now, h.deadline]
  rfl

/-- The request of a poll takes the session to the poll's end. -/
theorem exchange (h : Underway w s₀ k rests (w.startAt k) s) (free : s.hasWorker = true) (steady : w.Steady) :
    Underway w s₀ (k + 1) rests (w.endAt k) (s.exchange (w.client.request .infraEnvs s)).1 := by
  obtain ⟨now, server, requests, sleeps, -, deadline, cancelled⟩ := s.exchange_frame (w.client.request .infraEnvs s)
  have course := h.courseOf_eq free
  have kept := Wait.courseAt_cancels steady k
  obtain ⟨opened, closes⟩ := Session.exchange_of_not_cancels ((congrArg Service.Course.cancels course).trans kept)
  constructor
  case now => rw [now, course]; rfl
  case server =>
    rw [server, h.server]
    rfl
  case deadline => rw [deadline, h.deadline]
  case notCancelled => rw [cancelled, course, kept, h.notCancelled, Bool.or_false]
  case opened => rw [opened, h.opened]
  case closes => rw [closes, h.closes]
  case requests =>
    rw [requests, Session.requests_sent_of_hasWorker free, h.request_eq, h.requests, List.range_succ, List.map_append,
      List.append_assoc]
    rfl
  case sleeps => rw [sleeps, h.sleeps]

/-- The pause after a poll. -/
theorem pauseOf_eq (h : Underway w s₀ (k + 1) k (w.endAt k) s) {interval : Nat}
    (hi : Seconds.ofNat? interval = some w.interval) : pauseOf interval s = w.pauseAt k := by
  simp only [pauseOf, hi, Lifetime.bound, Lifetime.remaining, h.deadline, h.now, Option.map_some]
  rfl

/-- A pause takes the session to the start of the next poll. -/
theorem sleep (h : Underway w s₀ (k + 1) k (w.endAt k) s) :
    Underway w s₀ (k + 1) (k + 1) (w.startAt (k + 1)) (s.sleep (w.pauseAt k)) := by
  refine ⟨?_, h.server, h.deadline, h.notCancelled, h.opened, h.closes, h.requests, ?_⟩
  · show s.now + w.pauseAt k = w.startAt (k + 1)
    rw [h.now]
    rfl
  · show s.sleeps ++ [w.pauseAt k] = _
    rw [h.sleeps, List.range_succ, List.map_append, List.append_assoc]
    rfl

/-- After a poll that another one is due after, the command sleeps until then, if anybody can. -/
theorem rest (h : Underway w s₀ (k + 1) k (w.endAt k) s) {interval : Nat}
    (hi : Seconds.ofNat? interval = some w.interval) (passes : w.Passes k) :
    (w.Oversleeps k ∧ Command.rest interval s = (s, some .endlessPause)) ∨
      (¬ w.Oversleeps k ∧ Command.rest interval s = (s.sleep (w.pauseAt k), none)) := by
  unfold Command.rest
  simp only [h.pauseOf_eq hi, h.now]
  split
  · exact .inl ⟨⟨passes, ‹_›⟩, rfl⟩
  · exact .inr ⟨fun oversleeps => absurd oversleeps.endless ‹_›, rfl⟩

end Underway

/-! ## Polls -/

theorem poll_of_ok {c : Client T} {s s' : Session T} {items : List Json} (h : c.list .infraEnvs s = (s', .ok items)) :
    poll c s = (s', .ok ()) := by
  simp [poll, Client.isLive, h]

/-- A failure that is expected only says that the service is not live yet, unless the lifetime is late. -/
theorem poll_of_isExpected {c : Client T} {s s' : Session T} {f : Fault} (h : c.list .infraEnvs s = (s', .error f))
    (expected : f.isExpected = true) :
    ∃ es, poll c s = (s'.log es, .error (s'.ending?.elim (.notLive c.location.url) .ended)) := by
  refine ⟨[Journal.debug ("rest API at " ++ c.location.url ++ " not live: " ++ f.message)], ?_⟩
  have same : ∀ es, (s'.log es).ending? = s'.ending? := fun _ => rfl
  simp only [poll, Client.isLive, h, expected, ↓reduceIte, same]
  cases s'.ending? with
  | none => rfl
  | some e => rfl

theorem poll_of_not_isExpected {c : Client T} {s s' : Session T} {f : Fault}
    (h : c.list .infraEnvs s = (s', .error f)) (unexpected : f.isExpected = false) :
    poll c s = (s', .error (.call f)) := by
  simp [poll, Client.isLive, h, unexpected]

end

/-- How the query of a poll ends that starts before the deadline: it succeeds, or fails as nobody expects it to, or
only finds nothing out. -/
inductive QueryEnds {T : Type} [Seconds T] (w : Wait T) (k : Nat) : Except Fault (List Json) → Prop where
  | live {items : List Json} (succeeds : w.Succeeds k) : QueryEnds w k (.ok items)
  | upset {f : Fault} (fails : w.Fails k f) : QueryEnds w k (.error f)
  | fruitless {f : Fault} (expected : f.isExpected = true) (fruitless : ¬ w.Succeeds k)
      (unfailing : ¬ ∃ f, w.Fails k f) (waits : (w.courseAt k).waited ≠ .refused) : QueryEnds w k (.error f)

namespace QueryEnds

variable {T : Type} [Seconds T] {w : Wait T} {k : Nat}

/-- The answer to a poll says how its query ends. -/
theorem of_answers {result : Except Fault (List Json)} (answers : w.Answers k result) : QueryEnds w k result := by
  cases result with
  | ok items => exact .live ⟨items, answers⟩
  | error f =>
    by_cases deep : f = .notJson .tooDeep
    · subst deep
      exact .upset (.tooDeep answers)
    · refine .fruitless (answers.conveys.isExpected_iff.mpr deep) ?_ ?_ (by simp [answers.returns])
      · rintro ⟨items, lists⟩
        cases answers.conveys.unique lists.conveys
      · rintro ⟨f', fails⟩
        cases fails with
        | tooDeep nests => exact deep (Except.error.inj (answers.conveys.unique nests.conveys))
        | tooFar starts refused => simp [answers.returns] at refused

/-- A query that is not heard finds nothing out. -/
theorem of_unheard {f : Fault} (expected : f.isExpected = true)
    (unheard : ¬ (w.endAt k < w.deadline ∧ (w.courseAt k).waited = .ended)) (waits : (w.courseAt k).waited ≠ .refused) :
    QueryEnds w k (.error f) := by
  refine .fruitless expected ?_ ?_ waits
  · rintro ⟨items, answers⟩
    exact unheard ⟨answers.ends, answers.returns⟩
  · rintro ⟨f', fails⟩
    cases fails with
    | tooDeep answers => exact unheard ⟨answers.ends, answers.returns⟩
    | tooFar starts refused => exact waits refused

end QueryEnds

/-- How a poll ends that starts before the deadline. -/
inductive PollEnds {T : Type} [Seconds T] (w : Wait T) (k : Nat) : Except Trouble Unit → Prop where
  | live (succeeds : w.Succeeds k) : PollEnds w k (.ok ())
  | upset {f : Fault} (fails : w.Fails k f) : PollEnds w k (.error (.call f))
  | late (undecided : ¬ w.Decides k) (late : ¬ w.endAt k < w.deadline) : PollEnds w k (.error (.ended .expired))
  | notLive (passes : w.Passes k) (ended : (w.courseAt k).waited = .ended) :
    PollEnds w k (.error (.notLive w.client.location.url))

section
variable {K : Type} [Field K] [LinearOrder K] [IsStrictOrderedRing K]
variable {w : Wait K} {s₀ s : Session K} {sent rests k : Nat} {now : K}

namespace Underway

theorem isDone_iff (h : Underway w s₀ sent rests now s) : s.isDone = true ↔ w.deadline ≤ now := by
  simp [Session.isDone, Lifetime.isDone, h.notCancelled, Lifetime.isExpired_iff h.deadline, h.now]

theorem isDone_eq_false_iff (h : Underway w s₀ sent rests now s) : s.isDone = false ↔ now < w.deadline := by
  rw [← Bool.not_eq_true, h.isDone_iff, not_le]

theorem ending?_of_late (h : Underway w s₀ sent rests now s) (late : w.deadline ≤ now) :
    s.ending? = some .expired := by
  have expired : s.lifetime.isExpired s.now = true := by
    rw [Lifetime.isExpired_iff h.deadline, h.now]
    exact late
  simp [Session.ending?, Lifetime.ending?, h.notCancelled, expired]

/-- The query of a poll takes the session to the poll's end. -/
theorem list (h : Underway w s₀ k rests (w.startAt k) s) (free : s.hasWorker = true) (steady : w.Steady)
    (starts : w.startAt k < w.deadline) :
    Underway w s₀ (k + 1) rests (w.endAt k) (w.client.list .infraEnvs s).1 := by
  rw [w.client.list_fst .infraEnvs h.opened (h.isDone_eq_false_iff.mpr starts)]
  exact h.exchange free steady

/-- The worker is free again once the request of a poll has ended. -/
theorem hasWorker_list (h : Underway w s₀ k rests (w.startAt k) s) (free : s.hasWorker = true)
    (starts : w.startAt k < w.deadline) (ended : (w.courseAt k).waited = .ended) :
    (w.client.list .infraEnvs s).1.hasWorker = true := by
  rw [← h.courseOf_eq free] at ended
  rw [w.client.list_fst .infraEnvs h.opened (h.isDone_eq_false_iff.mpr starts), Session.hasWorker,
    Session.strays_exchange_of_ended free ended]
  exact free

/-- A poll is heard whose request ends before the deadline. -/
theorem hears_iff (h : Underway w s₀ k rests (w.startAt k) s) (free : s.hasWorker = true) (steady : w.Steady)
    (starts : w.startAt k < w.deadline) :
    w.client.Hears .infraEnvs s ↔ w.endAt k < w.deadline ∧ (w.courseAt k).waited = .ended := by
  have inTime := (h.list free steady starts).isDone_eq_false_iff
  constructor
  · intro heard
    exact ⟨inTime.mp heard.inTime, by rw [← h.courseOf_eq free, heard.returns]⟩
  · rintro ⟨ends, ended⟩
    exact ⟨h.opened, by rw [h.courseOf_eq free, ended], inTime.mpr ends⟩

/-- The query of a poll ends as its answer tells, if it is heard, and finds nothing out if it is not. -/
theorem list_ends (h : Underway w s₀ k rests (w.startAt k) s) (free : s.hasWorker = true) (steady : w.Steady)
    (starts : w.startAt k < w.deadline) : QueryEnds w k (w.client.list .infraEnvs s).2 := by
  have course := h.courseOf_eq free
  have lasts : s.isDone = false := h.isDone_eq_false_iff.mpr starts
  have hears := h.hears_iff free steady starts
  have comes := w.client.list_comes .infraEnvs s
  generalize listed : (w.client.list .infraEnvs s).2 = result at comes
  cases comes with
  | closed closed => simp [h.opened] at closed
  | tooFar far => exact .upset (.tooFar starts (course ▸ far.refused))
  | dropped dropped => exact absurd dropped.tookBack (Session.waited_ne_takenBack free _)
  | @ending f ending unheard =>
    -- A wait that is refused fails by `tooFar`, which is no end of the lifetime.
    have waits : (w.courseAt k).waited ≠ .refused := by
      rw [← course]
      intro refused
      rw [w.client.list_of_refused .infraEnvs h.opened lasts refused] at listed
      cases listed
      cases ending
    exact .of_unheard (Fault.isExpected_of_isEnding ending) (fun inTime => unheard (hears.mpr inTime)) waits
  | conveyed heard sent conveys =>
    rw [h.replyTo_eq] at conveys
    obtain ⟨ends, ended⟩ := hears.mp heard
    exact .of_answers ⟨starts, ends, ended, conveys⟩

/-- A poll that starts at the deadline sends nothing. -/
theorem poll_of_late (h : Underway w s₀ k rests (w.startAt k) s) (late : w.deadline ≤ w.startAt k) :
    ∃ s', poll w.client s = (s', .error (.ended .expired)) ∧ Underway w s₀ k rests (w.startAt k) s' := by
  have ending := h.ending?_of_late late
  obtain ⟨es, he⟩ := poll_of_isExpected (w.client.list_of_ending .infraEnvs ending) rfl
  rw [ending] at he
  exact ⟨s.log es, he, h.log es⟩

/-- A poll that starts before the deadline sends one request and ends as the schedule tells. -/
theorem poll_of_starts (h : Underway w s₀ k rests (w.startAt k) s) (free : s.hasWorker = true) (steady : w.Steady)
    (starts : w.startAt k < w.deadline) :
    ∃ s' r, poll w.client s = (s', r) ∧ Underway w s₀ (k + 1) rests (w.endAt k) s' ∧
      ((w.courseAt k).waited = .ended → s'.hasWorker = true) ∧ PollEnds w k r := by
  have after := h.list free steady starts
  have again := h.hasWorker_list free starts
  have ends := h.list_ends free steady starts
  rcases hl : w.client.list .infraEnvs s with ⟨s', result⟩
  rw [hl] at after again ends
  cases ends with
  | live succeeds => exact ⟨s', _, poll_of_ok hl, after, again, .live succeeds⟩
  | upset fails => exact ⟨s', _, poll_of_not_isExpected hl fails.not_isExpected, after, again, .upset fails⟩
  | fruitless expected fruitless unfailing waits =>
    obtain ⟨es, he⟩ := poll_of_isExpected hl expected
    refine ⟨_, _, he, after.log es, again, ?_⟩
    by_cases ends : w.endAt k < w.deadline
    · rw [ending?_eq_none_iff.mpr (after.isDone_eq_false_iff.mpr ends)]
      exact .notLive ⟨starts, ends, fruitless, unfailing⟩ (Wait.ended_of_ends steady ends waits)
    · rw [after.ending?_of_late (not_lt.mp ends)]
      refine .late ?_ ends
      rintro (succeeds | ⟨crash, upsets⟩)
      · exact fruitless succeeds
      · exact ends upsets.ends

end Underway

/-! ## The whole wait -/

/-- The polls before a number all ended before the deadline and left the wait undecided. -/
def Undecided (w : Wait K) (k : Nat) : Prop := ∀ j < k, w.endAt j < w.deadline ∧ ¬ w.Decides j

omit [IsStrictOrderedRing K] in
theorem Undecided.succ (h : Undecided w k) (early : w.endAt k < w.deadline) (undecided : ¬ w.Decides k) :
    Undecided w (k + 1) := by
  intro j hj
  rcases Nat.lt_succ_iff_lt_or_eq.mp hj with hj | rfl
  · exact h j hj
  · exact ⟨early, undecided⟩

/-- How the attempts of a wait end, and in which session. -/
inductive PollsEnd (w : Wait K) (s₀ s : Session K) : Attempts.Ending Trouble Unit → Prop where
  | live (k : Nat) (before : Undecided w k) (succeeds : w.Succeeds k)
      (after : Underway w s₀ (k + 1) k (w.endAt k) s) : PollsEnd w s₀ s (.done ())
  | upset (k : Nat) (before : Undecided w k) {f : Fault} (fails : w.Fails k f)
      (after : Underway w s₀ (k + 1) k (w.endAt k) s) : PollsEnd w s₀ s (.failed (.call f))
  | overslept (k : Nat) (before : Undecided w k) (oversleeps : w.Oversleeps k)
      (after : Underway w s₀ (k + 1) k (w.endAt k) s) : PollsEnd w s₀ s (.failed .endlessPause)
  /-- The last poll is under way when the deadline is reached. -/
  | late (k : Nat) (before : Undecided w k) (starts : w.startAt k < w.deadline) (undecided : ¬ w.Decides k)
      (late : ¬ w.endAt k < w.deadline) (after : Underway w s₀ (k + 1) k (w.endAt k) s) :
      PollsEnd w s₀ s (.failed (.ended .expired))
  /-- The last pause reaches the deadline. -/
  | rested (k : Nat) (before : Undecided w k) (late : ¬ w.startAt k < w.deadline)
      (after : Underway w s₀ k k (w.startAt k) s) : PollsEnd w s₀ s (.failed (.ended .expired))

/-- The attempts run their course, provided that there are enough of them to reach the deadline. -/
theorem runFrom_pollsEnd (steady : w.Steady) {timeout interval : Nat} (hi : Seconds.ofNat? interval = some w.interval)
    {left : Nat} (enough : w.deadline ≤ w.startAt (k + left)) (before : Undecided w k)
    (h : Underway w s₀ k k (w.startAt k) s) (free : s.hasWorker = true) :
    ∃ s' e, (polls timeout interval w.client).runFrom left (k + 1) s = (s', e) ∧ PollsEnd w s₀ s' e := by
  induction left generalizing k s with
  | zero =>
    obtain ⟨s', hp, after⟩ := h.poll_of_late enough
    exact ⟨s', _, Attempts.runFrom_of_error _ 0 (k + 1) hp rfl, .rested k before (not_lt.mpr enough) after⟩
  | succ left ih =>
    by_cases starts : w.startAt k < w.deadline
    · obtain ⟨s', r, hp, after, again, ends⟩ := h.poll_of_starts free steady starts
      cases ends with
      | live succeeds => exact ⟨s', _, Attempts.runFrom_of_ok _ _ _ hp, .live k before succeeds after⟩
      | upset fails => exact ⟨s', _, Attempts.runFrom_of_error _ _ _ hp rfl, .upset k before fails after⟩
      | late undecided late =>
        exact ⟨s', _, Attempts.runFrom_of_error _ _ _ hp rfl, .late k before starts undecided late after⟩
      | notLive passes ended =>
        have noted := after.log [Journal.debug ("attempt " ++ toString (k + 1) ++ ": " ++
          (Trouble.notLive w.client.location.url).message)]
        obtain ⟨oversleeps, refused⟩ | ⟨sleeps, slept⟩ := noted.rest hi passes
        · exact ⟨_, _, Attempts.runFrom_of_unrested _ _ _ hp rfl rfl refused, .overslept k before oversleeps noted⟩
        · have undecided : ¬ w.Decides k := by
            rintro (succeeds | ⟨crash, upsets⟩)
            · exact passes.fruitless succeeds
            · cases upsets with
              | poll fails => exact passes.expected ⟨_, fails⟩
              | pause oversleeps => exact sleeps oversleeps
          rw [Attempts.runFrom_next _ _ _ hp rfl rfl slept]
          refine ih ?_ (before.succ passes.ends undecided) noted.sleep (again ended)
          rw [Nat.add_right_comm, Nat.add_assoc]
          exact enough
    · obtain ⟨s', hp, after⟩ := h.poll_of_late (not_lt.mp starts)
      exact ⟨s', _, Attempts.runFrom_of_error _ _ _ hp rfl, .rested k before starts after⟩

end
end InstallWatch.Command
