import Mathlib
import InstallWatch.Command.Run
import InstallWatch.Proofs.Command.Polls
import InstallWatch.Proofs.Json.Depth
import InstallWatch.Proofs.Service.Connection

/-!
How the command ends that waits until the service answers: with the first success, or at the deadline and not before.
Only what nobody expects breaks it off: a body that there is no room to read, and times too long for waiting or sleeping.
-/

namespace InstallWatch.Command
open InstallWatch.Service

section
variable {T : Type} [Seconds T]

theorem connect_eq_ok [Asset.Library] {t : Files.Tree} {env : Environment} {folder : Files.Path} {settings : Settings}
    {s s' : Session T} {c : Client T} (h : Client.connect t env folder settings s = (s', .ok c)) :
    ∃ es, s' = Client.attach (s.log es) := by
  rw [Client.connect_eq] at h
  generalize Destination.ofFolder t env folder = found at h
  obtain ⟨es, d⟩ := found
  cases d with
  | error f => cases h
  | ok d =>
    cases h
    exact ⟨es, rfl⟩

/-- What the command makes of how its attempts end. -/
def outcomeOf : Attempts.Ending Trouble Unit → Outcome
  | .done () => ⟨[], .done⟩
  | .failed (.call f) => .crashed (.call f)
  | .failed .endlessPause => .crashed .endlessPause
  | _ => .failed

theorem awaitApi_eq {c : Client T} {s : Session T} (timeout interval : Nat) {s' : Session T}
    {e : Attempts.Ending Trouble Unit}
    (h : (polls timeout interval c).run (s.log [Journal.info
      ("Waiting up to " ++ toString timeout ++ "s for the REST API at " ++ c.location.url)]) = (s', e)) :
    ∃ es, awaitApi timeout interval c s = ((Client.close s').log es, outcomeOf e) := by
  have unlogged : Client.close s' = (Client.close s').log [] := by simp [Session.log]
  unfold awaitApi
  simp only [h]
  cases e with
  | done => exact ⟨_, rfl⟩
  | exhausted t => exact ⟨_, rfl⟩
  | failed t =>
    cases t with
    | call f => exact ⟨[], congrArg (·, Outcome.crashed (.call f)) unlogged⟩
    | endlessPause => exact ⟨[], congrArg (·, Outcome.crashed .endlessPause) unlogged⟩
    | ended e => exact ⟨_, rfl⟩
    | notLive url => exact ⟨_, rfl⟩

end

section
variable {K : Type} [Field K] [LinearOrder K]

/-- The wait of a command for a client, from a session on. -/
def Wait.of (c : Client K) (s : Session K) (timeout interval : Nat) : Wait K :=
  ⟨c, s.server, s.now, s.now + timeout, interval⟩

/-- With a client the wait starts, in the session that connecting leaves behind, where the same workers are free. -/
theorem underway_connect [Asset.Library] {t : Files.Tree} {env : Environment} {folder : Files.Path} {settings : Settings}
    {s s' : Session K} {c : Client K} {timeout : Nat}
    (connects : Client.connect t env folder settings { s with lifetime := .lasting s.now (timeout : K) } =
      (s', .ok c)) (opened : s.isOpen = true) :
    Underway (Wait.of c s timeout settings.pollInterval) s 0 0 s.now s' ∧ s'.hasWorker = s.hasWorker := by
  obtain ⟨es, rfl⟩ := connect_eq_ok connects
  refine ⟨⟨rfl, rfl, rfl, rfl, opened, rfl, ?_, ?_⟩, rfl⟩
  · exact (List.append_nil s.requests).symm
  · exact (List.append_nil s.sleeps).symm

end

section
variable {K : Type} [Field K] [LinearOrder K] [IsStrictOrderedRing K]
variable {w : Wait K} {s₀ s : Session K} {sent rests k : Nat} {now : K}

/-! ## What a wait leaves behind -/

/-- What a wait has used up by its end: requests that start before the deadline, and pauses no longer than the
interval, none of which ends after the deadline. The connection is closed once. -/
structure Spent (w : Wait K) (s₀ after : Session K) (sent rests : Nat) : Prop where
  requests : after.requests = s₀.requests ++ (List.range sent).map w.requestAt
  starts : ∀ k < sent, w.startAt k < w.deadline
  sleeps : after.sleeps = s₀.sleeps ++ (List.range rests).map w.pauseAt
  rested : ∀ k < rests, w.pauseAt k ≤ w.interval ∧ w.endAt k + w.pauseAt k ≤ w.deadline
  closed : after.isOpen = false
  closes : after.closes = s₀.closes + 1

/-- What the command promises of a wait with room for a number of polls. -/
structure Keeps (w : Wait K) (most : Nat) (s₀ after : Session K) (exitCode : Nat) : Prop where
  succeeds_iff : exitCode = 0 ↔ ∃ k, w.Succeeds k
  /-- The first success ends the wait. -/
  stops : exitCode = 0 → ∃ k, w.Succeeds k ∧ (∀ j < k, ¬ w.Succeeds j) ∧
    after.requests.length = s₀.requests.length + (k + 1) ∧ after.now = w.endAt k
  fails : exitCode ≠ 0 → exitCode = 1 ∧ w.deadline ≤ after.now
  spent : ∃ sent ≤ most, ∃ rests, Spent w s₀ after sent rests

theorem Underway.spent (h : Underway w s₀ sent rests now s) (starts : ∀ k < sent, w.startAt k < w.deadline)
    (ends : ∀ k < rests, w.endAt k < w.deadline) (es : List Journal.Entry) :
    Spent w s₀ ((Client.close s).log es) sent rests where
  requests := h.requests
  starts := starts
  sleeps := h.sleeps
  rested k hk := ⟨w.pauseAt_le_interval k, Wait.pause_ends k (ends k hk)⟩
  closed := rfl
  closes := congrArg (· + 1) h.closes

theorem Undecided.starts (h : Undecided w k) (steady : w.Steady) : ∀ j < k, w.startAt j < w.deadline :=
  fun j hj => (Wait.startAt_le_endAt steady j).trans_lt (h j hj).1

theorem PollsEnd.spent {e : Attempts.Ending Trouble Unit} (h : PollsEnd w s₀ s e) (steady : w.Steady)
    (es : List Journal.Entry) : ∃ sent rests, Spent w s₀ ((Client.close s).log es) sent rests := by
  have andLast : ∀ {k}, Undecided w k → w.startAt k < w.deadline → ∀ j < k + 1, w.startAt j < w.deadline := by
    intro k before last j hj
    rcases Nat.lt_succ_iff_lt_or_eq.mp hj with hj | rfl
    · exact before.starts steady j hj
    · exact last
  cases h with
  | live k before succeeds after =>
    exact ⟨_, _, after.spent (andLast before (Wait.Decides.starts (.inl succeeds))) (fun j hj => (before j hj).1) es⟩
  | upset k before fails after =>
    exact ⟨_, _, after.spent (andLast before fails.starts) (fun j hj => (before j hj).1) es⟩
  | overslept k before oversleeps after =>
    exact ⟨_, _, after.spent (andLast before oversleeps.passes.starts) (fun j hj => (before j hj).1) es⟩
  | late k before starts undecided late after =>
    exact ⟨_, _, after.spent (andLast before starts) (fun j hj => (before j hj).1) es⟩
  | rested k before late after =>
    exact ⟨_, _, after.spent (before.starts steady) (fun j hj => (before j hj).1) es⟩

/-- The three ends of a wait: the first success, a break before the deadline, or the deadline undecided. -/
inductive Ends (w : Wait K) (s₀ after : Session K) : Verdict → Prop where
  | live (k : Nat) (succeeds : w.Succeeds k) (before : ∀ j < k, ¬ w.Decides j)
      (requests : after.requests.length = s₀.requests.length + (k + 1)) (now : after.now = w.endAt k) :
      Ends w s₀ after .done
  | broken {crash : Crash} (breaks : w.Breaks crash) (now : after.now < w.deadline) : Ends w s₀ after (.crashed crash)
  | vain (undecided : ∀ k, ¬ w.Decides k) (now : w.deadline ≤ after.now) : Ends w s₀ after .failed

theorem PollsEnd.ends {e : Attempts.Ending Trouble Unit} (h : PollsEnd w s₀ s e) (steady : w.Steady)
    (paused : 0 ≤ w.interval) (es : List Journal.Entry) :
    Ends w s₀ ((Client.close s).log es) (outcomeOf e).verdict := by
  have now : ((Client.close s).log es).now = s.now := rfl
  have requests : ((Client.close s).log es).requests = s.requests := rfl
  -- the poll, or the pause after it, that breaks the wait off
  have broken : ∀ {k crash}, Undecided w k → w.Upsets k crash → Underway w s₀ (k + 1) k (w.endAt k) s →
      Ends w s₀ ((Client.close s).log es) (.crashed crash) := by
    intro k crash before upsets after
    refine .broken ⟨k, upsets, fun j hj => (before j hj).2⟩ ?_
    rw [now, after.now]
    exact upsets.ends
  cases h with
  | live k before succeeds after =>
    refine .live k succeeds (fun j hj => (before j hj).2) ?_ (now.trans after.now)
    rw [requests, after.requests, List.length_append, List.length_map, List.length_range]
  | upset k before fails after => exact broken before (.poll fails) after
  | overslept k before oversleeps after => exact broken before (.pause oversleeps) after
  | late k before starts undecided late after =>
    have reached := not_lt.mp late
    refine .vain (fun j => ?_) (by rwa [now, after.now])
    rcases Nat.lt_trichotomy j k with hj | rfl | hj
    · exact (before j hj).2
    · exact undecided
    · exact Wait.not_decides_of_reached steady paused
        (reached.trans (Wait.endAt_le_startAt_succ paused k)) hj
  | rested k before late after =>
    have reached := not_lt.mp late
    refine .vain (fun j => ?_) (by rwa [now, after.now])
    rcases Nat.lt_or_ge j k with hj | hj
    · exact (before j hj).2
    · exact Wait.not_decides_of_reached steady paused reached hj

theorem Spent.sent_le {after : Session K} (h : Spent w s₀ after sent rests) (steady : w.Steady)
    {timeout interval : Nat} (pos : 0 < interval) (hd : w.deadline = w.begins + timeout)
    (hi : w.interval = interval) : sent ≤ Decimal.ceilDiv timeout interval := by
  cases sent with
  | zero => exact Nat.zero_le _
  | succ n => exact Wait.lt_ceilDiv_of_starts steady pos hd hi (h.starts n (Nat.lt_succ_self n))

/-! ## The command -/

/-- There are enough attempts to run their course. -/
theorem run_pollsEnd {c : Client K} {s t : Session K} {timeout interval : Nat} (pos : 1 ≤ timeout)
    (small : timeout < 2 ^ 53) (intervalPos : 0 < interval) (short : interval < 2 ^ 53)
    (steady : (Wait.of c s timeout interval).Steady)
    (h : Underway (Wait.of c s timeout interval) s 0 0 s.now t) (free : t.hasWorker = true) :
    ∃ last e, (polls timeout interval c).run t = (last, e) ∧ PollsEnd (Wait.of c s timeout interval) s last e := by
  have more : (polls timeout interval c).more = Decimal.ceilDiv timeout interval :=
    Decimal.ceilRounded_eq_ceilDiv pos intervalPos small short
  have enough : (Wait.of c s timeout interval).deadline ≤
      (Wait.of c s timeout interval).startAt (0 + (polls timeout interval c).more) := by
    rw [Nat.zero_add, more]
    exact Wait.deadline_le_startAt steady intervalPos rfl rfl
  exact runFrom_pollsEnd steady rfl enough nofun h free

section
variable [Asset.Library]

/-- The command's attempts run their course, and the command ends as they do. -/
theorem execute_pollsEnd (x : Surroundings K) (folder : Files.Path) (settings : Settings) {timeout : Nat}
    {s s' : Session K} {c : Client K} (pos : 1 ≤ timeout) (small : timeout < 2 ^ 53)
    (short : settings.pollInterval < 2 ^ 53) (opened : s.isOpen = true) (free : s.hasWorker = true)
    (connects : Client.connect x.tree x.environment folder settings
      { s with lifetime := .lasting s.now (timeout : K) } = (s', .ok c))
    (steady : (Wait.of c s timeout settings.pollInterval).Steady) :
    ∃ last e es, PollsEnd (Wait.of c s timeout settings.pollInterval) s last e ∧
      execute x folder settings (.waitForApi timeout) s = ((Client.close last).log es, outcomeOf e) := by
  have executed : execute x folder settings (.waitForApi timeout) s =
      awaitApi timeout settings.pollInterval c s' := by
    simp only [execute, Seconds.ofNat?, connects]
  obtain ⟨started, free'⟩ := underway_connect connects opened
  obtain ⟨last, e, hrun, course⟩ := run_pollsEnd pos small settings.pollInterval_pos short steady
    (started.log [Journal.info
      ("Waiting up to " ++ toString timeout ++ "s for the REST API at " ++ c.location.url)]) (free'.trans free)
  obtain ⟨entries, hawait⟩ := awaitApi_eq timeout settings.pollInterval hrun
  exact ⟨last, e, entries, course, executed.trans hawait⟩

/-- The command ends in one of the three ways, whatever it has used up by then. -/
theorem execute_ends (x : Surroundings K) (folder : Files.Path) (settings : Settings) {timeout : Nat}
    {s s' : Session K} {c : Client K} (pos : 1 ≤ timeout) (small : timeout < 2 ^ 53)
    (short : settings.pollInterval < 2 ^ 53) (opened : s.isOpen = true) (free : s.hasWorker = true)
    (connects : Client.connect x.tree x.environment folder settings
      { s with lifetime := .lasting s.now (timeout : K) } = (s', .ok c))
    (steady : (Wait.of c s timeout settings.pollInterval).Steady) :
    ∃ after outcome, execute x folder settings (.waitForApi timeout) s = (after, outcome) ∧
      (∃ sent ≤ Decimal.ceilDiv timeout settings.pollInterval, ∃ rests,
        Spent (Wait.of c s timeout settings.pollInterval) s after sent rests) ∧
      Ends (Wait.of c s timeout settings.pollInterval) s after outcome.verdict := by
  obtain ⟨last, e, es, course, executed⟩ :=
    execute_pollsEnd x folder settings pos small short opened free connects steady
  obtain ⟨sent, rests, spent⟩ := course.spent steady es
  have few := spent.sent_le steady settings.pollInterval_pos rfl rfl
  exact ⟨_, _, executed, ⟨sent, few, rests, spent⟩, course.ends steady (Nat.cast_nonneg _) es⟩

/-- The command that waits keeps its promise, for all replies of the service, exactly as long as nothing breaks it off:
a body that there is no room to read, no waiting for so long as is left until the deadline, or a pause that nobody can
sleep through. Then the command breaks off before the deadline, with everything else as promised. The attempts are never
exhausted. -/
theorem waitForApi_keeps_iff (x : Surroundings K) (folder : Files.Path) (settings : Settings) {timeout : Nat}
    {s s' : Session K} {c : Client K} (pos : 1 ≤ timeout) (small : timeout < 2 ^ 53)
    (short : settings.pollInterval < 2 ^ 53) (opened : s.isOpen = true) (free : s.hasWorker = true)
    (connects : Client.connect x.tree x.environment folder settings
      { s with lifetime := .lasting s.now (timeout : K) } = (s', .ok c))
    (steady : (Wait.of c s timeout settings.pollInterval).Steady) :
    (Keeps (Wait.of c s timeout settings.pollInterval) (Decimal.ceilDiv timeout settings.pollInterval) s
        (execute x folder settings (.waitForApi timeout) s).1
        (execute x folder settings (.waitForApi timeout) s).2.verdict.exitCode ↔
      ¬ ∃ crash, (Wait.of c s timeout settings.pollInterval).Breaks crash) ∧
    (∀ crash, (Wait.of c s timeout settings.pollInterval).Breaks crash →
      (execute x folder settings (.waitForApi timeout) s).2.verdict = .crashed crash ∧
      (execute x folder settings (.waitForApi timeout) s).1.now < s.now + timeout ∧
      ∃ sent ≤ Decimal.ceilDiv timeout settings.pollInterval, ∃ rests,
        Spent (Wait.of c s timeout settings.pollInterval) s
          (execute x folder settings (.waitForApi timeout) s).1 sent rests) ∧
    ∀ es t, ((polls timeout settings.pollInterval c).run (s'.log es)).2 ≠ .exhausted t := by
  obtain ⟨after, outcome, executed, spent, ends⟩ :=
    execute_ends x folder settings pos small short opened free connects steady
  have lasts : ∀ es t, ((polls timeout settings.pollInterval c).run (s'.log es)).2 ≠ .exhausted t := by
    intro es t exhausted
    obtain ⟨started, free'⟩ := underway_connect connects opened
    obtain ⟨last, e, hrun, course⟩ :=
      run_pollsEnd pos small settings.pollInterval_pos short steady (started.log es) (free'.trans free)
    rw [hrun] at exhausted
    cases exhausted
    cases course
  rw [executed]
  generalize outcome.verdict = verdict at ends
  cases ends with
  | live k succeeds before requests now =>
    have whole : ¬ ∃ crash, (Wait.of c s timeout settings.pollInterval).Breaks crash := by
      rintro ⟨crash, j, upsets, none⟩
      rcases Nat.lt_trichotomy j k with hj | rfl | hj
      · exact before j hj (.inr ⟨crash, upsets⟩)
      · exact upsets.not_succeeds succeeds
      · exact none k hj (.inl succeeds)
    refine ⟨⟨fun _ => whole, fun _ => ⟨?_, ?_, ?_, spent⟩⟩, fun crash breaks => absurd ⟨crash, breaks⟩ whole, lasts⟩
    · exact ⟨fun _ => ⟨k, succeeds⟩, fun _ => rfl⟩
    · exact fun _ => ⟨k, succeeds, fun j hj success => before j hj (.inl success), requests, now⟩
    · exact fun unsuccessful => absurd rfl unsuccessful
  | @broken crash breaks now =>
    refine ⟨⟨fun keeps => ?_, fun whole => absurd ⟨crash, breaks⟩ whole⟩, fun crash' breaks' => ?_, lasts⟩
    · have late := (keeps.fails Nat.one_ne_zero).2
      exact absurd now (not_lt.mpr late)
    · rw [breaks.unique breaks']
      exact ⟨rfl, now, spent⟩
  | vain undecided now =>
    have whole : ¬ ∃ crash, (Wait.of c s timeout settings.pollInterval).Breaks crash := by
      rintro ⟨crash, j, upsets, -⟩
      exact undecided j (.inr ⟨crash, upsets⟩)
    refine ⟨⟨fun _ => whole, fun _ => ⟨?_, ?_, ?_, spent⟩⟩, fun crash breaks => absurd ⟨crash, breaks⟩ whole, lasts⟩
    · refine ⟨fun success => absurd success Nat.one_ne_zero, fun success => ?_⟩
      obtain ⟨k, succeeds⟩ := success
      exact absurd (.inl succeeds) (undecided k)
    · exact fun success => absurd success Nat.one_ne_zero
    · exact fun _ => ⟨rfl, now⟩

end

end

/-! ## Two waits -/

section
attribute [local instance] Asset.Library.plain

/-- The rendezvous host is pinned, and the service there gives these replies. -/
def pinned (replies : List (Reply ℚ)) : Surroundings ℚ :=
  ⟨⟨⟨.root, []⟩, [(["agent-config.yaml"], .file "rendezvousIP: 10.0.0.5\n".toUTF8.data.toList)]⟩, .empty, "", 0,
    ⟨[("infra-envs", replies)]⟩⟩

/-- The session in which a command starts. -/
def fresh (replies : List (Reply ℚ)) : Session ℚ := .start 0 .unbounded (pinned replies).server

/-- The client for the host that is pinned. -/
def nearby : Client ℚ := .ofDestination ⟨.v4 ⟨10, 0, 0, 5⟩, []⟩ .standard

theorem connect_pinned (replies : List (Reply ℚ)) (s : Session ℚ) :
    ∃ s', Client.connect (pinned replies).tree (pinned replies).environment ⟨.here, []⟩ .standard s =
      (s', .ok nearby) := by
  have found : (Destination.ofFolder (pinned []).tree .empty ⟨.here, []⟩).2.toOption.map
      (fun d => (d.address, d.sshKeys)) = some (.v4 ⟨10, 0, 0, 5⟩, []) := by decide +kernel
  have same : Client.connect (pinned replies).tree (pinned replies).environment ⟨.here, []⟩ .standard s =
    Client.connect (pinned []).tree .empty ⟨.here, []⟩ .standard s := rfl
  rw [same, Client.connect_eq]
  generalize Destination.ofFolder (pinned []).tree .empty ⟨.here, []⟩ = destination at found
  obtain ⟨es, d⟩ := destination
  cases d with
  | error f => cases found
  | ok d =>
    obtain ⟨address, sshKeys⟩ := d
    cases found
    exact ⟨_, rfl⟩

theorem steady_pinned {replies : List (Reply ℚ)} (h : ∀ r ∈ replies, IsSteady r) (timeout interval : Nat) :
    (Wait.of nearby (fresh replies) timeout interval).Steady := by
  refine Wait.steady_of_all ?_
  intro e he
  rw [List.mem_singleton.mp he]
  exact h

theorem steady_atOnce (outcome : Except Outage Answer) : IsSteady (.atOnce outcome : Reply ℚ) :=
  ⟨Seconds.not_lt_self _, rfl⟩

theorem answer_nearby (server : Server ℚ) :
    server.answer (nearby.urlOf .infraEnvs) [] = server.next "infra-envs" :=
  Server.answer_of_target (by decide +kernel) server

theorem replyAt_zero (r : Reply ℚ) (rs : List (Reply ℚ)) (timeout interval : Nat) :
    (Wait.of nearby (fresh (r :: rs)) timeout interval).replyAt 0 = r := by
  show ((fresh (r :: rs)).server.answer (nearby.urlOf .infraEnvs) []).1 = r
  rw [answer_nearby]
  cases rs <;> rfl

theorem replyAt_one (r r' : Reply ℚ) (rs : List (Reply ℚ)) (timeout interval : Nat) :
    (Wait.of nearby (fresh (r :: r' :: rs)) timeout interval).replyAt 1 = r' := by
  show (((fresh (r :: r' :: rs)).server.answer (nearby.urlOf .infraEnvs) []).2.answer
    (nearby.urlOf .infraEnvs) []).1 = r'
  rw [answer_nearby, answer_nearby]
  cases rs <;> rfl

/-- A service that lists nothing at once is found live at once. -/
theorem waitForApi_keeps_at_once :
    (execute (pinned [.nothing]) ⟨.here, []⟩ .standard (.waitForApi 7) (fresh [.nothing])).2.verdict.exitCode = 0 := by
  have steady : (Wait.of nearby (fresh [.nothing]) 7 Settings.standard.pollInterval).Steady := by
    refine steady_pinned (fun r hr => ?_) _ _
    rw [List.mem_singleton.mp hr]
    exact steady_atOnce _
  have starts : (Wait.of nearby (fresh [.nothing]) 7 Settings.standard.pollInterval).startAt 0 <
      (Wait.of nearby (fresh [.nothing]) 7 Settings.standard.pollInterval).deadline := by
    show (0 : ℚ) < 0 + (7 : Nat)
    norm_num
  have succeeds : (Wait.of nearby (fresh [.nothing]) 7 Settings.standard.pollInterval).Succeeds 0 :=
    ⟨[], (Wait.answers_of_atOnce (replyAt_zero .nothing [] 7 _) starts
      (.items ⟨200, "", .json (.list []), 0⟩ (by simp [Refuses]) [] rfl)).1⟩
  have whole : ¬ ∃ crash, (Wait.of nearby (fresh [.nothing]) 7 Settings.standard.pollInterval).Breaks crash := by
    rintro ⟨crash, k, upsets, none⟩
    cases k with
    | zero => exact upsets.not_succeeds succeeds
    | succ k => exact none 0 (Nat.succ_pos k) (.inl succeeds)
  obtain ⟨s', connects⟩ := connect_pinned [.nothing] _
  have keeps := (waitForApi_keeps_iff (pinned [.nothing]) ⟨.here, []⟩ .standard (show 1 ≤ 7 by decide)
    (by decide) (by decide) rfl rfl connects steady).1.mpr whole
  exact keeps.succeeds_iff.mpr ⟨0, succeeds⟩

/-- An answer of as many opening brackets, to a reader with the usual room. -/
def brackets (n : Nat) : Answer := ⟨200, "", .bytes (List.replicate n 91), 965⟩

/-- One body nested too deep, before the service lists nothing. -/
def overwhelming : List (Reply ℚ) := [.atOnce (.ok (brackets 2000)), .nothing]

/-- The second poll would succeed before the deadline, but the command has broken off with the first one. -/
theorem waitForApi_breaks_off :
    (Wait.of nearby (fresh overwhelming) 7 Settings.standard.pollInterval).Succeeds 1 ∧
    (execute (pinned overwhelming) ⟨.here, []⟩ .standard (.waitForApi 7) (fresh overwhelming)).2.verdict.exitCode = 1 ∧
    (execute (pinned overwhelming) ⟨.here, []⟩ .standard (.waitForApi 7) (fresh overwhelming)).1.now < 7 := by
  have steady : (Wait.of nearby (fresh overwhelming) 7 Settings.standard.pollInterval).Steady := by
    refine steady_pinned (fun r hr => ?_) _ _
    simp only [overwhelming, List.mem_cons, List.not_mem_nil, or_false] at hr
    rcases hr with rfl | rfl
    · exact steady_atOnce _
    · exact steady_atOnce _
  have starts : (Wait.of nearby (fresh overwhelming) 7 Settings.standard.pollInterval).startAt 0 <
      (Wait.of nearby (fresh overwhelming) 7 Settings.standard.pollInterval).deadline := by
    show (0 : ℚ) < 0 + (7 : Nat)
    norm_num
  have first : (Wait.of nearby (fresh overwhelming) 7 Settings.standard.pollInterval).replyAt 0 =
      .atOnce (.ok (brackets 2000)) := replyAt_zero _ _ _ _
  have second : (Wait.of nearby (fresh overwhelming) 7 Settings.standard.pollInterval).replyAt 1 = .nothing :=
    replyAt_one _ _ _ _ _
  have accepts : ¬ Refuses 200 := by simp [Refuses]
  obtain ⟨overwhelms, ends⟩ := Wait.answers_of_atOnce first starts
    (.overwhelming (brackets 2000) accepts (Json.ofBytes_brackets (by decide : 4 ≤ 2000) (by decide)))
  have again : (Wait.of nearby (fresh overwhelming) 7 Settings.standard.pollInterval).startAt 1 = 5 := by
    show Wait.endAt _ 0 + Wait.pauseFrom _ (Wait.endAt _ 0) = (5 : ℚ)
    rw [ends]
    decide +kernel
  have succeeds : (Wait.of nearby (fresh overwhelming) 7 Settings.standard.pollInterval).Succeeds 1 := by
    refine ⟨[], (Wait.answers_of_atOnce second ?_ (.items ⟨200, "", .json (.list []), 0⟩ accepts [] rfl)).1⟩
    rw [again]
    show (5 : ℚ) < 0 + (7 : Nat)
    norm_num
  obtain ⟨s', connects⟩ := connect_pinned overwhelming _
  obtain ⟨after, outcome, executed, -, ends⟩ := execute_ends (pinned overwhelming) ⟨.here, []⟩ .standard
    (show 1 ≤ 7 by decide) (by decide) (by decide) rfl rfl connects steady
  rw [executed]
  refine ⟨succeeds, ?_⟩
  generalize outcome.verdict = verdict at ends
  have upsets : (Wait.of nearby (fresh overwhelming) 7 Settings.standard.pollInterval).Upsets 0
      (.call (.notJson .tooDeep)) := .poll (.tooDeep overwhelms)
  cases ends with
  | live k succeeds before requests now =>
    cases k with
    | zero => exact absurd succeeds upsets.not_succeeds
    | succ k => exact absurd (.inr ⟨_, upsets⟩) (before 0 (Nat.succ_pos k))
  | broken breaks now => exact ⟨rfl, now.trans_eq (by decide +kernel)⟩
  | vain undecided now => exact absurd (.inr ⟨_, upsets⟩) (undecided 0)

end

end InstallWatch.Command
