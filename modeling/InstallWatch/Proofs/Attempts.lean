import Mathlib
import InstallWatch.Attempts
import InstallWatch.Failure

/-!
What the calls of a function do if each of them tries it again. Everything is written down as it happens: how each
invocation ended, what the observer was told, and the pauses. An attempt adds one round to what is written down or ends
the call, so a call is some rounds and an end, and calls in turn are such calls one after the other.
-/

namespace InstallWatch.Attempts

/-- A function each call of which tries it again, with the state `σ` of all that it and the others can touch. Its
arguments are `A` and its results `α`, the failures are `ε` with kinds `τ`, and `D` are times to pause. -/
structure Retried (A D σ ε τ α : Type) where
  name : String
  /-- How many attempts there may be. -/
  asked : Int
  positive : 1 ≤ asked
  delay : D
  invoke : A → σ → σ × Except ε α
  isA : ε → τ → Bool
  /-- The kinds of failures that are worth another attempt. -/
  kinds : List τ
  /-- Who is told of failed attempts, if there is anybody, and may fail by that. -/
  observer? : Option (Nat → ε → σ → σ × Option ε)
  /-- Lets time pass, and may fail by that, too. -/
  sleep : D → σ → σ × Option ε

inductive Event (A D ε α : Type) where
  | invoked (arguments : A) (outcome : Except ε α)
  | told (number : Nat) (failure : ε) (raised : Option ε)
  | slept (delay : D) (raised : Option ε)
deriving DecidableEq

/-- What the observer or a pause fails with, if that is what happens. -/
def Event.raised? {A D ε α : Type} : Event A D ε α → Option ε
  | invoked _ _ => none
  | told _ _ raised | slept _ raised => raised

/-- What a call comes to for its caller. -/
inductive Answer (ε α : Type) where
  | returned (result : α)
  | raised (failure : ε)
  | gaveUp (message : String) (cause : ε)
deriving DecidableEq

structure Call (A D ε α : Type) where
  arguments : A
  events : List (Event A D ε α)
  answer : Answer ε α
deriving DecidableEq

namespace Retried

variable {A D σ ε τ α : Type}

def limit (t : Retried A D σ ε τ α) : Nat := t.asked.toNat

def isRetryable (t : Retried A D σ ε τ α) (e : ε) : Bool := t.kinds.any (t.isA e)

/-- The attempts of a call, which write down what they do. -/
def attempts (t : Retried A D σ ε τ α) (x : A) : Attempts (σ × List (Event A D ε α)) ε α where
  more := t.limit - 1
  action := fun (s, events) =>
    let (s, outcome) := t.invoke x s
    ((s, events ++ [.invoked x outcome]), outcome)
  isRetryable := t.isRetryable
  observe := fun k e (s, events) =>
    match t.observer? with
    | none => ((s, events), none)
    | some tell =>
      let (s, raised) := tell k e s
      ((s, events ++ [.told k e raised]), raised)
  pause := fun (s, events) =>
    let (s, raised) := t.sleep t.delay s
    ((s, events ++ [.slept t.delay raised]), raised)

def answer (t : Retried A D σ ε τ α) : Ending ε α → Answer ε α
  | .done a => .returned a
  | .failed e => .raised e
  | .exhausted e => .gaveUp (exhaustedText t.name t.limit) e

def call (t : Retried A D σ ε τ α) (x : A) (s : σ) : σ × Call A D ε α :=
  let ((s, events), ending) := (t.attempts x).run (s, [])
  (s, ⟨x, events, t.answer ending⟩)

/-- Calls in turn. -/
def calls (t : Retried A D σ ε τ α) : List A → σ → σ × List (Call A D ε α)
  | [], s => (s, [])
  | x :: xs, s =>
    let (s, c) := t.call x s
    let (s, cs) := t.calls xs s
    (s, c :: cs)

/-! ## What is owed -/

/-- One thing happens and leads from a state to another. -/
inductive Step (t : Retried A D σ ε τ α) : σ → Event A D ε α → σ → Prop where
  | invoked (x : A) (s s' : σ) (outcome : Except ε α) (ends : t.invoke x s = (s', outcome)) :
      Step t s (.invoked x outcome) s'
  | told (tell : Nat → ε → σ → σ × Option ε) (there : t.observer? = some tell) (k : Nat) (e : ε) (s s' : σ)
      (raised : Option ε) (ends : tell k e s = (s', raised)) : Step t s (.told k e raised) s'
  | slept (d : D) (s s' : σ) (raised : Option ε) (ends : t.sleep d s = (s', raised)) : Step t s (.slept d raised) s'

/-- These things happen one after the other. -/
inductive Happen (t : Retried A D σ ε τ α) : σ → List (Event A D ε α) → σ → Prop where
  | nil (s : σ) : Happen t s [] s
  | cons (s s' s'' : σ) (event : Event A D ε α) (events : List (Event A D ε α)) (first : t.Step s event s')
      (rest : Happen t s' events s'') : Happen t s (event :: events) s''

/-- The observer is told, if there is one, and does not fail. -/
def telling (t : Retried A D σ ε τ α) (k : Nat) (e : ε) : List (Event A D ε α) :=
  (t.observer?.map fun _ => .told k e none).toList

/-- Failures after each of which another attempt is made, numbered from here. -/
def rounds (t : Retried A D σ ε τ α) (x : A) : Nat → List ε → List (Event A D ε α)
  | _, [] => []
  | k, e :: es => .invoked x (.error e) :: t.telling k e ++ .slept t.delay none :: t.rounds x (k + 1) es

/-- How the last attempt, which has this number, ends the call. -/
inductive Ends (t : Retried A D σ ε τ α) (x : A) (k : Nat) : List (Event A D ε α) → Answer ε α → Prop where
  | returned (a : α) : Ends t x k [.invoked x (.ok a)] (.returned a)
  | raised (e : ε) (other : t.isRetryable e = false) : Ends t x k [.invoked x (.error e)] (.raised e)
  | observerRaised (e f : ε) (retryable : t.isRetryable e = true) :
      Ends t x k [.invoked x (.error e), .told k e (some f)] (.raised f)
  | sleepRaised (e f : ε) (retryable : t.isRetryable e = true) (early : k < t.limit) :
      Ends t x k (.invoked x (.error e) :: t.telling k e ++ [.slept t.delay (some f)]) (.raised f)
  | gaveUp (e : ε) (retryable : t.isRetryable e = true) (last : k = t.limit) :
      Ends t x k (.invoked x (.error e) :: t.telling k e) (.gaveUp (exhaustedText t.name t.limit) e)

/-- What a call does: some rounds, fewer than there may be attempts, and an end. -/
def Runs (t : Retried A D σ ε τ α) (c : Call A D ε α) : Prop :=
  ∃ failures last, c.events = t.rounds c.arguments 1 failures ++ last ∧ failures.length < t.limit ∧
    (∀ e ∈ failures, t.isRetryable e = true) ∧ t.Ends c.arguments (failures.length + 1) last c.answer

/-- The failures that are worth another attempt. -/
def failures (t : Retried A D σ ε τ α) (events : List (Event A D ε α)) : List ε :=
  events.filterMap fun
    | .invoked _ (.error e) => if t.isRetryable e then some e else none
    | _ => none

variable {t : Retried A D σ ε τ α} {x : A} {s s' s'' : σ} {k : Nat} {e : ε}

theorem limit?_asked (t : Retried A D σ ε τ α) : limit? t.asked = some t.limit := by
  have positive := t.positive
  rw [limit?, if_neg (by omega), limit]

theorem limit_pos (t : Retried A D σ ε τ α) : 0 < t.limit := by
  have positive := t.positive
  rw [limit]
  omega

theorem Step.happen {event : Event A D ε α} (h : t.Step s event s') : t.Happen s [event] s' :=
  .cons s s' s' event [] h (.nil s')

theorem Happen.append {first second : List (Event A D ε α)} (h : t.Happen s first s') (h' : t.Happen s' second s'') :
    t.Happen s (first ++ second) s'' := by
  induction h with
  | nil => exact h'
  | cons s s₁ s₂ event events step _ ih => exact .cons s s₁ s'' event _ step (ih h')

/-! ## Attempts -/

/-- What comes of telling the observer. -/
theorem observe_cases (t : Retried A D σ ε τ α) (x : A) (k : Nat) (e : ε) (s : σ) (events : List (Event A D ε α)) :
    ∃ s', (t.Happen s (t.telling k e) s' ∧
        (t.attempts x).observe k e (s, events) = ((s', events ++ t.telling k e), none)) ∨
      ∃ f, t.Happen s [.told k e (some f)] s' ∧
        (t.attempts x).observe k e (s, events) = ((s', events ++ [.told k e (some f)]), some f) := by
  cases there : t.observer? with
  | none =>
    refine ⟨s, .inl ?_⟩
    simp only [telling, attempts, there, Option.map_none, Option.toList_none, List.append_nil, and_true]
    exact .nil s
  | some tell =>
    rcases ends : tell k e s with ⟨s', raised⟩
    have happens := (Step.told tell there k e s s' raised ends).happen
    refine ⟨s', ?_⟩
    cases raised with
    | none =>
      left
      simp only [telling, attempts, there, ends, Option.map_some, Option.toList_some, and_true]
      exact happens
    | some f =>
      right
      refine ⟨f, happens, ?_⟩
      simp only [attempts, there, ends]

theorem pause_eq (t : Retried A D σ ε τ α) (x : A) {s s' : σ} {raised : Option ε}
    (sleeps : t.sleep t.delay s = (s', raised)) (events : List (Event A D ε α)) :
    (t.attempts x).pause (s, events) = ((s', events ++ [.slept t.delay raised]), raised) := by
  simp only [attempts, sleeps]

/-- An attempt ends the call, or it fails so that it is worth another one. -/
theorem attempt_cases (t : Retried A D σ ε τ α) (x : A) (k : Nat) (s : σ) (events : List (Event A D ε α)) :
    (∃ s' last ending, (∀ left, (t.attempts x).runFrom left k (s, events) = ((s', events ++ last), ending)) ∧
        t.Happen s last s' ∧ t.Ends x k last (t.answer ending)) ∨
      ∃ s₁ s' e, (t.attempts x).action (s, events) = ((s₁, events ++ [.invoked x (.error e)]), .error e) ∧
        t.isRetryable e = true ∧
        (t.attempts x).observe k e (s₁, events ++ [.invoked x (.error e)]) =
          ((s', events ++ .invoked x (.error e) :: t.telling k e), none) ∧
        t.Happen s (.invoked x (.error e) :: t.telling k e) s' := by
  rcases ends : t.invoke x s with ⟨s₁, outcome⟩
  have acts : (t.attempts x).action (s, events) = ((s₁, events ++ [.invoked x outcome]), outcome) := by
    simp only [attempts, ends]
  have invoked := Step.invoked x s s₁ outcome ends
  cases outcome with
  | ok a => exact .inl ⟨s₁, _, .done a, fun left => runFrom_of_ok _ _ _ acts, invoked.happen, .returned a⟩
  | error e =>
    cases retryable : t.isRetryable e with
    | false =>
      exact .inl ⟨s₁, _, .failed e, fun left => runFrom_of_error _ _ _ acts retryable, invoked.happen,
        .raised e retryable⟩
    | true =>
      obtain ⟨s₂, ⟨told, observes⟩ | ⟨f, told, observes⟩⟩ :=
        t.observe_cases x k e s₁ (events ++ [.invoked x (.error e)])
      · rw [List.append_assoc, List.singleton_append] at observes
        exact .inr ⟨s₁, s₂, e, acts, retryable, observes, .cons _ _ _ _ _ invoked told⟩
      · rw [List.append_assoc, List.singleton_append] at observes
        exact .inl ⟨s₂, _, .failed f, fun left => runFrom_of_raised _ _ _ acts retryable observes,
          .cons _ _ _ _ _ invoked told, .observerRaised e f retryable⟩

/-- The attempts that are left make some rounds and an end. -/
theorem runFrom_attempts (t : Retried A D σ ε τ α) (x : A) (left : Nat) :
    ∀ (k : Nat) (s : σ) (events : List (Event A D ε α)), k + left = t.limit →
      ∃ s' failures last ending,
        (t.attempts x).runFrom left k (s, events) = ((s', events ++ (t.rounds x k failures ++ last)), ending) ∧
        t.Happen s (t.rounds x k failures ++ last) s' ∧ failures.length ≤ left ∧
        (∀ e ∈ failures, t.isRetryable e = true) ∧ t.Ends x (k + failures.length) last (t.answer ending) := by
  -- numbers go up as the attempts left go down, so the last attempt has the limit as its number
  induction left with
  | zero =>
    intro k s events bound
    rcases t.attempt_cases x k s events with
      ⟨s', last, ending, runs, happens, ends⟩ | ⟨s₁, s', e, fails, retryable, told, happens⟩
    · exact ⟨s', [], last, ending, runs 0, happens, le_rfl, nofun, ends⟩
    · exact ⟨s', [], _, .exhausted e, runFrom_last _ _ fails retryable told, happens, le_rfl, nofun,
        .gaveUp e retryable bound⟩
  | succ left ih =>
    intro k s events bound
    rcases t.attempt_cases x k s events with
      ⟨s', last, ending, runs, happens, ends⟩ | ⟨s₁, s', e, fails, retryable, told, happens⟩
    · exact ⟨s', [], last, ending, runs (left + 1), happens, Nat.zero_le _, nofun, ends⟩
    · rcases sleeps : t.sleep t.delay s' with ⟨s₂, raised⟩
      have slept := Step.slept t.delay s' s₂ raised sleeps
      have pauses := t.pause_eq x sleeps (events ++ .invoked x (.error e) :: t.telling k e)
      cases raised with
      | some f =>
        have ends : t.Ends x k (.invoked x (.error e) :: t.telling k e ++ [.slept t.delay (some f)]) (.raised f) :=
          .sleepRaised e f retryable (by omega)
        refine ⟨s₂, [], _, .failed f, ?_, happens.append slept.happen, Nat.zero_le _, nofun, ends⟩
        rw [runFrom_of_unrested _ _ _ fails retryable told pauses, List.append_assoc]
        rfl
      | none =>
        obtain ⟨s'', failures, last, ending, runs, happens', short, retryables, ends⟩ := ih (k + 1) s₂
          ((events ++ .invoked x (.error e) :: t.telling k e) ++ [.slept t.delay none]) (by omega)
        refine ⟨s'', e :: failures, last, ending, ?_, ?_, Nat.succ_le_succ short, ?_, ?_⟩
        · rw [runFrom_next _ _ _ fails retryable told pauses]
          refine runs.trans ?_
          simp only [rounds, List.append_assoc, List.cons_append, List.nil_append]
        · rw [rounds, List.append_assoc]
          exact happens.append (.cons _ _ _ _ _ slept happens')
        · exact List.forall_mem_cons.mpr ⟨retryable, retryables⟩
        · rw [List.length_cons, Nat.add_comm failures.length, ← Nat.add_assoc]
          exact ends

/-! ## Calls -/

theorem call_runs (t : Retried A D σ ε τ α) (x : A) (s : σ) :
    (t.call x s).2.arguments = x ∧ t.Happen s (t.call x s).2.events (t.call x s).1 ∧ t.Runs (t.call x s).2 := by
  have bound : 1 + (t.limit - 1) = t.limit := by
    have := t.limit_pos
    omega
  obtain ⟨s', failures, last, ending, runs, happens, short, retryables, ends⟩ :=
    t.runFrom_attempts x (t.limit - 1) 1 s [] bound
  have result : t.call x s = (s', ⟨x, t.rounds x 1 failures ++ last, t.answer ending⟩) := by
    rw [call, run]
    simp only [show (t.attempts x).more = t.limit - 1 from rfl, runs, List.nil_append]
  rw [result]
  refine ⟨rfl, happens, failures, last, rfl, by omega, retryables, ?_⟩
  rw [Nat.add_comm]
  exact ends

theorem failures_append (t : Retried A D σ ε τ α) (first second : List (Event A D ε α)) :
    t.failures (first ++ second) = t.failures first ++ t.failures second :=
  List.filterMap_append

theorem failures_telling : t.failures (t.telling k e) = [] := by
  unfold failures telling
  cases t.observer? <;> rfl

theorem failures_attempt (retryable : t.isRetryable e = true) :
    t.failures (.invoked x (.error e) :: t.telling k e) = [e] := by
  have invoked : t.failures [.invoked x (.error e)] = [e] := by simp [failures, retryable]
  rw [← List.singleton_append, failures_append, invoked, failures_telling, List.append_nil]

theorem failures_rounds {es : List ε} (retryables : ∀ e ∈ es, t.isRetryable e = true) :
    t.failures (t.rounds x k es) = es := by
  induction es generalizing k with
  | nil => rfl
  | cons e es ih =>
    obtain ⟨retryable, retryables⟩ := List.forall_mem_cons.mp retryables
    have slept : t.failures (.slept t.delay none :: t.rounds x (k + 1) es) = t.failures (t.rounds x (k + 1) es) := rfl
    rw [rounds, failures_append, failures_attempt retryable, slept, ih retryables, List.singleton_append]

theorem raised?_of_mem_telling {event : Event A D ε α} (h : event ∈ t.telling k e) : event.raised? = none := by
  unfold telling at h
  cases there : t.observer? with
  | none => simp [there] at h
  | some tell =>
    simp only [there, Option.map_some, Option.toList_some, List.mem_singleton] at h
    rw [h, Event.raised?]

theorem raised?_of_mem_attempt {event : Event A D ε α} (h : event ∈ .invoked x (.error e) :: t.telling k e) :
    event.raised? = none := by
  rcases List.mem_cons.mp h with rfl | h
  · rfl
  · exact raised?_of_mem_telling h

/-- In a round nothing fails but the attempt. -/
theorem raised?_of_mem_rounds {es : List ε} {event : Event A D ε α} (h : event ∈ t.rounds x k es) :
    event.raised? = none := by
  induction es generalizing k with
  | nil => cases h
  | cons e es ih =>
    rcases List.mem_append.mp h with attempt | rest
    · exact raised?_of_mem_attempt attempt
    · rcases List.mem_cons.mp rest with rfl | rest
      · rfl
      · exact ih rest

/-- A call gives up if every attempt there may be has failed, and nothing else ended it. -/
theorem Runs.gaveUp_iff {c : Call A D ε α} (h : t.Runs c) (message : String) (cause : ε) :
    c.answer = .gaveUp message cause ↔
      message = t.name ++ " failed after " ++ toString t.limit ++ " attempts" ∧
      (t.failures c.events).length = t.limit ∧ (t.failures c.events).getLast? = some cause ∧
      ∀ event ∈ c.events, event.raised? = none := by
  obtain ⟨x, events, answer⟩ := c
  obtain ⟨es, last, split, short, retryables, ends⟩ := h
  dsimp only at split ends ⊢
  subst split
  rw [failures_append, failures_rounds retryables]
  cases ends with
  | returned a =>
    have none : t.failures [.invoked x (.ok a)] = [] := rfl
    rw [none, List.append_nil]
    constructor
    · exact nofun
    · intro h
      obtain ⟨_, full, _⟩ := h
      exact absurd full short.ne
  | raised e other =>
    have none : t.failures [.invoked x (.error e)] = [] := by simp [failures, other]
    rw [none, List.append_nil]
    constructor
    · exact nofun
    · intro h
      obtain ⟨_, full, _⟩ := h
      exact absurd full short.ne
  | observerRaised e f retryable =>
    constructor
    · exact nofun
    · intro h
      obtain ⟨_, _, _, quiet⟩ := h
      cases quiet (.told (es.length + 1) e (some f)) (by simp)
  | sleepRaised e f retryable early =>
    constructor
    · exact nofun
    · intro h
      obtain ⟨_, _, _, quiet⟩ := h
      cases quiet (.slept t.delay (some f)) (by simp)
  | gaveUp e retryable final =>
    rw [failures_attempt retryable, List.length_append, List.length_singleton, List.getLast?_append_cons]
    constructor
    · intro h
      obtain ⟨⟩ := h
      refine ⟨rfl, final, rfl, fun event mem => ?_⟩
      rcases List.mem_append.mp mem with mem | mem
      · exact raised?_of_mem_rounds mem
      · exact raised?_of_mem_attempt mem
    · intro h
      obtain ⟨rfl, _, ⟨⟩, _⟩ := h
      rfl

/-- A failure is worth another attempt if it is of one of the kinds. -/
theorem isRetryable_iff (t : Retried A D σ ε τ α) (e : ε) :
    t.isRetryable e = true ↔ ∃ kind ∈ t.kinds, t.isA e kind = true :=
  List.any_eq_true

/-- Calls in turn happen one after the other, each with its own arguments and its own attempts: as many rounds as there
are failures of the kinds worth another attempt, and the end that the last attempt calls for. They give up, with a
message that names the function and the number of attempts, exactly if every attempt there may be has failed so, and
neither the observer nor a pause has. -/
theorem calls_account (t : Retried A D σ ε τ α) (xs : List A) (s : σ) :
    limit? t.asked = some t.limit ∧ (t.limit : Int) = t.asked ∧
    (∀ e, t.isRetryable e = true ↔ ∃ kind ∈ t.kinds, t.isA e kind = true) ∧
    (t.calls xs s).2.map Call.arguments = xs ∧
    t.Happen s ((t.calls xs s).2.flatMap Call.events) (t.calls xs s).1 ∧
    ∀ c ∈ (t.calls xs s).2, t.Runs c ∧
      ∀ message cause, c.answer = .gaveUp message cause ↔
        message = t.name ++ " failed after " ++ toString t.limit ++ " attempts" ∧
        (t.failures c.events).length = t.limit ∧ (t.failures c.events).getLast? = some cause ∧
        ∀ event ∈ c.events, event.raised? = none := by
  refine ⟨t.limit?_asked, Int.toNat_of_nonneg (Int.le_trans (by decide) t.positive), t.isRetryable_iff, ?_⟩
  induction xs generalizing s with
  | nil => exact ⟨rfl, .nil s, nofun⟩
  | cons x xs ih =>
    obtain ⟨arguments, happens, runs⟩ := t.call_runs x s
    obtain ⟨arguments', happens', runs'⟩ := ih (t.call x s).1
    refine ⟨congrArg₂ List.cons arguments arguments', happens.append happens', ?_⟩
    exact List.forall_mem_cons.mpr ⟨⟨runs, runs.gaveUp_iff⟩, runs'⟩

/-- The second call has as many attempts as the first one, which used up its own. -/
theorem calls_account_afresh :
    let unready : Failure := ⟨.notReady, "not yet"⟩
    let poll : Retried String Nat Nat Failure Failure.Kind Nat :=
      { name := "poll", asked := 2, positive := by decide, delay := 5
        invoke := fun _ n => (n + 1, if n < 3 then .error unready else .ok n)
        isA := fun f k => f.kind.isA k, kinds := [.notReady]
        observer? := some fun _ _ n => (n, none), sleep := fun _ n => (n, none) }
    (poll.calls ["a", "b"] 0).2 =
      [⟨"a", [.invoked "a" (.error unready), .told 1 unready none, .slept 5 none, .invoked "a" (.error unready),
          .told 2 unready none], .gaveUp "poll failed after 2 attempts" unready⟩,
        ⟨"b", [.invoked "b" (.error unready), .told 1 unready none, .slept 5 none, .invoked "b" (.ok 3)], .returned 3⟩] ∧
    ∀ c ∈ (poll.calls ["a", "b"] 0).2, poll.Runs c := by
  intro unready poll
  obtain ⟨-, -, -, -, -, runs⟩ := poll.calls_account ["a", "b"] 0
  exact ⟨by decide +kernel, fun c hc => (runs c hc).1⟩

end Retried

end InstallWatch.Attempts
