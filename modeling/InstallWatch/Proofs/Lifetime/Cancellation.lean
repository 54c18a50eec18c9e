import Mathlib
import InstallWatch.Lifetime.Scope

/-!
What a cancellation sets off. The first one runs the callbacks that wait for it, each once and in the order of
registration, whatever errors those before it raise; only one that asks for an exit is the last to run. From then on a
callback runs when it is registered, and at no other time. All of it follows from one fact: once a scope is over, with
nothing left to wait, running a callback changes the record of calls and nothing else.
-/

namespace InstallWatch

/-- The items up to the first for which something holds, and that one. -/
def upTo {α : Type} (p : α → Bool) : List α → List α
  | [] => []
  | a :: as => a :: if p a then [] else upTo p as

theorem upTo_eq_self {α : Type} {p : α → Bool} {as : List α} (h : ∀ a ∈ as, p a = false) : upTo p as = as := by
  induction as with
  | nil => rfl
  | cons a as ih =>
    obtain ⟨first, rest⟩ := List.forall_mem_cons.mp h
    rw [upTo, if_neg (by simp [first]), ih rest]

/-- What the callback raises ends one that registers it and catches these only. -/
def PlainCallback.escapes (catches : List Raise) (p : PlainCallback) : Bool :=
  p.raises.any fun r => decide (r ∉ catches)

namespace Callback

/-- The callbacks that run when this one does: itself, and those that it registers, up to one that ends it. -/
def told (c : Callback) : List String :=
  c.name :: (upTo (PlainCallback.escapes c.catches) c.registers).map (·.name)

/-- What comes of the callback when it runs: what ends it, or else what it raises in the end. -/
def raised (c : Callback) : Option Raise :=
  match c.registers.find? (PlainCallback.escapes c.catches) with
  | some p => p.raises
  | none => c.raises

theorem failure_eq (c : Callback) :
    c.failure = ⟨Journal.Level.error, "cancel callback cb:" ++ c.name ++ " failed"⟩ := by
  have shown : "cancel callback " ++ c.shown = "cancel callback cb:" ++ c.name := String.append_assoc.symm
  rw [failure, shown, Journal.error]

/-- The callback asks for an exit when it runs. -/
def exits (c : Callback) : Bool := c.raised = some .exit

/-- The callback raises an error when it runs. -/
def errs (c : Callback) : Bool := c.raised = some .error

end Callback

namespace Scope

variable {T : Type}

/-- The callbacks that run because of a step after the cancellation. -/
def Step.told : Step T → List String
  | .register c => c.told
  | _ => []

/-- The cancellation has taken place, and nothing waits for it any more. -/
structure Over (s : Scope T) : Prop where
  cancelled : s.lifetime.isCancelled = true
  idle : s.lifetime.pending = []

/-! ## After the cancellation -/

theorem Over.cancelled_eq_self {s : Scope T} (h : Over s) : s.cancel = (s, none) := by
  simp [cancel, Lifetime.cancel_of_cancelled h.cancelled, runAll]

theorem Over.registerPlain {s : Scope T} (h : Over s) (p : PlainCallback) :
    s.registerPlain p = (s.note p.name, p.raises) := by
  simp [Scope.registerPlain, (Lifetime.register_eq_none_iff _ _).mpr h.cancelled]

/-- Plain callbacks that are registered one after the other run one after the other, up to one that raises what is not
caught. -/
theorem Over.registerAll {s : Scope T} (h : Over s) (catches : List Raise) (ps : List PlainCallback) :
    s.registerAll catches ps =
      ({ s with calls := s.calls ++ (upTo (PlainCallback.escapes catches) ps).map (·.name) },
        (ps.find? (PlainCallback.escapes catches)).bind (·.raises)) := by
  induction ps generalizing s with
  | nil => simp [Scope.registerAll, upTo]
  | cons p ps ih =>
    have noted : Over (s.note p.name) := ⟨h.cancelled, h.idle⟩
    rw [Scope.registerAll, h.registerPlain]
    cases raises : p.raises with
    | none =>
      dsimp only
      rw [ih noted]
      simp [upTo, PlainCallback.escapes, raises, note]
    | some r =>
      dsimp only
      split
      · rename_i caught
        rw [ih noted]
        simp [upTo, PlainCallback.escapes, raises, caught, note]
      · rename_i uncaught
        simp [upTo, PlainCallback.escapes, raises, uncaught, note]

theorem find?_escapes_raises {catches : List Raise} {ps : List PlainCallback} {p : PlainCallback}
    (h : ps.find? (PlainCallback.escapes catches) = some p) : ∃ r, p.raises = some r := by
  have escapes := List.find?_some h
  unfold PlainCallback.escapes at escapes
  cases raises : p.raises with
  | none => simp [raises] at escapes
  | some r => exact ⟨r, rfl⟩

theorem Over.run {s : Scope T} (h : Over s) (c : Callback) :
    s.run c = ({ s with calls := s.calls ++ c.told }, c.raised) := by
  have noted : Over (s.note c.name) := ⟨h.cancelled, h.idle⟩
  unfold Scope.run Callback.raised Callback.told
  rw [noted.registerAll]
  cases found : c.registers.find? (PlainCallback.escapes c.catches) with
  | none => simp [note, Lifetime.cancel_of_cancelled h.cancelled]
  | some p =>
    obtain ⟨r, raises⟩ := find?_escapes_raises found
    simp [note, raises]

/-- The callbacks that are due run once and in order, up to one that asks for an exit; each that raises an error leaves
one entry and holds up no other. -/
theorem Over.runAll {s : Scope T} (h : Over s) (due : List Callback) :
    s.runAll due =
      ({ s with
          calls := s.calls ++ (upTo Callback.exits due).flatMap Callback.told
          entries := s.entries ++ ((upTo Callback.exits due).filter Callback.errs).map Callback.failure },
        if due.any Callback.exits then some .exit else none) := by
  induction due generalizing s with
  | nil => simp [Scope.runAll, upTo]
  | cons c due ih =>
    have ran : ∀ entries, Over { s with calls := s.calls ++ c.told, entries } := fun _ => ⟨h.cancelled, h.idle⟩
    rw [Scope.runAll, h.run]
    cases raised : c.raised with
    | none => simp [ih (ran s.entries), upTo, Callback.exits, Callback.errs, raised]
    | some r =>
      cases r with
      | error => simp [ih (ran _), upTo, Callback.exits, Callback.errs, raised]
      | exit => simp [upTo, Callback.exits, Callback.errs, raised]

theorem Over.register {s : Scope T} (h : Over s) (c : Callback) :
    s.register c =
      ({ s with
          calls := s.calls ++ c.told
          handles := s.handles ++ if c.raised.isSome then [] else [.spent] }, c.raised) := by
  unfold Scope.register
  rw [(Lifetime.register_eq_none_iff _ _).mpr h.cancelled]
  dsimp only
  rw [h.run]
  cases c.raised <;> simp

theorem Over.unregister {s : Scope T} (h : Over s) (handle : Nat) : s.unregister handle = s := by
  unfold Scope.unregister
  split
  · rename_i c _
    have nothing : s.lifetime.pending.erase c = s.lifetime.pending := by simp [h.idle]
    rw [Lifetime.unregister, nothing]
  · rfl

/-- A step after the cancellation runs what it registers, and nothing else. -/
theorem Over.step [Seconds T] {s : Scope T} (h : Over s) (x : Step T) :
    Over (s.step x) ∧ (s.step x).calls = s.calls ++ x.told ∧ (s.step x).entries = s.entries := by
  cases x with
  | register c =>
    rw [show s.step (.register c) = (s.register c).1 from rfl, h.register]
    exact ⟨⟨h.cancelled, h.idle⟩, rfl, rfl⟩
  | unregister handle =>
    rw [show s.step (.unregister handle) = s.unregister handle from rfl, h.unregister]
    exact ⟨h, by simp [Step.told], rfl⟩
  | cancel =>
    rw [show s.step .cancel = s.cancel.1 from rfl, h.cancelled_eq_self]
    exact ⟨h, by simp [Step.told], rfl⟩
  | advance seconds => exact ⟨⟨h.cancelled, h.idle⟩, by simp [Scope.step, Scope.advance, Step.told], rfl⟩

theorem Over.steps [Seconds T] {s : Scope T} (h : Over s) (xs : List (Step T)) :
    Over (s.steps xs) ∧ (s.steps xs).calls = s.calls ++ xs.flatMap Step.told ∧
      (s.steps xs).entries = s.entries := by
  induction xs generalizing s with
  | nil => exact ⟨h, by simp [Scope.steps], rfl⟩
  | cons x xs ih =>
    obtain ⟨stays, calls, entries⟩ := h.step x
    obtain ⟨stays', calls', entries'⟩ := ih stays
    refine ⟨stays', ?_, entries'.trans entries⟩
    rw [show s.steps (x :: xs) = (s.step x).steps xs from rfl, calls', calls]
    simp

/-! ## Before the cancellation -/

/-- Nothing has run, and nothing has been noted. -/
structure Waiting (s : Scope T) : Prop where
  live : s.lifetime.isCancelled = false
  calls : s.calls = []
  entries : s.entries = []

theorem Waiting.step [Seconds T] {s : Scope T} (h : Waiting s) {x : Step T} (hx : x ≠ .cancel) :
    Waiting (s.step x) := by
  cases x with
  | register c =>
    have kept : s.register c =
        ({ s with
            lifetime := { s.lifetime with pending := s.lifetime.pending ++ [c] }
            handles := s.handles ++ [.held c] }, none) := by
      simp [Scope.register, Lifetime.register, h.live]
    simp only [Scope.step, kept]
    exact ⟨h.live, h.calls, h.entries⟩
  | unregister handle =>
    simp only [Scope.step, Scope.unregister]
    split
    · exact ⟨h.live, h.calls, h.entries⟩
    · exact h
  | cancel => exact absurd rfl hx
  | advance seconds => exact ⟨h.live, h.calls, h.entries⟩

theorem Waiting.steps [Seconds T] {s : Scope T} (h : Waiting s) {xs : List (Step T)} (hxs : ∀ x ∈ xs, x ≠ .cancel) :
    Waiting (s.steps xs) := by
  induction xs generalizing s with
  | nil => exact h
  | cons x xs ih =>
    have first : Waiting (s.step x) := h.step (hxs x List.mem_cons_self)
    exact ih first fun y hy => hxs y (List.mem_cons_of_mem x hy)

/-! ## The first cancellation -/

/-- The scope in which what is due at the first cancellation runs. -/
def cancelling (s : Scope T) : Scope T := { s with lifetime := s.lifetime.cancel.1 }

theorem Waiting.cancel {s : Scope T} (h : Waiting s) :
    s.cancel = s.cancelling.runAll s.lifetime.pending ∧ Over s.cancelling := by
  obtain ⟨idle, due⟩ := Lifetime.pending_cancel s.lifetime h.live
  refine ⟨?_, Lifetime.isCancelled_cancel _, idle⟩
  unfold Scope.cancel cancelling
  dsimp only
  rw [due]

/-- Where none of the first callbacks asks for an exit, the others run after them. -/
theorem Over.runAll_append {s : Scope T} (h : Over s) {ran : List Callback} (rest : List Callback)
    (stay : ∀ c ∈ ran, c.exits = false) : s.runAll (ran ++ rest) = (s.runAll ran).1.runAll rest := by
  induction ran generalizing s with
  | nil => rfl
  | cons c ran ih =>
    obtain ⟨stays, others⟩ := List.forall_mem_cons.mp stay
    have begun : ∀ entries, Over { s with calls := s.calls ++ c.told, entries } := fun _ => ⟨h.cancelled, h.idle⟩
    rw [List.cons_append, Scope.runAll, Scope.runAll, h.run]
    cases raised : c.raised with
    | none => exact ih (begun _) others
    | some r =>
      cases r with
      | error => exact ih (begun _) others
      | exit => simp [Callback.exits, raised] at stays

/-- What a first cancellation and the steps after it owe to those who registered callbacks. -/
structure Tells [Seconds T] (s : Scope T) (after : List (Step T)) : Prop where
  /-- Until then no callback has run. -/
  waiting : Waiting s
  /-- Once callbacks that were due first have run, none of which has asked for an exit, the others are next; and while
  they run all is over. -/
  inTurn : ∀ ran rest, s.lifetime.pending = ran ++ rest → (∀ c ∈ ran, c.exits = false) →
    s.cancel = (s.cancelling.runAll ran).1.runAll rest ∧ Over (s.cancelling.runAll ran).1 ∧
      (s.cancelling.runAll ran).1.calls = ran.flatMap Callback.told
  /-- All that are due run, or all up to one that asks for an exit, and after them what is registered, when it is
  registered. -/
  calls : (s.steps (.cancel :: after)).calls =
    (upTo Callback.exits s.lifetime.pending).flatMap Callback.told ++ after.flatMap Step.told
  all : (∀ c ∈ s.lifetime.pending, c.exits = false) → upTo Callback.exits s.lifetime.pending = s.lifetime.pending
  /-- One entry tells of each of those that raised an error, and there is no other one. -/
  entries : (s.steps (.cancel :: after)).entries =
    ((upTo Callback.exits s.lifetime.pending).filter Callback.errs).map fun c =>
      ⟨Journal.Level.error, "cancel callback cb:" ++ c.name ++ " failed"⟩
  /-- Whoever cancels meets an exit that is asked for, and nothing else. -/
  raised : s.cancel.2 = if s.lifetime.pending.any Callback.exits then some .exit else none
  stays : Over (s.steps (.cancel :: after))
  /-- A plain callback that a running one registers runs at once, and what it raises is met there. -/
  nested : ∀ q : Scope T, Over q → ∀ p, q.registerPlain p = (q.note p.name, p.raises)
  /-- Whoever registers a callback now meets what it raises. -/
  answer : ∀ c, ((s.steps (.cancel :: after)).register c).2 = c.raised

/-- Whatever is registered and taken back, and whatever errors the callbacks raise, the first cancellation runs each of
those that wait for it once, in their order, up to one that asks for an exit if there is one, and from then on each one
runs when it is registered. -/
theorem first_cancel_tells [Seconds T] (now : T) (deadline : Option T) (before after : List (Step T))
    (first : ∀ x ∈ before, x ≠ .cancel) : Tells ((start now ⟨deadline, false, []⟩).steps before) after := by
  have fresh : Waiting (start now (⟨deadline, false, []⟩ : Lifetime T Callback)) := ⟨rfl, rfl, rfl⟩
  have waiting := fresh.steps first
  generalize (start now ⟨deadline, false, []⟩).steps before = s at waiting
  obtain ⟨cancelled, begins⟩ := waiting.cancel
  have calls : s.cancelling.calls = [] := waiting.calls
  have entries : s.cancelling.entries = [] := waiting.entries
  have ends : Over s.cancel.1 := by
    rw [cancelled, begins.runAll]
    exact ⟨begins.cancelled, begins.idle⟩
  obtain ⟨stays, calls', entries'⟩ := ends.steps after
  have run : s.steps (.cancel :: after) = s.cancel.1.steps after := rfl
  refine ⟨waiting, ?_, ?_, upTo_eq_self, ?_, ?_, stays, fun _ => Over.registerPlain, ?_⟩
  · intro ran rest due stay
    refine ⟨by rw [cancelled, due, begins.runAll_append rest stay], ?_⟩
    rw [begins.runAll]
    exact ⟨⟨begins.cancelled, begins.idle⟩, by simp [calls, upTo_eq_self stay]⟩
  · rw [run, calls', cancelled, begins.runAll]
    simp [calls]
  · rw [run, entries', cancelled, begins.runAll]
    simp only [entries, List.nil_append]
    exact List.map_congr_left fun c _ => c.failure_eq
  · rw [cancelled, begins.runAll]
  · intro c
    rw [run, stays.register]

/-- A callback that registers others, catches what one of them raises, cancels again and raises an error. -/
def meddler : Callback := ⟨"meddler", [⟨"late", some .error⟩, ⟨"later", none⟩], [.error], true, some .error⟩

/-- A meddler that is registered twice, and once more after the cancellation, holds up no other callback. -/
theorem first_cancel_tells_meddlers :
    let before : List (Step Float) :=
      [.register meddler, .register (.plain "gone"), .advance 1.0, .register meddler, .unregister 1,
        .register (.plain "last")]
    let after : List (Step Float) := [.cancel, .register meddler, .unregister 0, .register (.plain "new")]
    let s := (start 0.0 ⟨none, false, []⟩).steps before
    (∀ x ∈ before, x ≠ .cancel) ∧ s.lifetime.pending = [meddler, meddler, .plain "last"] ∧
      (s.steps (.cancel :: after)).calls =
        ["meddler", "late", "later", "meddler", "late", "later", "last", "meddler", "late", "later", "new"] ∧
      (s.steps (.cancel :: after)).entries =
        [⟨40, "cancel callback cb:meddler failed"⟩, ⟨40, "cancel callback cb:meddler failed"⟩] ∧
      s.cancel.2 = none ∧ ((s.steps (.cancel :: after)).register meddler).2 = some .error := by
  intro before after s
  have first : ∀ x ∈ before, x ≠ .cancel := by simp [before]
  have tells : Tells s after := first_cancel_tells 0.0 none before after first
  have pending : s.lifetime.pending = [meddler, meddler, .plain "last"] := by decide
  refine ⟨first, pending, ?_, ?_, ?_, tells.answer meddler⟩
  · rw [tells.calls, pending]
    rfl
  · rw [tells.entries, pending]
    rfl
  · rw [tells.raised, pending]
    rfl

/-- Every callback that waits for the cancellation runs, whatever is raised, and one entry tells of each that raised
something. -/
structure RunsAll [Seconds T] (s : Scope T) : Prop where
  calls : (s.step .cancel).calls = s.lifetime.pending.flatMap Callback.told
  entries : (s.step .cancel).entries = (s.lifetime.pending.filter (·.raised.isSome)).map Callback.failure

/-- A callback that asks for an exit. -/
def quitter : Callback := .ofPlain ⟨"quit", some .exit⟩

/-- The callback behind one that asks for an exit is lost, and the journal says nothing of either. -/
theorem exit_loses_the_rest :
    let s := (start 0.0 (⟨none, false, []⟩ : Lifetime Float Callback)).steps [.register quitter, .register (.plain "last")]
    s.lifetime.pending = [quitter, .plain "last"] ∧ (s.step .cancel).calls = ["quit"] ∧ (s.step .cancel).entries = [] ∧
      s.cancel.2 = some .exit ∧ ¬ RunsAll s := by
  intro s
  have calls : (s.step .cancel).calls = ["quit"] := by decide
  refine ⟨by decide, calls, by decide, by decide, fun all => ?_⟩
  have both := calls.symm.trans all.calls
  exact absurd both (by decide)

end Scope

end InstallWatch
