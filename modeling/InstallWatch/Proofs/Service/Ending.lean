import Mathlib
import InstallWatch.Proofs.Lifetime.Onward
import InstallWatch.Proofs.Service.Course

/-!
A lifetime that calls share, in the hands of any number of clients and of others. Whatever they do with it, it goes
onward; and the first call that reports its end is right, so that every later one reports the end as well and sends
nothing.
-/

namespace InstallWatch.Service

/-- What can be done with a lifetime that clients share. -/
inductive Use (T : Type) where
  /-- A client takes a step. -/
  | step (c : Client T) (st : Step T)
  /-- What follows goes over another connection, whatever its workers are at. -/
  | connect (isOpen : Bool) (strays : List Bool) (queue : List (Request T))
  | register (h : Hook)
  | unregister (h : Hook)

theorem Conveys.not_isEnding {T : Type} {c : Client T} {q : Query} {outcome : Except Outage Answer} {f : Fault}
    (h : Conveys c q outcome (.error f)) : f.isEnding = false := by
  cases h <;> rfl

/-- Once the lifetime is over, every call reports so and does nothing else. -/
theorem Client.list_of_isDone {T : Type} [Seconds T] (c : Client T) (q : Query) {s : Session T}
    (done : s.isDone = true) :
    ∃ f, c.list q s = (s, .error f) ∧ f.isEnding = true := by
  obtain ⟨e, he⟩ := ending?_of_isDone done
  exact ⟨.ended e, c.list_of_ending q he, rfl⟩

namespace Session

section
variable {T : Type} [Seconds T]

def use (s : Session T) : Use T → Session T
  | .step c st => c.step s st
  | .connect isOpen strays queue => { s with isOpen := isOpen, strays := strays, queue := queue }
  | .register h => s.register h
  | .unregister h => s.unregister h

def uses (s : Session T) (us : List (Use T)) : Session T := us.foldl use s

theorem uses_append (s : Session T) (us vs : List (Use T)) : s.uses (us ++ vs) = (s.uses us).uses vs :=
  List.foldl_append

end

section
variable {K : Type} [Preorder K]

/-- A session has gone on to this one. -/
def Onward (s s' : Session K) : Prop := Lifetime.Onward s.lifetime s.now s'.lifetime s'.now

theorem onward_register (s : Session K) (h : Hook) : Onward s (s.register h) := by
  have onward := Lifetime.Onward.register s.lifetime h s.now
  unfold register
  cases registered : s.lifetime.register h with
  | none => cases h <;> exact .refl _ _
  | some l =>
    rw [registered] at onward
    exact onward

theorem onward_cancel (s : Session K) : Onward s s.cancel := by
  rw [cancel_eq]
  exact .cancel _ _

end

end Session

section
variable {K : Type} [Field K] [LinearOrder K]

namespace Client

/-- A step in which the clock does not go back. -/
def Forward (c : Client K) (s : Session K) : Step K → Prop
  | .call k => s.isOpen = true → s.isDone = false → 0 ≤ (s.replyTo (c.request k.query s)).lag
  | .advance seconds => 0 ≤ seconds
  | _ => True

end Client

/-- A use of a session in which the clock does not go back. -/
def Use.Forward (s : Session K) : Use K → Prop
  | .step c st => c.Forward s st
  | _ => True

/-- Uses one after the other in which the clock does not go back. -/
def Session.Orderly (s : Session K) : List (Use K) → Prop
  | [] => True
  | u :: us => u.Forward s ∧ (s.use u).Orderly us

theorem Session.orderly_append {s : Session K} {us vs : List (Use K)} :
    s.Orderly (us ++ vs) ↔ s.Orderly us ∧ (s.uses us).Orderly vs := by
  induction us generalizing s with
  | nil => simp [Orderly, uses]
  | cons u us ih =>
    rw [List.cons_append, Orderly, Orderly, ih, and_assoc]
    rfl

end

section
variable {K : Type} [Field K] [LinearOrder K] [IsStrictOrderedRing K]

namespace Client

/-- A call that reports the end of the lifetime is right. -/
theorem isDone_of_list_isEnding (c : Client K) (q : Query) {s : Session K} {f : Fault}
    (failed : (c.list q s).2 = .error f) (ending : f.isEnding = true) : (c.list q s).1.isDone = true := by
  cases lasts : s.isDone with
  | true =>
    obtain ⟨e, he⟩ := ending?_of_isDone lasts
    rw [c.list_of_ending q he, lasts]
  | false =>
    cases opened : s.isOpen with
    | false =>
      rw [c.list_error_of_closed q opened lasts] at failed
      cases failed
      cases ending
    | true =>
      rw [c.list_fst q opened lasts]
      cases waited : (s.courseOf (c.request q s)).waited with
      | refused =>
        rw [c.list_of_refused q opened lasts waited] at failed
        cases failed
        cases ending
      | givenUp => exact Session.isDone_of_isAbandoned lasts (.inl waited)
      | takenBack => exact Session.isDone_of_isAbandoned lasts (.inr waited)
      | ended =>
        by_contra still
        have conveys := c.list_conveys q opened lasts (by simpa using still) waited
        rw [failed] at conveys
        rw [conveys.not_isEnding] at ending
        cases ending

theorem onward_list (c : Client K) (q : Query) {s : Session K} (forward : c.Forward s (.call (.list q))) :
    Session.Onward s (c.list q s).1 := by
  cases lasts : s.isDone with
  | true =>
    obtain ⟨e, he⟩ := ending?_of_isDone lasts
    rw [c.list_of_ending q he]
    exact .refl _ _
  | false =>
    cases opened : s.isOpen with
    | false =>
      rw [c.list_of_closed q opened]
      exact .refl _ _
    | true =>
      obtain ⟨now, -, -, -, -, deadline, isCancelled⟩ := s.exchange_frame (c.request q s)
      rw [c.list_fst q opened lasts]
      refine ⟨deadline, fun cancelled => ?_, ?_⟩
      · rw [isCancelled, cancelled, Bool.true_or]
      · rw [now]
        exact (le_add_of_nonneg_right (forward opened lasts)).trans Reply.lag_le_time

theorem onward_step (c : Client K) {s : Session K} {st : Step K} (forward : c.Forward s st) :
    Session.Onward s (c.step s st) := by
  cases st with
  | call k =>
    obtain ⟨es, noted⟩ := c.call_fst k s
    have listed : Session.Onward s (c.list k.query s).1 := c.onward_list k.query forward
    rw [show c.step s (.call k) = (c.call k s).1 from rfl, noted]
    exact listed
  | close => exact ⟨rfl, id, le_rfl⟩
  | cancel => exact s.onward_cancel
  | advance seconds => exact ⟨rfl, id, le_add_of_nonneg_right forward⟩
  | finish i =>
    obtain ⟨lateCloses, strays, queue, requests, finished⟩ := s.alike_finish i
    rw [step, finished]
    exact .refl _ _
  | serve server => exact .refl _ _

end Client

namespace Session

theorem onward_use {s : Session K} {u : Use K} (forward : u.Forward s) : Onward s (s.use u) := by
  cases u with
  | step c st => exact c.onward_step forward
  | connect isOpen strays queue => exact .refl _ _
  | register h => exact s.onward_register h
  | unregister h => exact ⟨rfl, id, le_rfl⟩

theorem onward_uses {s : Session K} {us : List (Use K)} (orderly : s.Orderly us) : Onward s (s.uses us) := by
  induction us generalizing s with
  | nil => exact .refl _ _
  | cons u us ih =>
    obtain ⟨forward, orderly⟩ := orderly
    exact (onward_use forward).trans (ih orderly)

end Session

/-- Of a lifetime at an earlier and at a later time: it says what holds of it at both, it stays over, and the time left
does not grow. -/
structure Lasting {C : Type} (l : Lifetime K C) (now : K) (l' : Lifetime K C) (now' : K) : Prop where
  lawful : l.Lawful now ∧ l'.Lawful now'
  done : l.isDone now = true → l'.isDone now' = true
  remaining : ∀ left, l.remaining now = some left → ∃ left', l'.remaining now' = some left' ∧ left' ≤ left
  unbounded : l.remaining now = none → l'.remaining now' = none

theorem Lasting.of_onward {C : Type} {l l' : Lifetime K C} {now now' : K} (h : Lifetime.Onward l now l' now') :
    Lasting l now l' now' :=
  ⟨⟨l.lawful now, l'.lawful now'⟩, h.isDone, h.remaining.1, h.remaining.2⟩

/-- As long as the clock does not go back, a lifetime says at any point of any run what holds of it, stays over once it is
over, and never has more time left; in a scope whatever its callbacks do, and in the hands of any clients. Once a call has
reported its end, every later call of any client reports it, sends nothing and changes nothing. -/
theorem ending_lasts :
    (∀ (s : Scope K) xs ys, (∀ x ∈ xs ++ ys, x.Forward) →
      Lasting (s.steps xs).lifetime (s.steps xs).now (s.steps (xs ++ ys)).lifetime (s.steps (xs ++ ys)).now) ∧
    ∀ (s : Session K) us vs, s.Orderly (us ++ vs) →
      Lasting (s.uses us).lifetime (s.uses us).now (s.uses (us ++ vs)).lifetime (s.uses (us ++ vs)).now ∧
      ∀ c q rest f, vs = .step c (.call (.list q)) :: rest → (c.list q (s.uses us)).2 = .error f → f.isEnding = true →
        (c.list q (s.uses us)).1.isDone = true ∧ ∀ c' q', ∃ f',
          Client.list c' q' (s.uses (us ++ vs)) = (s.uses (us ++ vs), .error f') ∧ f'.isEnding = true := by
  constructor
  · intro s xs ys forward
    have later : s.steps (xs ++ ys) = (s.steps xs).steps ys := List.foldl_append
    rw [later]
    exact .of_onward (Scope.onward_steps _ fun y hy => forward y (List.mem_append_right xs hy))
  · intro s us vs orderly
    obtain ⟨-, orderly⟩ := Session.orderly_append.mp orderly
    rw [Session.uses_append]
    generalize s.uses us = early at orderly ⊢
    refine ⟨.of_onward (Session.onward_uses orderly), ?_⟩
    intro c q rest f first failed ending
    subst first
    obtain ⟨-, orderly⟩ := orderly
    have done : (c.list q early).1.isDone = true := c.isDone_of_list_isEnding q failed ending
    exact ⟨done, fun c' q' => c'.list_of_isDone q' ((Session.onward_uses orderly).isDone done)⟩

end

/-- A call is answered, the next one given up at the deadline, and then another client asks; and a scope is cancelled. -/
theorem ending_lasts_overdue :
    let c : Client ℚ := ⟨⟨"10.0.0.5", 8090, "/api", "http"⟩, 30, "10.0.0.5", []⟩
    let other : Client ℚ := ⟨⟨"10.0.0.6", 8090, "/api", "http"⟩, 1, "10.0.0.6", []⟩
    let s : Session ℚ := .start 0 (.endingAt 10) ⟨[("infra-envs",
      [.prompt 4 false false (.ok ⟨200, "OK", .json (.list []), 0⟩), ⟨9, false, false, .error ⟨.connection, "gone"⟩, 1, none⟩])]⟩
    let us : List (Use ℚ) := [.register (.other 0), .step c (.call .isLive)]
    let vs : List (Use ℚ) := [.step c (.call (.list .infraEnvs)), .connect true [] [], .step c (.advance 1)]
    (s.uses us).lifetime.remaining (s.uses us).now = some 6 ∧
    (∃ f, (c.list .infraEnvs (s.uses us)).2 = .error f ∧ f.isEnding = true) ∧
    (∃ f, other.list .clusters (s.uses (us ++ vs)) = (s.uses (us ++ vs), .error f) ∧ f.isEnding = true) ∧
    let scope : Scope ℚ := .start 0 .unbounded
    Lasting (scope.steps [.cancel]).lifetime 0
      (scope.steps [.cancel, .register (.plain "a"), .advance 1]).lifetime 1 := by
  intro c other s us vs
  have onward : (0 : ℚ) ≤ 1 := zero_le_one
  have orderly : s.Orderly (us ++ vs) := by
    refine ⟨trivial, fun _ _ => ?_, fun _ _ => ?_, trivial, onward, trivial⟩ <;> decide +kernel
  have opened : (s.uses us).isOpen = true := by decide +kernel
  have lasts : (s.uses us).isDone = false := by decide +kernel
  have gaveUp : ((s.uses us).courseOf (c.request .infraEnvs (s.uses us))).waited = .givenUp := by decide +kernel
  obtain ⟨f, failed, ending⟩ := c.list_isEnding .infraEnvs opened lasts (.inr (.inl gaveUp)) (by simp [gaveUp])
    (by simp [gaveUp])
  obtain ⟨scopes, sessions⟩ := ending_lasts (K := ℚ)
  obtain ⟨-, later⟩ := sessions s us vs orderly
  obtain ⟨-, reports⟩ := later c .infraEnvs _ f rfl failed ending
  have forward : ∀ x ∈ [.cancel] ++ [.register (.plain "a"), Scope.Step.advance (1 : ℚ)], x.Forward := by
    intro x hx
    simp only [List.cons_append, List.nil_append, List.mem_cons, List.not_mem_nil, or_false] at hx
    obtain rfl | rfl | rfl := hx
    · exact trivial
    · exact trivial
    · exact onward
  have now : ((Scope.start (0 : ℚ) .unbounded).steps [.cancel, .register (.plain "a"), .advance 1]).now = 1 := by
    decide +kernel
  rw [← now]
  exact ⟨by decide +kernel, ⟨f, failed, ending⟩, reports _ _, scopes _ _ _ forward⟩

end InstallWatch.Service
