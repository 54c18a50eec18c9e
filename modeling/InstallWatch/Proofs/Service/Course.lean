import Mathlib
import InstallWatch.Proofs.Service.Listing
import InstallWatch.Service.Call

/-!
Where the session of a client stands after any run. A request leaves nothing in the lifetime that was not there before;
so only the closing of the connection waits in it besides what others have registered, until the owner closes the
connection or the lifetime is cancelled. The connection is closed by either, and by the cancellation only before the
owner has done it.
-/

namespace InstallWatch.Lifetime

variable {T C : Type} [DecidableEq C]

theorem unregister_of_not_mem {l : Lifetime T C} {c : C} (h : c ∉ l.pending) : l.unregister c = l := by
  rw [unregister, List.erase_of_not_mem h]

/-- Taking back what was registered leaves the lifetime as it was. -/
theorem unregister_register {l : Lifetime T C} {c : C} (h : c ∉ l.pending) :
    ((l.register c).getD l).unregister c = l := by
  unfold register
  split
  · exact unregister_of_not_mem h
  · rw [Option.getD_some, unregister, List.erase_append_right _ h, List.erase_cons_head, List.append_nil]

end InstallWatch.Lifetime

namespace InstallWatch.Service

variable {T : Type}

namespace Session

/-- Nobody waits for a request. -/
def Idle (s : Session T) : Prop := ∀ request, Hook.wake request ∉ s.lifetime.pending

theorem Idle.cancel {s : Session T} (h : Idle s) : Idle s.cancel := by
  intro request
  rw [lifetime_cancel, Lifetime.cancel]
  split
  · exact h request
  · exact List.not_mem_nil

/-- Of a wait nothing is left behind, whether the time passes before or after whoever waits wants to be woken. -/
theorem pass_of_idle {s : Session T} (h : Idle s) (request : Nat) (c : Course T) :
    ((s.register (.wake request)).pass c).unregister (.wake request) = s.pass c ∧
      ((s.pass c).register (.wake request)).unregister (.wake request) = s.pass c := by
  have passed : Idle (s.pass c) := by
    unfold pass
    split
    · exact Idle.cancel h
    · exact h
  constructor
  · rw [register_wake]
    unfold pass
    split
    · cases cancelled : s.lifetime.isCancelled with
      | true =>
        have kept : (s.lifetime.register (.wake request)).getD s.lifetime = s.lifetime := by
          simp [Lifetime.register, cancelled]
        have still : ({ s with now := c.time } : Session T).cancel = { s with now := c.time } :=
          cancel_of_cancelled cancelled
        rw [kept]
        show ({ s with now := c.time } : Session T).cancel.unregister _ = ({ s with now := c.time } : Session T).cancel
        rw [still]
        exact congrArg (fun l => { s with now := c.time, lifetime := l }) (Lifetime.unregister_of_not_mem (h request))
      | false =>
        -- the wait is among what the cancellation runs, and wakes only the client
        simp [cancel_eq, Lifetime.register, Lifetime.cancel, cancelled, unregister, Lifetime.unregister]
    · exact congrArg (fun l => { s with now := c.time, lifetime := l }) (Lifetime.unregister_register (h request))
  · rw [register_wake]
    exact congrArg (fun l => { s.pass c with lifetime := l }) (Lifetime.unregister_register (passed request))

variable [Seconds T]

theorem Idle.sent {s : Session T} (h : Idle s) (r : Request T) : Idle (s.sent r) := by
  obtain ⟨lateCloses, strays, queue, requests, sent⟩ := s.alike_sent r
  rw [sent]
  exact h

/-- Of the waiting for a reply nothing is left behind. -/
theorem exchange_of_idle {s : Session T} (h : Idle s) (r : Request T) :
    (s.exchange r).1 = ((s.sent r).pass (s.courseOf r)).leave r (s.replyTo r).outcome (s.courseOf r) := by
  obtain ⟨before, after⟩ := pass_of_idle (h.sent r) s.requests.length (s.courseOf r)
  rw [exchange_eq]
  unfold waited
  dsimp only
  split
  · rw [before]
  · rw [after]

/-- The session after a request whose wait had begun when it turned out to be over, or had yet to begin when it went on:
whoever waits wants to be woken on the other side of what happens meanwhile. -/
def overtaken (s : Session T) (r : Request T) : Session T :=
  let wake := Hook.wake s.requests.length
  ((if s.now + (s.replyTo r).lag < (s.courseOf r).time then ((s.sent r).pass (s.courseOf r)).register wake
    else ((s.sent r).register wake).pass (s.courseOf r)).unregister wake).leave r (s.replyTo r).outcome (s.courseOf r)

end Session

namespace Client

variable [Seconds T]

/-- Over a connection that is closed nothing is sent. -/
theorem list_of_closed (c : Client T) (q : Query) {s : Session T} (closed : s.isOpen = false) :
    (c.list q s).1 = s := by
  unfold list
  split
  · rfl
  · rw [if_neg (by simp [closed])]

/-- Over a connection that is closed a call fails as long as the lifetime lasts. -/
theorem list_error_of_closed (c : Client T) (q : Query) {s : Session T} (closed : s.isOpen = false)
    (lasts : s.isDone = false) : (c.list q s).2 = .error .closed := by
  unfold list
  rw [ending?_eq_none_iff.mpr lasts]
  simp [closed]

/-- What is noted before a call has no part in it. -/
theorem list_log (c : Client T) (q : Query) (s : Session T) (es : List Journal.Entry) :
    c.list q (s.log es) = ((c.list q s).1.log es, (c.list q s).2) := by
  have ending : (s.log es).ending? = s.ending? := rfl
  have isOpen : (s.log es).isOpen = s.isOpen := rfl
  have request : c.request q (s.log es) = c.request q s := rfl
  unfold list
  rw [ending, isOpen, request, Session.exchange_log]
  generalize s.exchange (c.request q s) = exchanged
  obtain ⟨s', outcome, course⟩ := exchanged
  have result : c.resultOf q (s'.log es) outcome course.waited = c.resultOf q s' outcome course.waited := by
    cases outcome <;> cases course.waited <;> rfl
  dsimp only
  rw [result]
  split
  · rfl
  · split <;> rfl

/-- A call that lists what it asks for notes what it makes of the list, which alone decides its result. -/
theorem call_eq_of_list (c : Client T) (k : Call) {s s' : Session T} (h : (c.list k.query s).2 = (c.list k.query s').2) :
    ∃ es, (c.call k s).1 = (c.list k.query s).1.log es ∧ (c.call k s').1 = (c.list k.query s').1.log es ∧
      (c.call k s).2 = (c.call k s').2 := by
  have unnoted : ∀ s : Session T, s = s.log [] := fun s => by simp [Session.log]
  have identified : ∀ q noun, (c.list q s).2 = (c.list q s').2 →
      ∃ es, (c.identity q noun s).1 = (c.list q s).1.log es ∧ (c.identity q noun s').1 = (c.list q s').1.log es ∧
        (c.identity q noun s).2 = (c.identity q noun s').2 := by
    intro q noun h
    cases listed : (c.list q s').2 with
    | error f =>
      rw [identity_of_error noun listed, identity_of_error noun (h.trans listed)]
      exact ⟨[], unnoted _, unnoted _, rfl⟩
    | ok items =>
      rw [identity_of_ok noun listed, identity_of_ok noun (h.trans listed)]
      cases Identity.ofListing items with
      | error b => exact ⟨[], unnoted _, unnoted _, rfl⟩
      | ok i => exact ⟨_, rfl, rfl, rfl⟩
  cases k with
  | isLive =>
    change (c.list .infraEnvs s).2 = (c.list .infraEnvs s').2 at h
    show ∃ es, (c.isLive s).1 = (c.list .infraEnvs s).1.log es ∧ (c.isLive s').1 = (c.list .infraEnvs s').1.log es ∧
      (c.isLive s).2 = (c.isLive s').2
    unfold isLive
    generalize c.list .infraEnvs s = listed at h
    generalize c.list .infraEnvs s' = listed' at h
    obtain ⟨s, r⟩ := listed
    obtain ⟨s', r'⟩ := listed'
    dsimp only at h
    subst h
    cases r with
    | ok items => exact ⟨[], unnoted s, unnoted s', rfl⟩
    | error f =>
      dsimp only
      split
      · exact ⟨_, rfl, rfl, rfl⟩
      · exact ⟨[], unnoted s, unnoted s', rfl⟩
  | cluster => exact identified .clusters "clusters" h
  | infraEnv => exact identified .infraEnvs "infraenvs" h
  | list q => exact ⟨[], unnoted _, unnoted _, h⟩

/-- Apart from what it notes, a call leaves the session as listing does. -/
theorem call_fst (c : Client T) (k : Call) (s : Session T) : ∃ es, (c.call k s).1 = (c.list k.query s).1.log es := by
  obtain ⟨es, noted, -⟩ := call_eq_of_list c k (s := s) rfl
  exact ⟨es, noted⟩

end Client

/-- A lifetime as a client finds it: what waits in it is none of the client's, and nothing waits once it is cancelled. -/
structure Found (l : Lifetime T Hook) : Prop where
  others : ∀ h ∈ l.pending, ∃ owner, h = .other owner
  spent : l.isCancelled = true → l.pending = []

theorem Found.not_mem {l : Lifetime T Hook} (found : Found l) {h : Hook} (own : ∀ owner, h ≠ .other owner) :
    h ∉ l.pending := by
  intro hh
  obtain ⟨owner, rfl⟩ := found.others h hh
  exact own owner rfl

/-- Where the session of a client stands that found this lifetime, given how often the owner has closed the connection
and whether the lifetime was cancelled early: before the first time, or so far. -/
structure Stands (l : Lifetime T Hook) (closings : Nat) (early : Bool) (s : Session T) : Prop where
  pending : s.lifetime.pending =
    if s.lifetime.isCancelled then [] else l.pending ++ if closings = 0 then [.close] else []
  isOpen : s.isOpen = (!s.lifetime.isCancelled && closings == 0)
  closes : s.closes = closings + early.toNat
  early : closings = 0 → early = s.lifetime.isCancelled
  queue : s.isOpen = false → s.queue = []

namespace Stands

variable {l : Lifetime T Hook} {n : Nat} {early : Bool} {s s' : Session T}

/-- A session stands where it did if its lifetime and its connection are as they were. -/
theorem transfer (h : Stands l n early s) (lifetime : s'.lifetime = s.lifetime) (isOpen : s'.isOpen = s.isOpen)
    (closes : s'.closes = s.closes) (queue : s'.isOpen = false → s'.queue = []) : Stands l n early s' where
  pending := by rw [lifetime, h.pending]
  isOpen := by rw [lifetime, isOpen, h.isOpen]
  closes := closes.trans h.closes
  early none := by rw [lifetime, h.early none]
  queue := queue

theorem idle (found : Found l) (h : Stands l n early s) : s.Idle := by
  intro request hr
  rw [h.pending] at hr
  split at hr
  · cases hr
  · rcases List.mem_append.mp hr with other | own
    · exact found.not_mem (by simp) other
    · split at own <;> simp at own

end Stands

/-- Where a session stands after anything but the owner's closing, if it stood there with this before. -/
def Moves (l : Lifetime T Hook) (closings : Nat) (early : Bool) (s : Session T) : Prop :=
  Stands l closings (if closings = 0 then s.lifetime.isCancelled else early) s

namespace Moves

variable {l : Lifetime T Hook} {n : Nat} {early : Bool} {s s' : Session T}

theorem transfer (h : Moves l n early s) (lifetime : s'.lifetime = s.lifetime) (isOpen : s'.isOpen = s.isOpen)
    (closes : s'.closes = s.closes) (queue : s'.isOpen = false → s'.queue = []) : Moves l n early s' := by
  have stands := Stands.transfer h lifetime isOpen closes queue
  rw [← lifetime] at stands
  exact stands

/-- Nothing need have happened. -/
theorem of_stands (h : Stands l n early s) : Moves l n early s := by
  unfold Moves
  split
  · rwa [← h.early ‹n = 0›]
  · exact h

end Moves

namespace Stands

variable {l : Lifetime T Hook} {n : Nat} {early : Bool} {s : Session T}

theorem cancel (found : Found l) (h : Stands l n early s) : Moves l n early s.cancel := by
  cases cancelled : s.lifetime.isCancelled with
  | true =>
    rw [Session.cancel_of_cancelled cancelled]
    exact .of_stands h
  | false =>
    have handed : s.lifetime.cancel = ({ s.lifetime with isCancelled := true, pending := [] }, s.lifetime.pending) := by
      simp [Lifetime.cancel, cancelled]
    have once : l.pending.count .close = 0 := List.count_eq_zero.mpr (found.not_mem (by simp))
    unfold Moves
    rw [Session.cancel_eq, handed]
    by_cases first : n = 0
    · subst first
      have pending : s.lifetime.pending = l.pending ++ [.close] := by
        rw [h.pending, cancelled]
        rfl
      have early := (h.early rfl).trans cancelled
      refine ⟨by simp, by simp [pending], ?_, by simp, by simp [pending]⟩
      simp [pending, once, h.closes, early]
    · have pending : s.lifetime.pending = l.pending := by
        rw [h.pending, cancelled]
        simp [first]
      have closed : s.isOpen = false := by
        rw [h.isOpen]
        simp [first]
      refine ⟨by simp, by simp [closed], ?_, fun none => absurd none first, fun _ => by simp [h.queue closed]⟩
      simp [pending, once, h.closes, first]

theorem shut (found : Found l) (h : Stands l n early s) : Stands l (n + 1) early (Client.close s) where
  pending := by
    have own : Hook.close ∉ l.pending := found.not_mem (by simp)
    show s.lifetime.pending.erase .close = _
    rw [h.pending]
    cases cancelled : s.lifetime.isCancelled with
    | true => simp [Client.close, Session.unregister, Session.shut, Lifetime.unregister, cancelled]
    | false =>
      by_cases first : n = 0
      · simp [Client.close, Session.unregister, Session.shut, Lifetime.unregister, cancelled, first,
          List.erase_append_right _ own]
      · simp [Client.close, Session.unregister, Session.shut, Lifetime.unregister, cancelled, first,
          List.erase_of_not_mem own]
  isOpen := by simp [Client.close, Session.shut]
  closes := by
    show s.closes + 1 = _
    rw [h.closes]
    omega
  early := by simp
  queue _ := rfl

theorem finish (h : Stands l n early s) (i : Nat) : Stands l n early (s.finish i) := by
  have emptied : s.queue = [] → (s.finish i).queue = [] := by
    intro empty
    unfold Session.finish
    split
    · exact empty
    · simp [empty]
  obtain ⟨lateCloses, strays, queue, requests, finished⟩ := s.alike_finish i
  rw [finished] at emptied ⊢
  exact h.transfer rfl rfl rfl fun closed => emptied (h.queue closed)

theorem pass (found : Found l) (h : Stands l n early s) (c : Course T) : Moves l n early (s.pass c) := by
  have later : Stands l n early { s with now := c.time } := h.transfer rfl rfl rfl h.queue
  unfold Session.pass
  split
  · exact later.cancel found
  · exact .of_stands later

variable [Seconds T]

/-- What a wait leaves in the queue, it leaves to an open connection. -/
theorem exchange (found : Found l) (h : Stands l n early s) (opened : s.isOpen = true) (r : Request T) :
    Moves l n early (s.exchange r).1 := by
  obtain ⟨lateCloses, strays, queue, requests, sent⟩ := s.alike_sent r
  have made : Stands l n early (s.sent r) := by
    rw [sent]
    exact h.transfer rfl rfl rfl fun closed => by simp [opened] at closed
  have passed : Moves l n early ((s.sent r).pass (s.courseOf r)) := made.pass found (s.courseOf r)
  rw [Session.exchange_of_idle (h.idle found), Session.leave_eq]
  refine passed.transfer rfl rfl rfl fun closed => ?_
  have kept : (s.courseOf r).waited = .refused → ((s.sent r).pass (s.courseOf r)).isOpen = true := by
    intro refused
    rw [Session.pass, Session.cancels_of_refused refused, sent]
    exact opened
  show (Session.leave _ r _ _).queue = []
  unfold Session.leave
  cases waited : (s.courseOf r).waited with
  | refused => simp [kept waited] at closed
  | _ => exact passed.queue closed

theorem list (found : Found l) (h : Stands l n early s) (c : Client T) (q : Query) :
    Moves l n early (c.list q s).1 := by
  cases opened : s.isOpen with
  | false =>
    rw [c.list_of_closed q opened]
    exact .of_stands h
  | true =>
    cases lasts : s.isDone with
    | true =>
      obtain ⟨e, he⟩ := ending?_of_isDone lasts
      rw [c.list_of_ending q he]
      exact .of_stands h
    | false =>
      rw [c.list_fst q opened lasts]
      exact h.exchange found opened _

theorem call (found : Found l) (h : Stands l n early s) (c : Client T) (k : Call) :
    Moves l n early (c.call k s).1 := by
  obtain ⟨es, noted⟩ := c.call_fst k s
  have listed := h.list found c k.query
  rw [noted]
  generalize (c.list k.query s).1 = after at listed
  exact listed.transfer rfl rfl rfl listed.queue

theorem step (found : Found l) (h : Stands l n early s) (c : Client T) (st : Step T) :
    Stands l (n + if st.isClose then 1 else 0) (if n = 0 then (c.step s st).lifetime.isCancelled else early) (c.step s st) := by
  cases st with
  | call k => exact h.call found c k
  | close =>
    have same : (if n = 0 then (Client.close s).lifetime.isCancelled else early) = early := by
      split
      · exact (h.early ‹n = 0›).symm
      · rfl
    show Stands l (n + 1) (if n = 0 then (Client.close s).lifetime.isCancelled else early) (Client.close s)
    rw [same]
    exact h.shut found
  | cancel => exact h.cancel found
  | advance seconds => exact Moves.of_stands (h.transfer rfl rfl rfl h.queue)
  | finish i => exact Moves.of_stands (h.finish i)
  | serve server => exact Moves.of_stands (h.transfer rfl rfl rfl h.queue)

end Stands

namespace Client

/-- A client that takes up a session whose lifetime is not cancelled only waits for that. -/
theorem attach_eq (now : T) (server : Server T) {l : Lifetime T Hook} (cancelled : l.isCancelled = false) :
    attach (.start now l server) =
      { Session.start now l server with lifetime := { l with pending := l.pending ++ [.close] } } := by
  simp [attach, Session.register, Session.start, Lifetime.register, cancelled]

theorem stands_attach {l : Lifetime T Hook} (found : Found l) (now : T) (server : Server T) :
    Stands l 0 (attach (.start now l server)).lifetime.isCancelled (attach (.start now l server)) := by
  cases cancelled : l.isCancelled with
  | true =>
    have closed : attach (.start now l server) = (Session.start now l server).shut := by
      simp [attach, Session.register, Session.start, Lifetime.register, cancelled, Session.runHook]
    rw [closed]
    constructor <;> simp [Session.shut, Session.start, cancelled, found.spent cancelled]
  | false =>
    rw [attach_eq now server cancelled]
    constructor <;> simp [Session.start, cancelled]

variable [Seconds T]

@[simp] theorem steps_concat (c : Client T) (s : Session T) (ss : List (Step T)) (st : Step T) :
    c.steps s (ss ++ [st]) = c.step (c.steps s ss) st := by
  simp [steps]

/-- The steps before the owner first closes the connection. -/
def untilClosed (ss : List (Step T)) : List (Step T) := ss.takeWhile fun st => !st.isClose

/-- The lifetime is cancelled before the owner first closes the connection: by the end of the run, if he has not yet. -/
def cancelledEarly (c : Client T) (s : Session T) (ss : List (Step T)) : Bool :=
  (c.steps s (untilClosed ss)).lifetime.isCancelled

/-- As long as the owner has not closed the connection, what a step does to the lifetime is early. -/
theorem cancelledEarly_concat (c : Client T) (s : Session T) (ss : List (Step T)) (st : Step T) :
    c.cancelledEarly s (ss ++ [st]) =
      if ss.countP Step.isClose = 0 then (c.step (c.steps s ss) st).lifetime.isCancelled else c.cancelledEarly s ss := by
  unfold cancelledEarly untilClosed
  split
  · rename_i none
    have opened : ∀ st ∈ ss, (!st.isClose) = true := by simpa using none
    rw [List.takeWhile_append_of_pos opened]
    cases st with
    | close => simp [Step.isClose, step, close, Session.unregister, Session.shut, Lifetime.unregister]
    | _ => simp [Step.isClose]
  · rename_i closed
    have cut : ¬ (ss.takeWhile fun st => !st.isClose).length = ss.length := by
      intro all
      have opened := List.takeWhile_eq_self_iff.mp ((List.takeWhile_prefix _).eq_of_length all)
      exact closed (by simpa using opened)
    rw [List.takeWhile_append, if_neg cut]

/-- Every run leaves the session where its closings put it, and what became of the lifetime before the first one. -/
theorem stands_steps {l : Lifetime T Hook} (found : Found l) (c : Client T) (now : T) (server : Server T)
    (ss : List (Step T)) :
    Stands l (ss.countP Step.isClose) (c.cancelledEarly (attach (.start now l server)) ss)
      (c.steps (attach (.start now l server)) ss) := by
  -- from the last step back: whether it comes before the first closing is for the steps before it to say
  induction ss using List.reverseRecOn with
  | nil => exact stands_attach found now server
  | append_singleton ss st ih =>
    have next := ih.step found c st
    rw [← cancelledEarly_concat] at next
    rwa [List.countP_append, List.countP_singleton, steps_concat]

end Client

end InstallWatch.Service
