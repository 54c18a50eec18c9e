import Mathlib
import InstallWatch.Proofs.Service.Waiting
import InstallWatch.Service.Session

/-!
What one request leaves behind: what is sent is recorded, the clock goes on until the wait is over, and the lifetime
keeps its deadline. Only a cancellation closes anything, as often as the lifetime was told to.
-/

namespace InstallWatch.Lifetime

variable {T C : Type}

theorem deadline_cancel (l : Lifetime T C) : l.cancel.1.deadline = l.deadline := by
  unfold cancel
  split <;> rfl

theorem deadline_register (l : Lifetime T C) (c : C) : ((l.register c).getD l).deadline = l.deadline := by
  unfold register
  split <;> rfl

theorem isCancelled_register (l : Lifetime T C) (c : C) : ((l.register c).getD l).isCancelled = l.isCancelled := by
  unfold register
  split <;> rfl

theorem deadline_unregister [DecidableEq C] (l : Lifetime T C) (c : C) :
    (l.unregister c).deadline = l.deadline := rfl

theorem isCancelled_unregister [DecidableEq C] (l : Lifetime T C) (c : C) :
    (l.unregister c).isCancelled = l.isCancelled := rfl

end InstallWatch.Lifetime

namespace InstallWatch.Service.Session

variable {T : Type}

/-! ## The workers -/

/-- Apart from what the workers are at and what they have sent, a session is as another one. -/
def Alike (s s' : Session T) : Prop :=
  ∃ lateCloses strays queue requests,
    s' = { s with lateCloses := lateCloses, strays := strays, queue := queue, requests := requests }

theorem Alike.refl (s : Session T) : Alike s s := ⟨s.lateCloses, s.strays, s.queue, s.requests, rfl⟩

theorem Alike.trans {s s' s'' : Session T} (h : Alike s s') (h' : Alike s' s'') : Alike s s'' := by
  obtain ⟨_, _, _, _, rfl⟩ := h
  obtain ⟨_, _, _, _, rfl⟩ := h'
  exact ⟨_, _, _, _, rfl⟩

theorem alike_finish (s : Session T) (i : Nat) : Alike s (s.finish i) := by
  unfold finish
  split
  · exact .refl s
  · dsimp only
    split
    · exact ⟨_, _, _, _, rfl⟩
    · exact ⟨_, _, _, _, rfl⟩

theorem alike_finishes (s : Session T) (n : Nat) : Alike s (s.finishes n) := by
  induction n generalizing s with
  | zero => exact .refl s
  | succ n ih => exact (s.alike_finish 0).trans (ih _)

theorem alike_send (s : Session T) (r : Request T) : Alike s (s.send r) := by
  unfold send
  split
  · exact ⟨_, _, _, _, rfl⟩
  · exact (s.alike_finishes _).trans ⟨_, _, _, _, rfl⟩

theorem leave_eq (s : Session T) (r : Request T) (o : Except Outage Answer) (c : Course T) :
    s.leave r o c = { s with strays := (s.leave r o c).strays, queue := (s.leave r o c).queue } := by
  unfold leave
  split
  · rfl
  · rfl
  · rfl
  · split <;> rfl

/-- By the time a worker is free for another request, all in the queue have been taken up, one after the other. -/
theorem requests_finishes {s : Session T} (busy : s.strays ≠ []) :
    (s.finishes (s.queue.length + 1)).requests = s.requests ++ s.queue := by
  generalize waiting : s.queue = queue
  induction queue generalizing s with
  | nil =>
    show (s.finish 0).requests = s.requests ++ []
    unfold finish
    split <;> simp [waiting]
  | cons r rs ih =>
    obtain ⟨isOwed, strays, working⟩ := List.exists_cons_of_ne_nil busy
    have tookUp : s.finish 0 = { s with
        strays := strays ++ [false], lateCloses := s.lateCloses + isOwed.toNat, queue := rs,
        requests := s.requests ++ [r] } := by
      simp [finish, working, waiting]
    have next : ((s.finish 0).finishes (rs.length + 1)).requests = (s.finish 0).requests ++ rs :=
      ih (by simp [tookUp]) (by rw [tookUp])
    rw [List.length_cons, finishes, next, tookUp, List.append_assoc, List.singleton_append]

theorem requests_send (s : Session T) (r : Request T) :
    (s.send r).requests = s.requests ++ (if s.hasWorker then [r] else s.queue ++ [r]) := by
  unfold send
  split
  · rfl
  · rename_i busy
    have working : s.strays ≠ [] := by
      rintro none
      simp [hasWorker, none, workers] at busy
    simp [requests_finishes working]

theorem finish_log (s : Session T) (es : List Journal.Entry) (i : Nat) : (s.log es).finish i = (s.finish i).log es := by
  unfold finish
  dsimp only [log]
  split
  · rfl
  · split <;> rfl

theorem finishes_log (s : Session T) (es : List Journal.Entry) (n : Nat) :
    (s.log es).finishes n = (s.finishes n).log es := by
  induction n generalizing s with
  | zero => rfl
  | succ n ih => rw [finishes, finishes, finish_log, ih]

theorem send_log (s : Session T) (r : Request T) (es : List Journal.Entry) : (s.log es).send r = (s.send r).log es := by
  have free : (s.log es).hasWorker = s.hasWorker := rfl
  have queue : (s.log es).queue = s.queue := rfl
  unfold send
  rw [free, queue, finishes_log]
  split <;> rfl

/-! ## Cancellation -/

/-- Hooks only close the connection. -/
theorem foldl_runHook_eq (s : Session T) (hs : List Hook) :
    hs.foldl runHook s = { s with
      isOpen := s.isOpen && !hs.contains .close
      closes := s.closes + hs.count .close
      queue := if hs.contains .close then [] else s.queue } := by
  induction hs generalizing s with
  | nil => simp
  | cons h hs ih =>
    rw [List.foldl_cons, ih]
    cases h with
    | wake request => simp [runHook]
    | other owner => simp [runHook]
    | close => simp [runHook, shut, Nat.add_comm, Nat.add_left_comm]

theorem cancel_eq (s : Session T) :
    s.cancel = { s with
      lifetime := s.lifetime.cancel.1
      isOpen := s.isOpen && !s.lifetime.cancel.2.contains .close
      closes := s.closes + s.lifetime.cancel.2.count .close
      queue := if s.lifetime.cancel.2.contains .close then [] else s.queue } := foldl_runHook_eq _ _

/-- To be woken is registered with the lifetime as long as it is not cancelled, and changes nothing else. -/
theorem register_wake (s : Session T) (request : Nat) :
    s.register (.wake request) = { s with lifetime := (s.lifetime.register (.wake request)).getD s.lifetime } := by
  unfold register
  cases s.lifetime.register (.wake request) with
  | none => rfl
  | some l => rfl

/-! ## A request -/

section
variable [Seconds T]

/-- The reply to a request. -/
def replyTo (s : Session T) (r : Request T) : Reply T := (s.server.answer r.url r.fields).1

/-- How the wait for a request goes. -/
def courseOf (s : Session T) (r : Request T) : Course T :=
  (s.replyTo r).course s.hasWorker s.now s.lifetime.deadline

/-- The session once a request has been made, and sent if it comes to that. -/
def sent (s : Session T) (r : Request T) : Session T :=
  let s' := { s with server := (s.server.answer r.url r.fields).2 }
  if (s.courseOf r).isSent then s'.send r else s'

/-- The session once the wait for a request is over. -/
def waited (s : Session T) (r : Request T) : Session T :=
  let wake := Hook.wake s.requests.length
  (if s.now + (s.replyTo r).lag < (s.courseOf r).time then ((s.sent r).register wake).pass (s.courseOf r)
    else ((s.sent r).pass (s.courseOf r)).register wake).unregister wake

theorem exchange_eq (s : Session T) (r : Request T) :
    s.exchange r =
      ((s.waited r).leave r (s.replyTo r).outcome (s.courseOf r), (s.replyTo r).outcome, s.courseOf r) := rfl

theorem exchange_snd (s : Session T) (r : Request T) :
    (s.exchange r).2 = ((s.replyTo r).outcome, s.courseOf r) := by
  rw [exchange_eq]

theorem alike_sent (s : Session T) (r : Request T) :
    Alike { s with server := (s.server.answer r.url r.fields).2 } (s.sent r) := by
  unfold sent
  split
  · exact alike_send _ r
  · exact .refl _

/-- Only a request that is taken up is sent, and before it what has to be taken up first. -/
theorem requests_sent (s : Session T) (r : Request T) :
    (s.sent r).requests = s.requests ++
      if (s.courseOf r).isSent then (if s.hasWorker then [r] else s.queue ++ [r]) else [] := by
  unfold sent
  split
  · rw [requests_send]
    rfl
  · simp

/-- A free worker takes the request up. -/
theorem isSent_of_hasWorker {s : Session T} (free : s.hasWorker = true) (r : Request T) :
    (s.courseOf r).isSent = true := by
  rw [courseOf, free]
  exact (s.replyTo r).isSent_of_free s.now s.lifetime.deadline

/-- A free worker sends the request and nothing else. -/
theorem requests_sent_of_hasWorker {s : Session T} (free : s.hasWorker = true) (r : Request T) :
    (s.sent r).requests = s.requests ++ [r] := by
  rw [requests_sent, isSent_of_hasWorker free, free]
  rfl

/-- A request is taken up by the end of the wait if and only if it is not taken back, unless the wait is refused. -/
theorem isSent_iff {s : Session T} {r : Request T} (waits : (s.courseOf r).waited ≠ .refused) :
    (s.courseOf r).isSent = true ↔ (s.courseOf r).waited ≠ .takenBack := Reply.isSent_iff waits

theorem cancels_of_refused {s : Session T} {r : Request T} (refused : (s.courseOf r).waited = .refused) :
    (s.courseOf r).cancels = false := (Reply.of_refused refused).2.2

/-- What a free worker has taken up is not taken back. -/
theorem waited_ne_takenBack {s : Session T} (free : s.hasWorker = true) (r : Request T) :
    (s.courseOf r).waited ≠ .takenBack := by
  by_cases refused : (s.courseOf r).waited = .refused
  · simp [refused]
  · exact (isSent_iff refused).mp (isSent_of_hasWorker free r)

/-- What a wait does to a session, apart from its workers. -/
theorem waited_frame (s : Session T) (r : Request T) :
    (s.waited r).now = (s.courseOf r).time ∧
    (s.waited r).server = (s.server.answer r.url r.fields).2 ∧
    (s.waited r).requests = (s.sent r).requests ∧
    (s.waited r).sleeps = s.sleeps ∧
    (s.waited r).entries = s.entries ∧
    (s.waited r).lifetime.deadline = s.lifetime.deadline ∧
    (s.waited r).lifetime.isCancelled = (s.lifetime.isCancelled || (s.courseOf r).cancels) := by
  obtain ⟨lateCloses, strays, queue, requests, sent⟩ := s.alike_sent r
  unfold waited pass
  rw [sent]
  simp only [unregister, Lifetime.deadline_unregister, Lifetime.isCancelled_unregister]
  cases cancels : (s.courseOf r).cancels with
  | false =>
    split <;> simp [register_wake, Lifetime.deadline_register, Lifetime.isCancelled_register]
  | true =>
    split <;>
      simp [register_wake, cancel_eq, Lifetime.deadline_register, Lifetime.isCancelled_register,
        Lifetime.deadline_cancel, Lifetime.isCancelled_cancel]

/-- Meanwhile no worker gets through with anything, and a queue is at most given up. -/
theorem waited_workers (s : Session T) (r : Request T) :
    (s.waited r).lateCloses = (s.sent r).lateCloses ∧ (s.waited r).strays = (s.sent r).strays ∧
      ((s.waited r).queue = (s.sent r).queue ∨ (s.waited r).queue = []) := by
  unfold waited pass
  cases (s.courseOf r).cancels with
  | false => split <;> simp [register_wake, unregister]
  | true =>
    split <;> simp only [register_wake, cancel_eq, unregister, ↓reduceIte, true_and] <;> split <;> simp

/-- Whatever the reply, time passes until the wait is over, and what is sent is recorded. -/
theorem exchange_frame (s : Session T) (r : Request T) :
    (s.exchange r).1.now = (s.courseOf r).time ∧
    (s.exchange r).1.server = (s.server.answer r.url r.fields).2 ∧
    (s.exchange r).1.requests = (s.sent r).requests ∧
    (s.exchange r).1.sleeps = s.sleeps ∧
    (s.exchange r).1.entries = s.entries ∧
    (s.exchange r).1.lifetime.deadline = s.lifetime.deadline ∧
    (s.exchange r).1.lifetime.isCancelled = (s.lifetime.isCancelled || (s.courseOf r).cancels) := by
  rw [exchange_eq, leave_eq]
  exact s.waited_frame r

/-- A wait in which nobody is cancelled leaves the connection as it is. -/
theorem exchange_of_not_cancels {s : Session T} {r : Request T} (h : (s.courseOf r).cancels = false) :
    (s.exchange r).1.isOpen = s.isOpen ∧ (s.exchange r).1.closes = s.closes := by
  obtain ⟨lateCloses, strays, queue, requests, sent⟩ := s.alike_sent r
  rw [exchange_eq, leave_eq]
  unfold waited pass
  rw [sent, h]
  split <;> simp [unregister, register_wake]

/-- A request that ends gives its worker back. -/
theorem strays_exchange_of_ended {s : Session T} {r : Request T} (free : s.hasWorker = true)
    (ended : (s.courseOf r).waited = .ended) : (s.exchange r).1.strays = s.strays := by
  have sent : (s.sent r).strays = s.strays := by
    unfold Session.sent
    rw [isSent_of_hasWorker free, if_pos rfl, send]
    have free : ({ s with server := (s.server.answer r.url r.fields).2 } : Session T).hasWorker = true := free
    rw [free, if_pos rfl]
  rw [exchange_eq, leave, ended]
  exact (s.waited_workers r).2.1.trans sent

theorem isDone_eq_false_iff {s : Session T} :
    s.isDone = false ↔ s.lifetime.isCancelled = false ∧ s.lifetime.isExpired s.now = false := by
  rw [isDone, Lifetime.isDone, Bool.or_eq_false_iff]

/-- After a request the lifetime is over if it was cancelled meanwhile, or else if its deadline has been reached by
then. -/
theorem exchange_isDone {s : Session T} (r : Request T) (h : s.isDone = false) :
    (s.exchange r).1.isDone = true ↔
      (s.courseOf r).cancels = true ∨ s.lifetime.isExpired (s.courseOf r).time = true := by
  obtain ⟨now, -, -, -, -, deadline, isCancelled⟩ := exchange_frame s r
  have notCancelled := (isDone_eq_false_iff.mp h).1
  have expired : (s.exchange r).1.lifetime.isExpired (s.exchange r).1.now =
      s.lifetime.isExpired (s.courseOf r).time := by
    rw [now]
    simp only [Lifetime.isExpired, Lifetime.remaining, deadline]
  simp [isDone, Lifetime.isDone, expired, isCancelled, notCancelled]

/-- Whoever does not wait for the end of a request has come to the end of his lifetime. -/
theorem isDone_of_isAbandoned [Seconds.Irreversible T] {s : Session T} {r : Request T} (lasts : s.isDone = false)
    (abandoned : (s.courseOf r).waited.IsAbandoned) : (s.exchange r).1.isDone = true := by
  rw [exchange_isDone r lasts]
  obtain cancelled | ⟨d, bounded, reached⟩ := Reply.over_of_isAbandoned abandoned
  · exact .inl cancelled
  · right
    change ¬ Seconds.zero < Seconds.left (s.courseOf r).time d at reached
    simpa [Lifetime.isExpired, Lifetime.remaining, bounded] using reached

/-! ## What is noted before a request -/

theorem sent_log (s : Session T) (r : Request T) (es : List Journal.Entry) : (s.log es).sent r = (s.sent r).log es := by
  have course : (s.log es).courseOf r = s.courseOf r := rfl
  unfold sent
  rw [course]
  split
  · exact send_log { s with server := (s.server.answer r.url r.fields).2 } r es
  · rfl

theorem waited_log (s : Session T) (r : Request T) (es : List Journal.Entry) :
    (s.log es).waited r = (s.waited r).log es := by
  have course : (s.log es).courseOf r = s.courseOf r := rfl
  have lag : (s.log es).now + ((s.log es).replyTo r).lag = s.now + (s.replyTo r).lag := rfl
  have requests : (s.log es).requests = s.requests := rfl
  unfold waited pass
  rw [sent_log, course, lag, requests]
  simp only [register_wake, cancel_eq]
  split <;> split <;> rfl

/-- What is noted before a request has no part in it. -/
theorem exchange_log (s : Session T) (r : Request T) (es : List Journal.Entry) :
    (s.log es).exchange r = ((s.exchange r).1.log es, (s.exchange r).2) := by
  have left : ∀ s : Session T, ∀ o c, (s.log es).leave r o c = (s.leave r o c).log es := by
    intro s o c
    unfold leave
    split
    · rfl
    · rfl
    · rfl
    · split <;> rfl
  rw [exchange_eq, exchange_eq, waited_log, left]
  rfl

end

end InstallWatch.Service.Session

namespace InstallWatch.Service.Server

variable {T : Type}

/-- All replies to come are of a kind. -/
def All (P : Reply T → Prop) (s : Server T) : Prop := ∀ e ∈ s.replies, ∀ r ∈ e.2, P r

theorem All.get {P : Reply T → Prop} {s : Server T} (h : s.All P) (resource : String) :
    ∀ r ∈ s.get resource, P r := by
  intro r hr
  unfold Server.get at hr
  cases found : s.replies.lookup resource with
  | none => simp [found] at hr
  | some rs =>
    obtain ⟨before, after, split, -⟩ := List.lookup_eq_some_iff.mp found
    refine h (resource, rs) ?_ r (by simpa [found] using hr)
    rw [split]
    simp

theorem All.set {P : Reply T → Prop} {s : Server T} (h : s.All P) {resource : String} {rs : List (Reply T)}
    (hrs : ∀ r ∈ rs, P r) : (s.set resource rs).All P := by
  intro e he
  rcases List.mem_cons.mp he with rfl | he
  · exact hrs
  · exact h e (List.mem_filter.mp he).1

/-- A request for a URL of a resource gets the next reply of the resource. -/
theorem answer_of_target [Seconds T] {url resource : String} {fields : List (String × String)}
    (h : (Url.target url fields).toOption.map Url.Target.resource = some resource) (s : Server T) :
    s.answer url fields = s.next resource := by
  unfold Server.answer
  generalize Url.target url fields = target at h
  cases target with
  | error f => cases h
  | ok t =>
    obtain ⟨url, resource⟩ := t
    cases h
    rfl

/-- A request gets a reply of the kind, and leaves such replies to come, if what never was recorded is of it too. -/
theorem All.answer [Seconds T] {P : Reply T → Prop} (nothing : P .nothing) (failed : ∀ o, P (.failed o)) {s : Server T}
    (h : s.All P) (url : String) (fields : List (String × String)) :
    P (s.answer url fields).1 ∧ (s.answer url fields).2.All P := by
  unfold Server.answer
  cases Url.target url fields with
  | error f => exact ⟨failed _, h⟩
  | ok t =>
    have replies := h.get t.resource
    unfold Server.next
    simp only []
    split
    · exact ⟨nothing, h⟩
    · rename_i r hr
      rw [hr] at replies
      exact ⟨replies r List.mem_cons_self, h⟩
    · rename_i r rs _ hr
      rw [hr] at replies
      exact ⟨replies r List.mem_cons_self, h.set fun q hq => replies q (List.mem_cons_of_mem r hq)⟩

end InstallWatch.Service.Server
