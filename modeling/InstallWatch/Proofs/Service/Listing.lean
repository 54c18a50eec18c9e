import Mathlib
import InstallWatch.Proofs.Json.Depth
import InstallWatch.Proofs.Service.Exchange
import InstallWatch.Proofs.Time.Order
import InstallWatch.Service.Client

/-!
What a call to the service comes to. Over a lifetime that is over nothing is sent; otherwise a free worker sends one
request that does not outlast the lifetime, and its outcome is the call's result unless the lifetime is over by then. A
call also fails if there is no waiting for as long as the lifetime lasts, if no worker comes to be free, and if there is
no room to read the answer.
-/

namespace InstallWatch.Service

variable {T : Type}

/-- The statuses by which a service refuses a request. -/
def Refuses (status : Int) : Prop := 400 ≤ status ∧ status < 600

/-- The result of a query that passes on what happened to the request. -/
inductive Conveys (c : Client T) (q : Query) : Except Outage Answer → Except Fault (List Json) → Prop where
  | outage (o : Outage) : Conveys c q (.error o) (.error (.outage o))
  | refused (a : Answer) (refuses : Refuses a.status) :
      Conveys c q (.ok a) (.error (.refused a.status a.reason (Url.sent (c.urlOf q) q.fields)))
  | unreadable (a : Answer) (accepts : ¬ Refuses a.status) (f : Json.Fault) (reads : a.read = .error f)
      (shallow : f ≠ .tooDeep) : Conveys c q (.ok a) (.error (.notJson f))
  /-- The body is no worse than others, but there is no room to read it. -/
  | overwhelming (a : Answer) (accepts : ¬ Refuses a.status) (reads : a.read = .error .tooDeep) :
      Conveys c q (.ok a) (.error (.notJson .tooDeep))
  | nothing (a : Answer) (accepts : ¬ Refuses a.status) (reads : a.read = .ok .null) :
      Conveys c q (.ok a) (.ok [])
  | items (a : Answer) (accepts : ¬ Refuses a.status) (items : List Json) (reads : a.read = .ok (.list items)) :
      Conveys c q (.ok a) (.ok items)
  | notList (a : Answer) (accepts : ¬ Refuses a.status) (v : Json) (reads : a.read = .ok v)
      (notNull : v ≠ .null) (notList : ∀ items, v ≠ .list items) :
      Conveys c q (.ok a) (.error (.notList q.resource v.kindName))

theorem blame?_isSome_iff {status : Int} : (Fault.blame? status).isSome = true ↔ Refuses status := by
  unfold Fault.blame? Refuses
  split
  · simp only [Option.isSome_some, true_iff]
    omega
  · split
    · simp only [Option.isSome_some, true_iff]
      omega
    · simp only [Option.isSome_none, Bool.false_eq_true, false_iff]
      omega

namespace Client

theorem itemsOf_conveys (c : Client T) (q : Query) (a : Answer) : Conveys c q (.ok a) (c.itemsOf q a) := by
  unfold itemsOf
  by_cases refuses : Refuses a.status
  · rw [if_pos (blame?_isSome_iff.mpr refuses)]
    exact .refused a refuses
  · rw [if_neg (mt blame?_isSome_iff.mp refuses)]
    split
    · rename_i f reads
      by_cases deep : f = .tooDeep
      · subst deep
        exact .overwhelming a refuses reads
      · exact .unreadable a refuses f reads deep
    · exact .nothing a refuses ‹_›
    · exact .items a refuses _ ‹_›
    · exact .notList a refuses _ ‹_› ‹_› ‹_›

/-- What happened to the request decides the result. -/
theorem conveys_iff (c : Client T) (q : Query) {outcome : Except Outage Answer} {result : Except Fault (List Json)} :
    Conveys c q outcome result ↔ result = match outcome with
      | .error o => .error (.outage o)
      | .ok a => c.itemsOf q a := by
  constructor
  · rintro (o | ⟨a, refuses⟩ | ⟨a, accepts, f, reads, shallow⟩ | ⟨a, accepts, reads⟩ | ⟨a, accepts, reads⟩ |
      ⟨a, accepts, items, reads⟩ | ⟨a, accepts, v, reads, notNull, notList⟩)
    · rfl
    · simp only [itemsOf]
      rw [if_pos (blame?_isSome_iff.mpr refuses)]
    all_goals
      simp only [itemsOf, reads]
      rw [if_neg (mt blame?_isSome_iff.mp accepts)]
  · rintro rfl
    cases outcome with
    | error o => exact .outage o
    | ok a => exact c.itemsOf_conveys q a

end Client

theorem Conveys.unique {c : Client T} {q : Query} {outcome : Except Outage Answer}
    {result result' : Except Fault (List Json)} (h : Conveys c q outcome result) (h' : Conveys c q outcome result') :
    result = result' := by
  rw [(c.conveys_iff q).mp h, (c.conveys_iff q).mp h']

theorem Fault.isExpected_of_isEnding {f : Fault} (h : f.isEnding = true) : f.isExpected = true := by
  cases f <;> first | rfl | cases h

/-- Of what the service does, only a body there is no room for is expected by nobody. -/
theorem Conveys.isExpected_iff {c : Client T} {q : Query} {outcome : Except Outage Answer} {f : Fault}
    (h : Conveys c q outcome (.error f)) : f.isExpected = true ↔ f ≠ .notJson .tooDeep := by
  cases h with
  | outage o => simp [Fault.isExpected]
  | refused a refuses => simp [Fault.isExpected]
  | notList a accepts v reads notNull notList => simp [Fault.isExpected]
  | unreadable a accepts f reads shallow => cases f <;> simp_all [Fault.isExpected]
  | overwhelming a accepts reads => simp [Fault.isExpected]

section
variable [Seconds T]

-- what the service answers is for nobody to work out here
attribute [local irreducible] Server.answer

theorem ending?_eq_none_iff {s : Session T} : s.ending? = none ↔ s.isDone = false := by
  rw [← Option.not_isSome_iff_eq_none, Session.ending?, Lifetime.isSome_ending?, Bool.not_eq_true]
  rfl

theorem ending?_of_isDone {s : Session T} (h : s.isDone = true) : ∃ e, s.ending? = some e := by
  rw [← Option.isSome_iff_exists, Session.ending?, Lifetime.isSome_ending?]
  exact h

namespace Client

/-- Once the lifetime is over nothing is sent. -/
theorem list_of_ending (c : Client T) (q : Query) {s : Session T} {e : Lifetime.Ending} (h : s.ending? = some e) :
    c.list q s = (s, .error (.ended e)) := by
  simp [list, h]

theorem list_of_open (c : Client T) (q : Query) {s : Session T} (opened : s.isOpen = true)
    (lasts : s.isDone = false) :
    c.list q s = ((s.exchange (c.request q s)).1,
      c.resultOf q (s.exchange (c.request q s)).1 (s.replyTo (c.request q s)).outcome
        (s.courseOf (c.request q s)).waited) := by
  have exchanged := s.exchange_snd (c.request q s)
  unfold list
  rw [ending?_eq_none_iff.mpr lasts, if_pos opened]
  generalize s.exchange (c.request q s) = exchange at exchanged ⊢
  obtain ⟨after, outcome, course⟩ := exchange
  obtain ⟨rfl, rfl⟩ := Prod.mk.inj exchanged
  rfl

/-- A call does nothing to its session but what the request does. -/
theorem list_fst (c : Client T) (q : Query) {s : Session T} (opened : s.isOpen = true) (lasts : s.isDone = false) :
    (c.list q s).1 = (s.exchange (c.request q s)).1 := by
  rw [list_of_open c q opened lasts]

theorem isEnding_abandonment (q : Query) (s : Session T) : (abandonment q s).isEnding = true := by
  unfold abandonment
  cases s.ending? <;> rfl

theorem conclude_isEnding (c : Client T) (q : Query) {s : Session T} (outcome : Except Outage Answer)
    (h : s.isDone = true) : ∃ f, c.conclude q s outcome = .error f ∧ f.isEnding = true := by
  obtain ⟨e, he⟩ := ending?_of_isDone h
  unfold conclude
  cases outcome with
  | error o => exact ⟨_, rfl, by simp [h, Fault.isEnding]⟩
  | ok a => exact ⟨.ended e, by simp [he], rfl⟩

theorem conclude_conveys (c : Client T) (q : Query) {s : Session T} (outcome : Except Outage Answer)
    (h : s.isDone = false) : Conveys c q outcome (c.conclude q s outcome) := by
  unfold conclude
  cases outcome with
  | error o =>
    simp only [h, Bool.false_eq_true, ↓reduceIte]
    exact .outage o
  | ok a =>
    simp only [ending?_eq_none_iff.mpr h]
    exact c.itemsOf_conveys q a

theorem requests_list (c : Client T) (q : Query) {s : Session T} (opened : s.isOpen = true) (lasts : s.isDone = false) :
    (c.list q s).1.requests = (s.sent (c.request q s)).requests := by
  obtain ⟨-, -, requests, -⟩ := s.exchange_frame (c.request q s)
  rw [c.list_fst q opened lasts, requests]

/-- Over an open connection a free worker sends the request as long as the lifetime lasts. -/
theorem requests_list_of_hasWorker (c : Client T) (q : Query) {s : Session T} (opened : s.isOpen = true)
    (lasts : s.isDone = false) (free : s.hasWorker = true) :
    (c.list q s).1.requests = s.requests ++ [c.request q s] := by
  rw [c.requests_list q opened lasts, Session.requests_sent_of_hasWorker free]

/-- Without a list there is nobody to identify. -/
theorem identity_of_error {c : Client T} {q : Query} {s : Session T} {f : Fault} (noun : String)
    (h : (c.list q s).2 = .error f) : c.identity q noun s = ((c.list q s).1, .error f) := by
  unfold identity
  generalize c.list q s = answer at h ⊢
  obtain ⟨s', result⟩ := answer
  cases h
  rfl

/-- The list says who is identified. -/
theorem identity_of_ok {c : Client T} {q : Query} {s : Session T} {items : List Json} (noun : String)
    (h : (c.list q s).2 = .ok items) :
    c.identity q noun s = match Identity.ofListing items with
      | .error b => ((c.list q s).1, .error (.badItem b))
      | .ok i => ((c.list q s).1.log (i.report noun), .ok i) := by
  unfold identity
  generalize c.list q s = answer at h ⊢
  obtain ⟨s', result⟩ := answer
  cases h
  rfl

theorem replyTo_request (c : Client T) (q : Query) (s : Session T) :
    s.replyTo (c.request q s) = (s.server.answer (c.urlOf q) q.fields).1 := rfl

/-- A call that ends over a lifetime that is over, or whose wait is abandoned, reports no more than that. -/
theorem list_isEnding (c : Client T) (q : Query) {s : Session T} (opened : s.isOpen = true) (lasts : s.isDone = false)
    (over' : (s.exchange (c.request q s)).1.isDone = true ∨ (s.courseOf (c.request q s)).waited.IsAbandoned)
    (waits : (s.courseOf (c.request q s)).waited ≠ .refused)
    (kept : (s.courseOf (c.request q s)).waited = .takenBack → (s.exchange (c.request q s)).1.isOpen = true) :
    ∃ f, (c.list q s).2 = .error f ∧ f.isEnding = true := by
  rw [list_of_open c q opened lasts]
  dsimp only
  cases waited : (s.courseOf (c.request q s)).waited with
  | ended =>
    refine conclude_isEnding c q _ (over'.resolve_right ?_)
    simp [Waited.IsAbandoned, waited]
  | givenUp => exact ⟨_, rfl, isEnding_abandonment q _⟩
  | takenBack =>
    rw [resultOf, if_pos (kept waited)]
    exact ⟨_, rfl, isEnding_abandonment q _⟩
  | refused => exact absurd waited waits

theorem list_of_refused (c : Client T) (q : Query) {s : Session T} (opened : s.isOpen = true) (lasts : s.isDone = false)
    (refused : (s.courseOf (c.request q s)).waited = .refused) : (c.list q s).2 = .error .tooFar := by
  rw [list_of_open c q opened lasts, refused]
  rfl

theorem list_of_dropped (c : Client T) (q : Query) {s : Session T} (opened : s.isOpen = true) (lasts : s.isDone = false)
    (tookBack : (s.courseOf (c.request q s)).waited = .takenBack)
    (closed : (s.exchange (c.request q s)).1.isOpen = false) : (c.list q s).2 = .error .dropped := by
  rw [list_of_open c q opened lasts, tookBack]
  dsimp only
  rw [resultOf, closed]
  rfl

theorem list_conveys (c : Client T) (q : Query) {s : Session T} (opened : s.isOpen = true)
    (lasts : s.isDone = false) (still : (s.exchange (c.request q s)).1.isDone = false)
    (ended : (s.courseOf (c.request q s)).waited = .ended) :
    Conveys c q (s.replyTo (c.request q s)).outcome (c.list q s).2 := by
  rw [list_of_open c q opened lasts, ended]
  exact conclude_conveys c q _ still

end Client

end

namespace Client

/-! ## What a call might be thought to promise -/

/-- A client with the usual settings. -/
def usual : Client Float := ⟨⟨"10.0.0.5", 8090, "/api", "http"⟩, Settings.standard.timeout, "10.0.0.5", []⟩

/-- A service that answers with a listing in time, and in no time to wait for it. -/
def listing : Session Float := .start 0.0 (.endingAt 10.0)
  ⟨[("infra-envs", [.prompt 1.0 false false (.ok ⟨200, "OK", .json (.list [.text "a"]), 0⟩)])]⟩

/-- A call over a lifetime that lasts sends one request, and comes to what the service does, or reports the end of the
lifetime. -/
structure Promised [Seconds T] (c : Client T) (q : Query) (s : Session T) : Prop where
  sends : ∃ timeout, (c.list q s).1.requests = s.requests ++ [⟨c.urlOf q, q.fields, timeout, accept⟩]
  ended : (c.list q s).1.isDone = true → ∃ f, (c.list q s).2 = .error f ∧ f.isEnding = true
  conveys : (c.list q s).1.isDone = false →
    Conveys c q (s.replyTo (c.request q s)).outcome (c.list q s).2 ∧ (c.list q s).2 ≠ .error (.notJson .tooDeep)

/-- A listing with no room to read it. -/
def overwhelming : Session Float := .start 0.0 .unbounded
  ⟨[("infra-envs", [.atOnce (.ok ⟨200, "OK", .bytes (List.replicate 2000 91), 965⟩)])]⟩

/-- A request that has to queue until the lifetime is cancelled, and the connection closed with it. -/
def closing : Session Float := attach { Session.start 0.0 (.endingAt 10.0)
  ⟨[("infra-envs", [⟨1.0, true, false, .ok ⟨200, "OK", .json (.list []), 0⟩, 0.0, none⟩])]⟩ with
    strays := [true, true, true, true] }

end Client
end InstallWatch.Service
