import Mathlib
import InstallWatch.Proofs.Service.Course

/-!
What a query brings, told from the reply and the workers alone. A list is what the service answers in time; and over a
connection that is open as long as the lifetime lasts, a query fails in a way that nobody expects only if there is no room
to read an answer that comes in time, no waiting for as long as the lifetime lasts, or no connection any more when the
request might be taken up.
-/

namespace InstallWatch.Service

variable {T : Type} [Seconds T]

/-- The connection is open, or the lifetime is over, so that no call has to do without it. -/
def Session.Usable (s : Session T) : Prop := s.isOpen = true ∨ s.isDone = true

namespace Client

/-- The request of a query goes out, and what becomes of it is known before the lifetime is over. -/
structure Hears (c : Client T) (q : Query) (s : Session T) : Prop where
  isOpen : s.isOpen = true
  returns : (s.courseOf (c.request q s)).waited = .ended
  inTime : (c.list q s).1.isDone = false

/-- The request of a query goes out, perhaps behind others, and is answered with success before the lifetime is over. -/
structure Delivers (c : Client T) (q : Query) (s : Session T) (a : Answer) : Prop where
  sent : ∃ queued, (c.list q s).1.requests = s.requests ++ (queued ++ [c.request q s])
  answers : (s.replyTo (c.request q s)).outcome = .ok a
  returns : (s.courseOf (c.request q s)).waited = .ended
  inTime : (c.list q s).1.isDone = false
  accepts : ¬ Refuses a.status

/-- The service lists these items, or answers with nothing, which lists none. -/
def Lists (c : Client T) (q : Query) (s : Session T) (items : List Json) : Prop :=
  ∃ a, c.Delivers q s a ∧ (a.read = .ok (.list items) ∨ a.read = .ok .null ∧ items = [])

/-- The service answers with a body that there is no room to read. -/
def TooDeep (c : Client T) (q : Query) (s : Session T) : Prop :=
  ∃ a, c.Delivers q s a ∧ a.read = .error .tooDeep

/-- The lifetime lasts for longer than anybody can wait. -/
structure TooFar (c : Client T) (q : Query) (s : Session T) : Prop where
  isOpen : s.isOpen = true
  lasts : s.isDone = false
  refused : (s.courseOf (c.request q s)).waited = .refused

/-- The connection is closed, with the lifetime, before the request is taken up. -/
structure Dropped (c : Client T) (q : Query) (s : Session T) : Prop where
  isOpen : s.isOpen = true
  lasts : s.isDone = false
  tookBack : (s.courseOf (c.request q s)).waited = .takenBack
  closed : (c.list q s).1.isOpen = false

/-- What nobody expects of a query over an open connection, and the fault that it fails with. -/
inductive Upset (c : Client T) (q : Query) (s : Session T) : Fault → Prop where
  | tooDeep (deep : c.TooDeep q s) : Upset c q s (.notJson .tooDeep)
  | tooFar (far : c.TooFar q s) : Upset c q s .tooFar
  | dropped (dropped : c.Dropped q s) : Upset c q s .dropped

/-- Nothing happens to a query that nobody expects of it over an open connection. -/
def Calm (c : Client T) (q : Query) (s : Session T) : Prop := ¬ ∃ f, c.Upset q s f

/-- What a query comes to: it fails for want of a connection, a lifetime, a wait or a worker, or what becomes of its
request in time is what it brings. -/
inductive Comes (c : Client T) (q : Query) (s : Session T) : Except Fault (List Json) → Prop where
  | closed (closed : s.isOpen = false) (lasts : s.isDone = false) : Comes c q s (.error .closed)
  | ending {f : Fault} (ending : f.isEnding = true) (unheard : ¬ c.Hears q s) : Comes c q s (.error f)
  | tooFar (far : c.TooFar q s) : Comes c q s (.error .tooFar)
  | dropped (dropped : c.Dropped q s) : Comes c q s (.error .dropped)
  | conveyed {result : Except Fault (List Json)} (heard : c.Hears q s)
      (sent : ∃ queued, (c.list q s).1.requests = s.requests ++ (queued ++ [c.request q s]))
      (conveys : Conveys c q (s.replyTo (c.request q s)).outcome result) : Comes c q s result

/-- A request that has ended was sent. -/
theorem sent_of_ended (c : Client T) (q : Query) {s : Session T} (opened : s.isOpen = true) (lasts : s.isDone = false)
    (ended : (s.courseOf (c.request q s)).waited = .ended) :
    ∃ queued, (c.list q s).1.requests = s.requests ++ (queued ++ [c.request q s]) := by
  have isSent : (s.courseOf (c.request q s)).isSent = true := (Session.isSent_iff (by simp [ended])).mpr (by simp [ended])
  refine ⟨if s.hasWorker then [] else s.queue, ?_⟩
  rw [c.requests_list q opened lasts, Session.requests_sent, isSent]
  cases s.hasWorker <;> rfl

theorem list_comes (c : Client T) (q : Query) (s : Session T) : Comes c q s (c.list q s).2 := by
  cases lasts : s.isDone with
  | true =>
    obtain ⟨e, he⟩ := ending?_of_isDone lasts
    have unheard : ¬ c.Hears q s := by
      intro heard
      have inTime := heard.inTime
      rw [c.list_of_ending q he, lasts] at inTime
      cases inTime
    rw [c.list_of_ending q he]
    exact .ending rfl unheard
  | false =>
    cases opened : s.isOpen with
    | false =>
      rw [c.list_error_of_closed q opened lasts]
      exact .closed opened lasts
    | true =>
      have frame := c.list_fst q opened lasts
      cases waited : (s.courseOf (c.request q s)).waited with
      | refused =>
        rw [c.list_of_refused q opened lasts waited]
        exact .tooFar ⟨opened, lasts, waited⟩
      | givenUp =>
        obtain ⟨f, failed, ending⟩ :=
          c.list_isEnding q opened lasts (.inr (.inl waited)) (by simp [waited]) (by simp [waited])
        rw [failed]
        exact .ending ending fun heard => by simp [heard.returns] at waited
      | takenBack =>
        cases kept : (s.exchange (c.request q s)).1.isOpen with
        | false =>
          rw [c.list_of_dropped q opened lasts waited kept]
          exact .dropped ⟨opened, lasts, waited, by rw [frame, kept]⟩
        | true =>
          obtain ⟨f, failed, ending⟩ :=
            c.list_isEnding q opened lasts (.inr (.inr waited)) (by simp [waited]) fun _ => kept
          rw [failed]
          exact .ending ending fun heard => by simp [heard.returns] at waited
      | ended =>
        cases late : (s.exchange (c.request q s)).1.isDone with
        | true =>
          obtain ⟨f, failed, ending⟩ :=
            c.list_isEnding q opened lasts (.inl late) (by simp [waited]) (by simp [waited])
          rw [failed]
          refine .ending ending fun heard => ?_
          have inTime := heard.inTime
          rw [frame, late] at inTime
          cases inTime
        | false =>
          exact .conveyed ⟨opened, waited, by rw [frame, late]⟩ (c.sent_of_ended q opened lasts waited)
            (c.list_conveys q opened lasts late waited)

/-- Where the request goes out, what comes of it in time is what the query brings. -/
theorem Hears.conveys {c : Client T} {q : Query} {s : Session T} (h : c.Hears q s) :
    Conveys c q (s.replyTo (c.request q s)).outcome (c.list q s).2 := by
  have comes := c.list_comes q s
  generalize (c.list q s).2 = result at comes
  cases comes with
  | closed closed => simp [h.isOpen] at closed
  | ending ending unheard => exact absurd h unheard
  | tooFar far => simpa [h.returns] using far.refused
  | dropped dropped => simpa [h.returns] using dropped.tookBack
  | conveyed heard sent conveys => exact conveys

/-- A query that is heard is made while the lifetime lasts. -/
theorem Hears.lasts {c : Client T} {q : Query} {s : Session T} (h : c.Hears q s) : s.isDone = false := by
  have inTime := h.inTime
  cases over' : s.isDone with
  | false => rfl
  | true =>
    obtain ⟨e, he⟩ := ending?_of_isDone over'
    rw [c.list_of_ending q he, over'] at inTime
    cases inTime

theorem Delivers.hears {c : Client T} {q : Query} {s : Session T} {a : Answer} (h : c.Delivers q s a) : c.Hears q s := by
  refine ⟨?_, h.returns, h.inTime⟩
  by_contra closed
  obtain ⟨queued, sent⟩ := h.sent
  rw [c.list_of_closed q (by simpa using closed)] at sent
  simpa using congrArg List.length sent

theorem Delivers.conveys {c : Client T} {q : Query} {s : Session T} {a : Answer} (h : c.Delivers q s a) :
    Conveys c q (.ok a) (c.list q s).2 := by
  rw [← h.answers]
  exact h.hears.conveys

/-- Over an open connection an answer is delivered that comes in time. -/
theorem delivers_of_reply (c : Client T) (q : Query) {s : Session T} {a : Answer} (opened : s.isOpen = true)
    (lasts : s.isDone = false) (answers : (s.replyTo (c.request q s)).outcome = .ok a)
    (returns : (s.courseOf (c.request q s)).waited = .ended) (kept : (s.courseOf (c.request q s)).cancels = false)
    (inTime : s.lifetime.isExpired (s.courseOf (c.request q s)).time = false) (accepts : ¬ Refuses a.status) :
    c.Delivers q s a := by
  refine ⟨c.sent_of_ended q opened lasts returns, answers, returns, ?_, accepts⟩
  rw [c.list_fst q opened lasts, ← Bool.not_eq_true, Session.exchange_isDone _ lasts]
  simp [kept, inTime]

/-- What a query lists is what the service lists. -/
theorem list_eq_ok_iff (c : Client T) (q : Query) {s : Session T} {items : List Json} :
    (c.list q s).2 = .ok items ↔ c.Lists q s items := by
  constructor
  · intro listed
    have comes := c.list_comes q s
    rw [listed] at comes
    cases comes with
    | conveyed heard sent conveys =>
      generalize answered : (s.replyTo (c.request q s)).outcome = outcome at conveys
      cases conveys with
      | nothing a accepts reads =>
        exact ⟨a, ⟨sent, answered, heard.returns, heard.inTime, accepts⟩, .inr ⟨reads, rfl⟩⟩
      | items a accepts items reads => exact ⟨a, ⟨sent, answered, heard.returns, heard.inTime, accepts⟩, .inl reads⟩
  · intro lists
    obtain ⟨a, delivers, reads | ⟨reads, rfl⟩⟩ := lists
    · exact delivers.conveys.unique (.items a delivers.accepts items reads)
    · exact delivers.conveys.unique (.nothing a delivers.accepts reads)

/-- What nobody expects of a query makes it fail. -/
theorem Upset.fails {c : Client T} {q : Query} {s : Session T} {f : Fault} (h : c.Upset q s f) :
    (c.list q s).2 = .error f ∧ f.isExpected = false := by
  cases h with
  | tooDeep deep =>
    obtain ⟨a, delivers, reads⟩ := deep
    exact ⟨delivers.conveys.unique (.overwhelming a delivers.accepts reads), rfl⟩
  | tooFar far => exact ⟨c.list_of_refused q far.isOpen far.lasts far.refused, rfl⟩
  | dropped dropped =>
    have closed := dropped.closed
    rw [c.list_fst q dropped.isOpen dropped.lasts] at closed
    exact ⟨c.list_of_dropped q dropped.isOpen dropped.lasts dropped.tookBack closed, rfl⟩

/-- Over a usable connection a query fails in a way that nobody expects only if something upsets it. -/
theorem upset_iff (c : Client T) (q : Query) {s : Session T} (usable : s.Usable) {f : Fault} :
    c.Upset q s f ↔ (c.list q s).2 = .error f ∧ f.isExpected = false := by
  refine ⟨Upset.fails, ?_⟩
  rintro ⟨failed, unexpected⟩
  have comes := c.list_comes q s
  rw [failed] at comes
  cases comes with
  | closed closed lasts => simp [Session.Usable, closed, lasts] at usable
  | ending ending unheard => simp [Fault.isExpected_of_isEnding ending] at unexpected
  | tooFar far => exact .tooFar far
  | dropped dropped => exact .dropped dropped
  | conveyed heard sent conveys =>
    have deep : f = .notJson .tooDeep := by
      by_contra shallow
      rw [conveys.isExpected_iff.mpr shallow] at unexpected
      cases unexpected
    subst deep
    generalize answered : (s.replyTo (c.request q s)).outcome = outcome at conveys
    cases conveys with
    | unreadable a accepts f reads shallow => exact absurd rfl shallow
    | overwhelming a accepts reads =>
      exact .tooDeep ⟨a, ⟨sent, answered, heard.returns, heard.inTime, accepts⟩, reads⟩

/-- Over a usable connection a query that nothing upsets fails as expected, if it does. -/
theorem isExpected_of_list (c : Client T) (q : Query) {s : Session T} (usable : s.Usable) {f : Fault}
    (failed : (c.list q s).2 = .error f) (calm : c.Calm q s) : f.isExpected = true := by
  by_contra unexpected
  exact calm ⟨f, (c.upset_iff q usable).mpr ⟨failed, by simpa using unexpected⟩⟩

/-- A query that lists something is not upset. -/
theorem calm_of_ok {c : Client T} {q : Query} {s : Session T} {items : List Json} (listed : (c.list q s).2 = .ok items) :
    c.Calm q s := by
  rintro ⟨f, upset⟩
  rw [upset.fails.1] at listed
  cases listed

/-- A query leaves a connection usable: only the end of the lifetime closes it. -/
theorem usable_list (c : Client T) (q : Query) {s : Session T} (usable : s.Usable) : (c.list q s).1.Usable := by
  cases lasts : s.isDone with
  | true =>
    obtain ⟨e, he⟩ := ending?_of_isDone lasts
    rw [c.list_of_ending q he]
    exact usable
  | false =>
    have opened : s.isOpen = true := usable.resolve_right (by simp [lasts])
    rw [c.list_fst q opened lasts]
    cases cancels : (s.courseOf (c.request q s)).cancels with
    | true => exact .inr ((Session.exchange_isDone _ lasts).mpr (.inl cancels))
    | false => exact .inl (by rw [(Session.exchange_of_not_cancels cancels).1, opened])

/-- A client finds the connection usable that it takes up open. -/
theorem usable_attach {s : Session T} (opened : s.isOpen = true) : (attach s).Usable := by
  unfold attach Session.register
  cases cancelled : s.lifetime.isCancelled with
  | true =>
    rw [(Lifetime.register_eq_none_iff s.lifetime .close).mpr cancelled]
    refine .inr ?_
    simp [Session.isDone, Lifetime.isDone, Session.runHook, Session.shut, cancelled]
  | false =>
    simp only [Lifetime.register, cancelled]
    exact .inl opened

end Client

end InstallWatch.Service
