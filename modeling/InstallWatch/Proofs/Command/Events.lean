import Mathlib
import InstallWatch.Proofs.Command.WaitForApi
import InstallWatch.Proofs.Service.Delivery

/-!
How the command ends that prints the events of an infra-env: with a line for each event, in the order of the service, or
with an error in the journal. It breaks off only at an event that is no object, and at what upsets a query.
-/

namespace InstallWatch.Command
open InstallWatch.Service

/-! ## The lines of events -/

/-- The event has this line, which can be printed. -/
def Written (e : Json) (line : String) : Prop :=
  (Event.line? e).map Text.withoutControls = some line ∧ Text.isEncodable line = true

/-- The event is not printed: it is no object, or its line cannot be printed. -/
inductive Unwritten (e : Json) : BadEvent → Prop where
  | notObject (misshapen : Event.line? e = none) : Unwritten e .notObject
  | unwritable (line : String) (shown : (Event.line? e).map Text.withoutControls = some line)
      (refused : Text.isEncodable line = false) : Unwritten e (.unwritable line)

theorem written_or_unwritten (e : Json) : (∃ line, Written e line) ∨ ∃ bad, Unwritten e bad := by
  cases shown : Event.line? e with
  | none => exact .inr ⟨.notObject, .notObject shown⟩
  | some raw =>
    have line : (Event.line? e).map Text.withoutControls = some (Text.withoutControls raw) := by
      rw [shown, Option.map_some]
    cases encodable : Text.isEncodable (Text.withoutControls raw) with
    | true => exact .inl ⟨_, line, encodable⟩
    | false => exact .inr ⟨_, .unwritable _ line encodable⟩

theorem eventLines_cons_of_written {e : Json} {line : String} (h : Written e line) (es : List Json) :
    eventLines (e :: es) = (line :: (eventLines es).1, (eventLines es).2) := by
  obtain ⟨shown, encodable⟩ := h
  simp only [eventLines, shown, encodable, ↓reduceIte]

theorem eventLines_cons_of_unwritten {e : Json} {bad : BadEvent} (h : Unwritten e bad) (es : List Json) :
    eventLines (e :: es) = ([], some bad) := by
  cases h with
  | notObject misshapen => simp [eventLines, misshapen]
  | unwritable line shown refused => simp [eventLines, shown, refused]

/-- What is printed before an event does not depend on it. -/
theorem eventLines_append {before : List Json} {lines : List String} (h : List.Forall₂ Written before lines)
    (es : List Json) : eventLines (before ++ es) = (lines ++ (eventLines es).1, (eventLines es).2) := by
  induction h with
  | nil => rfl
  | cons written _ ih => rw [List.cons_append, eventLines_cons_of_written written, ih, List.cons_append]

/-- All events are printed, or those before the first that is not. -/
theorem written_to_end_or_bad (es : List Json) :
    (∃ lines, List.Forall₂ Written es lines) ∨
      ∃ before e after lines bad, es = before ++ e :: after ∧ List.Forall₂ Written before lines ∧ Unwritten e bad := by
  induction es with
  | nil => exact .inl ⟨[], .nil⟩
  | cons e es ih =>
    obtain ⟨line, written⟩ | ⟨bad, unwritten⟩ := written_or_unwritten e
    · obtain ⟨lines, all⟩ | ⟨before, e', after, lines, bad, rfl, all, unwritten⟩ := ih
      · exact .inl ⟨line :: lines, .cons written all⟩
      · exact .inr ⟨e :: before, e', after, line :: lines, bad, rfl, .cons written all, unwritten⟩
    · exact .inr ⟨[], e, es, [], bad, rfl, .nil, unwritten⟩

/-! ## The command -/

def Verdict.isCrash : Verdict → Bool
  | crashed _ => true
  | _ => false

variable {T : Type} [Seconds T]

/-- The infra-env whose events are asked for, and the session by then: the one that is given, or else the only one that
the service lists. -/
inductive Asks (c : Client T) (s : Session T) : Option String → String → Session T → Prop where
  | given (id : String) : Asks c s (some id) id s
  | registered (item : Json) (u : Uuid) (lists : c.Lists .infraEnvs s [item])
      (identified : Identity.ofItem item = .ok u) : Asks c s none u.text (c.list .infraEnvs s).1

/-- The command ends as it should: it has printed all events that the service lists, or the last it has noted is an
error. -/
inductive Promised (c : Client T) (s : Session T) (infraEnv : Option String) (after : Session T) : Outcome → Prop where
  | printed {id : String} {asking : Session T} {events : List Json} {lines : List String}
      (asks : Asks c s infraEnv id asking) (lists : c.Lists (.events id) asking events)
      (written : List.Forall₂ Written events lines) : Promised c s infraEnv after ⟨lines, .done⟩
  | reported (lines : List String) (message : String) (noted : after.entries.getLast? = some (Journal.error message)) :
      Promised c s infraEnv after ⟨lines, .failed⟩

/-- What the command does not expect of the service: what upsets its queries, and an event that is no object behind
events that are printed. -/
inductive Surprises (c : Client T) (s : Session T) : Option String → Crash → Prop where
  | infraEnvs {f : Fault} (upset : c.Upset .infraEnvs s f) : Surprises c s none (.call f)
  | events {infraEnv : Option String} {id : String} {asking : Session T} {f : Fault}
      (asks : Asks c s infraEnv id asking) (upset : c.Upset (.events id) asking f) : Surprises c s infraEnv (.call f)
  | misshapen {infraEnv : Option String} {id : String} {asking : Session T} {before after : List Json} {e : Json}
      {lines : List String} (asks : Asks c s infraEnv id asking)
      (lists : c.Lists (.events id) asking (before ++ e :: after)) (written : List.Forall₂ Written before lines)
      (notObject : Event.line? e = none) : Surprises c s infraEnv .event

omit [Seconds T] in
theorem getLast?_log (s : Session T) (e : Journal.Entry) : (s.log [e]).entries.getLast? = some e := by
  simp [Session.log]

theorem printEvents_of_error {c : Client T} {s : Session T} {id : String} {f : Fault}
    (h : (c.list (.events id) s).2 = .error f) : printEvents c id s = eventsFailed c (c.list (.events id) s).1 f := by
  unfold printEvents Client.events
  generalize c.list (.events id) s = answer at h ⊢
  obtain ⟨s', result⟩ := answer
  cases h
  rfl

theorem printEvents_of_lists {c : Client T} {s : Session T} {id : String} {events : List Json}
    (h : c.Lists (.events id) s events) :
    printEvents c id s = match eventLines events with
      | (lines, none) => ((c.list (.events id) s).1, ⟨lines, .done⟩)
      | (lines, some .notObject) => ((c.list (.events id) s).1, ⟨lines, .crashed .event⟩)
      | (lines, some (.unwritable line)) =>
        ((c.list (.events id) s).1.log [eventsTrouble c (Text.encodingRefusal line)], ⟨lines, .failed⟩) := by
  have listed := (c.list_eq_ok_iff (.events id)).mpr h
  unfold printEvents Client.events
  generalize c.list (.events id) s = answer at listed ⊢
  obtain ⟨s', result⟩ := answer
  cases listed
  rfl

/-- Events that all have lines are printed. -/
theorem printEvents_of_written {c : Client T} {s : Session T} {id : String} {events : List Json} {lines : List String}
    (lists : c.Lists (.events id) s events) (written : List.Forall₂ Written events lines) :
    printEvents c id s = ((c.list (.events id) s).1, ⟨lines, .done⟩) := by
  have all : eventLines events = (lines, none) := by
    have appended := eventLines_append written []
    simpa only [List.append_nil, eventLines] using appended
  rw [printEvents_of_lists lists, all]

theorem showEvents_of_asks {c : Client T} {s asking : Session T} {infraEnv : Option String} {id : String}
    (h : Asks c s infraEnv id asking) : showEvents infraEnv c s = printEvents c id asking := by
  cases h with
  | given => rfl
  | registered item u lists identified =>
    have known : Identity.ofListing [item] = .ok (.registered u) := by simp [Identity.ofListing, identified]
    have listed := (c.list_eq_ok_iff _).mpr lists
    simp [showEvents, Client.infraEnv, Client.identity_of_ok _ listed, known, Identity.id?, Identity.report, Session.log]

omit [Seconds T] in
theorem eventsFailed_of_unexpected {c : Client T} {s : Session T} {f : Fault} (unexpected : f.isExpected = false) :
    (eventsFailed c s f).2.verdict = .crashed (.call f) := by
  rw [eventsFailed, unexpected]
  rfl

/-- Every surprise breaks the command off. -/
theorem Surprises.breaks {c : Client T} {s : Session T} {infraEnv : Option String} {crash : Crash}
    (h : Surprises c s infraEnv crash) : (showEvents infraEnv c s).2.verdict = .crashed crash := by
  cases h with
  | infraEnvs upset =>
    obtain ⟨failed, unexpected⟩ := upset.fails
    rw [showEvents, Client.infraEnv, Client.identity_of_error _ failed]
    exact eventsFailed_of_unexpected unexpected
  | events asks upset =>
    obtain ⟨failed, unexpected⟩ := upset.fails
    rw [showEvents_of_asks asks, printEvents_of_error failed]
    exact eventsFailed_of_unexpected unexpected
  | misshapen asks lists written notObject =>
    rw [showEvents_of_asks asks, printEvents_of_lists lists, eventLines_append written,
      eventLines_cons_of_unwritten (.notObject notObject)]

/-- A command that ends as it should does not crash. -/
theorem Promised.isCrash {c : Client T} {s after : Session T} {infraEnv : Option String} {outcome : Outcome}
    (h : Promised c s infraEnv after outcome) : outcome.verdict.isCrash = false := by
  cases h with
  | printed asks lists written => rfl
  | reported lines message noted => rfl

/-- A failure that is expected is noted. -/
theorem eventsFailed_promised {c : Client T} {s s' : Session T} {infraEnv : Option String} {f : Fault}
    (expected : f.isExpected = true) : Promised c s infraEnv (eventsFailed c s' f).1 (eventsFailed c s' f).2 := by
  rw [eventsFailed, if_pos expected]
  exact .reported [] _ (getLast?_log s' _)

/-- Once it is known which events are asked for, they are printed or an error is noted, if nothing is a surprise. -/
theorem printEvents_promised {c : Client T} {s asking : Session T} {infraEnv : Option String} {id : String}
    (usable : asking.Usable) (asks : Asks c s infraEnv id asking) (calm : ¬ ∃ crash, Surprises c s infraEnv crash) :
    Promised c s infraEnv (printEvents c id asking).1 (printEvents c id asking).2 := by
  cases listed : (c.list (.events id) asking).2 with
  | error f =>
    rw [printEvents_of_error listed]
    exact eventsFailed_promised (c.isExpected_of_list _ usable listed fun ⟨f, upset⟩ => calm ⟨_, .events asks upset⟩)
  | ok events =>
    have lists := (c.list_eq_ok_iff _).mp listed
    obtain ⟨lines, written⟩ | ⟨before, e, after, lines, bad, rfl, written, unwritten⟩ := written_to_end_or_bad events
    · rw [printEvents_of_written lists written]
      exact .printed asks lists written
    · rw [printEvents_of_lists lists, eventLines_append written, eventLines_cons_of_unwritten unwritten]
      cases unwritten with
      | notObject misshapen => exact absurd ⟨_, .misshapen asks lists written misshapen⟩ calm
      | unwritable line shown refused => exact .reported _ _ (getLast?_log _ _)

theorem showEvents_promised {c : Client T} {s : Session T} {infraEnv : Option String} (usable : s.Usable)
    (calm : ¬ ∃ crash, Surprises c s infraEnv crash) :
    Promised c s infraEnv (showEvents infraEnv c s).1 (showEvents infraEnv c s).2 := by
  cases infraEnv with
  | some id => exact printEvents_promised usable (.given id) calm
  | none =>
    cases listed : (c.list .infraEnvs s).2 with
    | error f =>
      rw [showEvents, Client.infraEnv, Client.identity_of_error _ listed]
      exact eventsFailed_promised (c.isExpected_of_list _ usable listed fun ⟨f, upset⟩ => calm ⟨_, .infraEnvs upset⟩)
    | ok items =>
      -- the listing decides: only its single item can have an identity
      match items with
      | [] =>
        simp only [showEvents, Client.infraEnv, Client.identity_of_ok _ listed, Identity.ofListing, Identity.id?]
        exact .reported [] _ (getLast?_log _ _)
      | [item] =>
        cases identified : Identity.ofItem item with
        | error fault =>
          simp only [showEvents, Client.infraEnv, Client.identity_of_ok _ listed, Identity.ofListing, identified]
          exact eventsFailed_promised rfl
        | ok u =>
          have asks : Asks c s none u.text (c.list .infraEnvs s).1 :=
            .registered item u ((c.list_eq_ok_iff _).mp listed) identified
          rw [showEvents_of_asks asks]
          exact printEvents_promised (c.usable_list _ usable) asks calm
      | item :: item' :: rest =>
        simp only [showEvents, Client.infraEnv, Client.identity_of_ok _ listed, Identity.ofListing, Identity.id?]
        exact .reported [] _ (getLast?_log _ _)

/-- With every client, and whatever the service does, the command prints the events or reports an error exactly if the
service does not surprise it. A surprise breaks it off; and events that all have lines it prints, each in its place. -/
theorem events_keep_iff [Asset.Library] (x : Surroundings T) (folder : Files.Path) (settings : Settings) (infraEnv : Option String)
    {s s' : Session T} {c : Client T} (opened : s.isOpen = true)
    (connects : Client.connect x.tree x.environment folder settings s = (s', .ok c)) :
    (Promised c s' infraEnv (execute x folder settings (.events infraEnv) s).1
        (execute x folder settings (.events infraEnv) s).2 ↔ ¬ ∃ crash, Surprises c s' infraEnv crash) ∧
    (∀ crash, Surprises c s' infraEnv crash →
      (execute x folder settings (.events infraEnv) s).2.verdict = .crashed crash) ∧
    ∀ id asking events lines, Asks c s' infraEnv id asking → c.Lists (.events id) asking events →
      List.Forall₂ Written events lines → (execute x folder settings (.events infraEnv) s).2 = ⟨lines, .done⟩ := by
  have executed : execute x folder settings (.events infraEnv) s = showEvents infraEnv c s' := by
    simp only [execute, connects]
  have usable : s'.Usable := by
    obtain ⟨es, rfl⟩ := connect_eq_ok connects
    exact Client.usable_attach opened
  rw [executed]
  refine ⟨⟨?_, showEvents_promised usable⟩, fun crash => Surprises.breaks, ?_⟩
  · intro promised surprised
    obtain ⟨crash, surprises⟩ := surprised
    have crashes := promised.isCrash
    rw [surprises.breaks] at crashes
    cases crashes
  · intro id asking events lines asks lists written
    rw [showEvents_of_asks asks, printEvents_of_written lists written]

/-! ## Two services -/

section
attribute [local instance] Asset.Library.plain

/-- The service has one infra-env, which has two events. -/
def eventful : Session ℚ := .start 0 .unbounded
  ⟨[("infra-envs", [.value (.list [.object [("id", .text "00000000-0000-0000-0000-000000000005")]])]),
    ("events", [.value (.list [
      .object [("event_time", .text "12:00"), ("severity", .text "info"), ("message", .text "Host joined")],
      .object [("event_time", .text "12:05"), ("message", .text "Host ready")]])])]⟩

/-- The events of the only infra-env are printed in their order. -/
theorem events_keep_eventful :
    (execute (pinned []) ⟨.here, []⟩ .standard (.events none) eventful).2.lines =
      ["12:00 info Host joined", "12:05 - Host ready"] ∧
    ∃ s', Client.connect (pinned []).tree (pinned []).environment ⟨.here, []⟩ .standard eventful = (s', .ok nearby) ∧
      Promised nearby s' none (execute (pinned []) ⟨.here, []⟩ .standard (.events none) eventful).1
        (execute (pinned []) ⟨.here, []⟩ .standard (.events none) eventful).2 := by
  have printed : (execute (pinned []) ⟨.here, []⟩ .standard (.events none) eventful).2.lines =
        ["12:00 info Host joined", "12:05 - Host ready"] ∧
      (execute (pinned []) ⟨.here, []⟩ .standard (.events none) eventful).2.verdict.isCrash = false := by
    decide +kernel
  obtain ⟨s', connects⟩ := connect_pinned [] eventful
  obtain ⟨keeps, breaks, -⟩ := events_keep_iff (pinned []) ⟨.here, []⟩ .standard none rfl connects
  refine ⟨printed.1, s', connects, keeps.mpr ?_⟩
  intro surprised
  obtain ⟨crash, surprises⟩ := surprised
  have crashed := printed.2
  rw [breaks crash surprises] at crashed
  cases crashed

/-- The service lists a number among the events. -/
def numbered : Session ℚ := .start 0 .unbounded ⟨[("events", [.value (.list [.int 5])])]⟩

/-- At the number the command breaks off, and reports no error. -/
theorem events_break_at_number :
    ((execute (pinned []) ⟨.here, []⟩ .standard (.events (some "x")) numbered).2.verdict.isCrash = true ∧
      ∀ e ∈ (execute (pinned []) ⟨.here, []⟩ .standard (.events (some "x")) numbered).1.entries,
        e.level ≠ Journal.Level.error) ∧
    ∀ c s, ¬ Promised c s (some "x") (execute (pinned []) ⟨.here, []⟩ .standard (.events (some "x")) numbered).1
      (execute (pinned []) ⟨.here, []⟩ .standard (.events (some "x")) numbered).2 := by
  have crashes : (execute (pinned []) ⟨.here, []⟩ .standard (.events (some "x")) numbered).2.verdict.isCrash = true ∧
      ∀ e ∈ (execute (pinned []) ⟨.here, []⟩ .standard (.events (some "x")) numbered).1.entries,
        e.level ≠ Journal.Level.error := by decide +kernel
  refine ⟨crashes, fun c s promised => ?_⟩
  have crashed := crashes.1
  rw [promised.isCrash] at crashed
  cases crashed

end

end InstallWatch.Command
