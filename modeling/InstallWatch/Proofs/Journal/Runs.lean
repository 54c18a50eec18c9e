import Mathlib
import InstallWatch.Command.Run

/-!
What a sequence of runs leaves in the journal. Each run sets up its own console, and a file if its folder is there; what
is noted goes to these and to nothing else, in its order and once. Only what cannot be written as UTF-8 is missing in the
files.
-/

namespace InstallWatch.Journal

/-- The entry as the console shows it. -/
def Entry.onScreen (e : Entry) : Entry := { e with message := Text.withHalvesEscaped e.message }

/-- An entry that can be written is shown as it is. -/
theorem Entry.points_onScreen {e : Entry} (encodable : Text.isEncodable e.message = true) :
    Text.points e.onScreen.message.toList = Text.points e.message.toList := by
  rw [Text.isEncodable, List.all_eq_true] at encodable
  show Text.points (Text.withHalvesEscaped e.message).toList = _
  rw [Text.withHalvesEscaped, String.toList_ofList, Text.points_ofPoints]
  refine (List.flatMap_congr fun p hp => ?_).trans (List.flatMap_singleton' _)
  cases p with
  | char c => rfl
  | half h => exact absurd (encodable _ hp) (by simp [Text.Point.isHalf])

/-- A console of a level shows the entry. -/
def Entry.isShown (level : Level) (e : Entry) : Bool := Level.debug ≤ e.level && level ≤ e.level

/-- The entry belongs into the full trace. -/
def Entry.isTraced (e : Entry) : Bool := Level.debug ≤ e.level

/-- A file keeps the entry. -/
def Entry.isKept (e : Entry) : Bool := e.isTraced && Text.isEncodable e.message

namespace Desk
open InstallWatch.Files

/-! ## What a file holds -/

theorem lookup_appendAt (place q : List String) (e : Entry) (fs : List (List String × List Entry)) :
    (appendAt place e fs).lookup q = if q = place then some ((fs.lookup place).getD [] ++ [e]) else fs.lookup q := by
  induction fs with
  | nil =>
    by_cases same : q = place
    · simp [appendAt, same]
    · simp [appendAt, same, List.lookup_cons, beq_eq_false_iff_ne.mpr same]
  | cons f fs ih =>
    obtain ⟨p, es⟩ := f
    unfold appendAt
    by_cases here : p = place
    · subst here
      by_cases same : q = p
      · simp [same]
      · simp [same, List.lookup_cons, beq_eq_false_iff_ne.mpr same]
    · have there : (place == p) = false := beq_eq_false_iff_ne.mpr (Ne.symm here)
      rw [if_neg here]
      by_cases first : q = p
      · subst first
        simp [here]
      · have further : (q == p) = false := beq_eq_false_iff_ne.mpr first
        simp only [List.lookup_cons, further, there, ih]

theorem lookup_touch (d : Desk) (p : Path) (q : List String) :
    (d.touch p).files.lookup q = if q = d.place p then some ((d.files.lookup q).getD []) else d.files.lookup q := by
  unfold touch file?
  cases found : d.files.lookup (d.place p) with
  | some es =>
    simp only [Option.isSome_some, ↓reduceIte]
    split
    · rename_i same
      rw [same, found]
      rfl
    · rfl
  | none =>
    rw [if_neg (by simp), List.lookup_append]
    split
    · rename_i same
      simp [same, found]
    · rename_i other
      simp [List.lookup_cons, beq_eq_false_iff_ne.mpr other]

theorem place_congr {d d' : Desk} (here : d'.here = d.here) (p : Path) : d'.place p = d.place p := by
  rw [place, here, place]

/-! ## What a desk makes of entries -/

/-- The desk is set up for a run: the run's file is there, if it keeps one, and a console of its level. -/
structure SetFor (path : Option Path) (level : Level) (d : Desk) : Prop where
  sinks : d.sinks = (path.map Sink.file).toList ++ [.console level]
  there : ∀ p, path = some p → (d.files.lookup (d.place p)).isSome = true

/-- What a run's entries have made of its desk: the console shows what is of its level, the run's file has got what it
keeps, and no other file has got anything. -/
structure Receives (path : Option Path) (level : Level) (d : Desk) (es : List Entry) (d' : Desk) : Prop where
  here : d'.here = d.here
  sinks : d'.sinks = d.sinks
  screen : d'.screen = d.screen ++ (es.filter (·.isShown level)).map Entry.onScreen
  files : ∀ q, d'.files.lookup q =
    (d.files.lookup q).map (· ++ if path.any (d.place · = q) then es.filter Entry.isKept else [])

variable {path : Option Path} {level : Level} {d d' d'' : Desk} {es es' : List Entry}

theorem Receives.refl (path : Option Path) (level : Level) (d : Desk) : Receives path level d [] d :=
  ⟨rfl, rfl, by simp, by simp⟩

theorem Receives.trans (h : Receives path level d es d') (h' : Receives path level d' es' d'') :
    Receives path level d (es ++ es') d'' where
  here := h'.here.trans h.here
  sinks := h'.sinks.trans h.sinks
  screen := by rw [h'.screen, h.screen, List.filter_append, List.map_append, List.append_assoc]
  files q := by
    rw [h'.files, h.files, Option.map_map]
    simp only [place_congr h.here]
    split <;> simp [Function.comp_def]

/-- A desk that has received entries is still set up. -/
theorem SetFor.receives (h : SetFor path level d) (received : Receives path level d es d') : SetFor path level d' where
  sinks := received.sinks.trans h.sinks
  there p hp := by
    rw [received.files, Option.isSome_map, place_congr received.here]
    exact h.there p hp

theorem give_console (e : Entry) (d : Desk) (level : Level) :
    give e d (.console level) = { d with screen := d.screen ++ if level ≤ e.level then [e.onScreen] else [] } := by
  unfold give
  by_cases low : e.level < level
  · simp [Sink.level, low, not_le.mpr low]
  · simp [Sink.level, low, not_lt.mp low, Entry.onScreen]

theorem give_file (e : Entry) (d : Desk) (p : Path) :
    give e d (.file p) = { d with files := if e.isKept then appendAt (d.place p) e d.files else d.files } := by
  unfold give Entry.isKept Entry.isTraced
  by_cases low : e.level < Level.debug
  · simp [Sink.level, low, not_le.mpr low]
  · cases Text.isEncodable e.message with
    | true => simp [Sink.level, low, not_lt.mp low]
    | false => simp [Sink.level, low]

/-- One entry goes to the run's own sinks. -/
theorem send_receives (h : SetFor path level d) (e : Entry) : Receives path level d [e] (d.send e) := by
  unfold send
  by_cases low : e.level < Level.debug
  · have untraced := not_le.mpr low
    rw [if_pos low]
    exact ⟨rfl, rfl, by simp [Entry.isShown, untraced], by simp [Entry.isKept, Entry.isTraced, untraced]⟩
  · have shown : (if level ≤ e.level then [e.onScreen] else []) =
        ([e].filter (·.isShown level)).map Entry.onScreen := by
      by_cases high : level ≤ e.level <;> simp [Entry.isShown, not_lt.mp low, high]
    rw [if_neg low, h.sinks]
    cases path with
    | none =>
      simp only [Option.map_none, Option.toList_none, List.nil_append, List.foldl_cons, List.foldl_nil, give_console,
        shown]
      exact ⟨rfl, rfl, rfl, by simp⟩
    | some p =>
      simp only [Option.map_some, Option.toList_some, List.singleton_append, List.foldl_cons, List.foldl_nil,
        give_console, give_file, shown]
      refine ⟨rfl, rfl, rfl, fun q => ?_⟩
      obtain ⟨es, there⟩ := Option.isSome_iff_exists.mp (h.there p rfl)
      dsimp only
      cases kept : e.isKept with
      | false => simp [kept]
      | true =>
        rw [if_pos rfl, lookup_appendAt]
        by_cases here : q = d.place p
        · simp [here, there, kept]
        · simp [here, Ne.symm here]

theorem sendAll_receives (h : SetFor path level d) (es : List Entry) : Receives path level d es (d.sendAll es) := by
  induction es generalizing d with
  | nil => exact .refl path level d
  | cons e es ih =>
    have first := send_receives h e
    exact first.trans (ih (h.receives first))

/-! ## One run -/

/-- A run, as far as it concerns the journal. -/
structure Run where
  tree : Tree
  folder : Option Path
  level : Level
  runId : String
  messages : List Entry

namespace Run

/-- The path of the run's file, if the run keeps one. -/
def file? (r : Run) : Option Path := (path? r.tree r.folder).toOption.join

/-- All that is noted in the run. -/
def entries (r : Run) : List Entry := opening r.runId r.file? ++ r.messages

/-- The file of the run is at the place. -/
def keepsAt (here : Path) (place : List String) (r : Run) : Bool := r.file?.any fun p => (here.below p).resolved = place

end Run

/-- The desk as a run sets it up, before anything is noted. -/
def prepared (d : Desk) (path : Option Path) (level : Level) : Desk :=
  { path.elim d d.touch with sinks := (path.map Sink.file).toList ++ [.console level], screen := [] }

theorem here_prepared (d : Desk) (path : Option Path) (level : Level) : (d.prepared path level).here = d.here := by
  cases path with
  | none => rfl
  | some p =>
    show (d.touch p).here = d.here
    unfold touch
    split <;> rfl

theorem lookup_prepared (d : Desk) (path : Option Path) (level : Level) (q : List String) :
    (d.prepared path level).files.lookup q =
      if path.any (d.place · = q) then some ((d.files.lookup q).getD []) else d.files.lookup q := by
  cases path with
  | none => rfl
  | some p =>
    show (d.touch p).files.lookup q = _
    rw [lookup_touch]
    simp [eq_comm]

theorem setFor_prepared (d : Desk) (path : Option Path) (level : Level) : SetFor path level (d.prepared path level) where
  sinks := rfl
  there p hp := by
    rw [lookup_prepared, place_congr (here_prepared d path level), hp]
    simp

/-- The desk after a run, if the run could set it up. -/
def after (d : Desk) (r : Run) : Except SetUpFault Desk :=
  (d.setUp r.tree r.folder r.level r.runId).map (·.sendAll r.messages)

/-- A run that can set up its desk sends all its entries there. -/
theorem after_eq_ok {r : Run} (returns : d.after r = .ok d') :
    path? r.tree r.folder = .ok r.file? ∧ d' = (d.prepared r.file? r.level).sendAll r.entries := by
  unfold after setUp at returns
  unfold Run.entries Run.file?
  cases found : path? r.tree r.folder with
  | error f =>
    rw [found] at returns
    cases returns
  | ok path =>
    rw [found] at returns
    obtain rfl := Except.ok.inj returns
    exact ⟨rfl, List.foldl_append.symm⟩

/-- A run that has a desk keeps a file exactly if its folder is there: the journal's file in that folder. -/
theorem file?_eq_some_iff {r : Run} (returns : d.after r = .ok d') {q : Path} :
    r.file? = some q ↔ ∃ p, r.folder = some p ∧ r.tree.isFolder p = .ok true ∧ q = p.child fileName := by
  obtain ⟨found, -⟩ := after_eq_ok returns
  generalize r.file? = path at found
  unfold path? at found
  cases folder : r.folder with
  | none =>
    rw [folder] at found
    cases found
    simp
  | some p =>
    rw [folder] at found
    cases isThere : r.tree.isFolder p with
    | error f => simp [isThere] at found
    | ok there =>
      cases there with
      | false =>
        simp only [isThere, Except.ok.injEq] at found
        simp [← found, isThere]
      | true =>
        simp only [isThere] at found
        split at found
        · cases found
        · cases found
          simp [isThere, eq_comm]
        · cases found

/-- What a run makes of the desk that it finds. -/
structure Ran (d : Desk) (r : Run) (d' : Desk) : Prop where
  here : d'.here = d.here
  sinks : d'.sinks = (r.file?.map Sink.file).toList ++ [.console r.level]
  screen : d'.screen = (r.entries.filter (·.isShown r.level)).map Entry.onScreen
  files : ∀ q, d'.files.lookup q =
    if r.keepsAt d.here q then some ((d.files.lookup q).getD [] ++ r.entries.filter Entry.isKept) else d.files.lookup q

theorem ran_of_after {r : Run} (returns : d.after r = .ok d') : Ran d r d' := by
  obtain ⟨-, rfl⟩ := after_eq_ok returns
  have received := sendAll_receives (setFor_prepared d r.file? r.level) r.entries
  refine ⟨received.here.trans (here_prepared _ _ _), received.sinks, received.screen, fun q => ?_⟩
  rw [received.files, lookup_prepared]
  simp only [place_congr (here_prepared d r.file? r.level)]
  have keeps : r.file?.any (d.place · = q) = r.keepsAt d.here q := rfl
  rw [keeps]
  split <;> simp

/-- A command whose line is in order, and whose desk can be set up, is such a run: it notes what its session has noted. -/
theorem after_run {T : Type} [Seconds T] [Asset.Library] (w : Command.Surroundings T) {words : List String} {line : Command.Line}
    (reads : Command.Line.read? words = some line) (asks : Level.parse? line.level = some level)
    (sets : d.setUp w.tree (some line.folder) level w.runId = .ok d') :
    d.after ⟨w.tree, some line.folder, level, w.runId, (Command.run w d words).session.entries⟩ =
      .ok (Command.run w d words).desk := by
  unfold after Command.run
  simp only [reads, asks, sets]
  rfl

/-! ## Runs one after another -/

/-- The desk after runs, if each of them could set it up. -/
def afterAll (d : Desk) (rs : List Run) : Except SetUpFault Desk := rs.foldlM after d

/-- What runs add to the file at a place: each run that has its file there, in order, the entries that it takes. -/
def added (takes : Entry → Bool) (here : Path) (q : List String) (rs : List Run) : List Entry :=
  (rs.filter (·.keepsAt here q)).flatMap fun r => r.entries.filter takes

theorem added_cons (takes : Entry → Bool) (here : Path) (q : List String) (r : Run) (rs : List Run) :
    added takes here q (r :: rs) =
      (if r.keepsAt here q then r.entries.filter takes else []) ++ added takes here q rs := by
  cases keeps : r.keepsAt here q <;> simp [added, keeps]

theorem added_of_none {takes : Entry → Bool} {here : Path} {q : List String} {rs : List Run}
    (none : rs.any (·.keepsAt here q) = false) : added takes here q rs = [] := by
  have others : rs.filter (·.keepsAt here q) = [] := by simpa using none
  rw [added, others, List.flatMap_nil]

/-- The file at a place holds what it held before, and what the runs have added; it is not touched if none of them has
its file there. -/
def Extended (takes : Entry → Bool) (d : Desk) (rs : List Run) (d' : Desk) (q : List String) : Prop :=
  d'.files.lookup q =
    if rs.any (·.keepsAt d.here q) then some ((d.files.lookup q).getD [] ++ added takes d.here q rs) else d.files.lookup q

theorem afterAll_cons (d : Desk) (r : Run) (rs : List Run) :
    d.afterAll (r :: rs) = (d.after r).bind fun d' => d'.afterAll rs := List.foldlM_cons

theorem afterAll_concat (d : Desk) (rs : List Run) (r : Run) :
    d.afterAll (rs ++ [r]) = (d.afterAll rs).bind fun d' => d'.after r := by
  rw [afterAll, List.foldlM_append]
  simp only [List.foldlM_cons, List.foldlM_nil, bind_pure]
  rfl

/-- Runs add to the files what each of them notes, to each file what the runs of its folder note. -/
theorem extended_of_afterAll {rs : List Run} (returns : d.afterAll rs = .ok d') :
    d'.here = d.here ∧ ∀ q, Extended Entry.isKept d rs d' q := by
  induction rs generalizing d with
  | nil =>
    cases returns
    exact ⟨rfl, fun q => rfl⟩
  | cons r rs ih =>
    rw [afterAll_cons] at returns
    cases first : d.after r with
    | error f =>
      rw [first] at returns
      cases returns
    | ok d₁ =>
      rw [first] at returns
      have ran := ran_of_after first
      obtain ⟨here, extended⟩ := ih returns
      refine ⟨here.trans ran.here, fun q => ?_⟩
      have rest := extended q
      unfold Extended at rest ⊢
      rw [rest, ran.here, ran.files, List.any_cons]
      cases keeps : r.keepsAt d.here q with
      | false => simp [added_cons, keeps]
      | true =>
        cases others : rs.any (·.keepsAt d.here q) with
        | false => simp [added_cons, keeps, added_of_none others]
        | true => simp [added_cons, keeps]

/-- The last of the runs leaves its own sinks, and its own entries on the screen. -/
theorem ran_last {rs : List Run} {r : Run} (returns : d.afterAll (rs ++ [r]) = .ok d') :
    ∃ before, before.after r = .ok d' ∧ Ran before r d' := by
  rw [afterAll_concat] at returns
  cases earlier : d.afterAll rs with
  | error f =>
    rw [earlier] at returns
    cases returns
  | ok before =>
    rw [earlier] at returns
    exact ⟨before, returns, ran_of_after returns⟩

/-- The full trace is kept exactly if all of it can be written. -/
theorem traced_iff {rs : List Run} (returns : d.afterAll rs = .ok d') :
    (∀ q, Extended Entry.isTraced d rs d' q) ↔
      ∀ r ∈ rs, r.file?.isSome = true → ∀ e ∈ r.entries, Level.debug ≤ e.level → Text.isEncodable e.message = true := by
  obtain ⟨-, kept⟩ := extended_of_afterAll returns
  constructor
  · intro traced r hr hasFile e he high
    obtain ⟨p, file⟩ := Option.isSome_iff_exists.mp hasFile
    have keeps : r.keepsAt d.here (d.place p) = true := by simp [Run.keepsAt, file, Desk.place]
    have any : rs.any (·.keepsAt d.here (d.place p)) = true := List.any_eq_true.mpr ⟨r, hr, keeps⟩
    have same := (traced (d.place p)).symm.trans (kept (d.place p))
    simp only [any, ↓reduceIte, Option.some.injEq, List.append_cancel_left_eq] at same
    have mem : e ∈ added Entry.isTraced d.here (d.place p) rs :=
      List.mem_flatMap.mpr ⟨r, List.mem_filter.mpr ⟨hr, keeps⟩,
        List.mem_filter.mpr ⟨he, by simpa [Entry.isTraced] using high⟩⟩
    rw [same] at mem
    obtain ⟨r', _, kept'⟩ := List.mem_flatMap.mp mem
    have takes := (List.mem_filter.mp kept').2
    rw [Entry.isKept, Bool.and_eq_true] at takes
    exact takes.2
  · intro written q
    have same : added Entry.isTraced d.here q rs = added Entry.isKept d.here q rs := by
      refine List.flatMap_congr fun r hr => List.filter_congr fun e he => ?_
      obtain ⟨mem, keeps⟩ := List.mem_filter.mp hr
      have hasFile : r.file?.isSome = true := by
        cases file : r.file? with
        | none => simp [Run.keepsAt, file] at keeps
        | some p => rfl
      cases traced : e.isTraced with
      | false => simp [Entry.isKept, traced]
      | true => simp [Entry.isKept, traced, written r mem hasFile e he (by simpa [Entry.isTraced] using traced)]
    rw [Extended, same]
    exact kept q

/-- After any runs that could set up their desks, the journal has the sinks of the last one, and its screen; and each file
holds what it held before, and what the runs of its folder have noted from debug on, each entry once and in its place, but
for those that cannot be written. So the files hold the full trace exactly if all of it can be written. -/
theorem runs_account {rs : List Run} {r : Run} (returns : d.afterAll (rs ++ [r]) = .ok d') :
    (d'.sinks = (r.file?.map Sink.file).toList ++ [.console r.level] ∧
      ∀ q, r.file? = some q ↔ ∃ p, r.folder = some p ∧ r.tree.isFolder p = .ok true ∧ q = p.child fileName) ∧
    (∀ q, Extended Entry.isKept d (rs ++ [r]) d' q) ∧
    ((∀ q, Extended Entry.isTraced d (rs ++ [r]) d' q) ↔
      ∀ r' ∈ rs ++ [r], r'.file?.isSome = true → ∀ e ∈ r'.entries, Level.debug ≤ e.level →
        Text.isEncodable e.message = true) ∧
    d'.screen = (r.entries.filter (·.isShown r.level)).map Entry.onScreen ∧
    ∀ e : Entry, Text.isEncodable e.message = true →
      Text.points e.onScreen.message.toList = Text.points e.message.toList := by
  obtain ⟨before, last, ran⟩ := ran_last returns
  obtain ⟨-, kept⟩ := extended_of_afterAll returns
  exact ⟨⟨ran.sinks, fun q => file?_eq_some_iff last⟩, kept, traced_iff returns, ran.screen, fun e => e.points_onScreen⟩

/-! ## Three runs, and one -/

/-- A folder, and nothing else. -/
def lone : Tree := .empty ⟨.root, ["w"]⟩

def chatty : Run := ⟨lone, some ⟨.root, ["w"]⟩, Level.info, "1", [debug "asked", ⟨5, "whispered"⟩, info "told"]⟩

def elsewhere : Run := ⟨lone, some ⟨.root, ["v"]⟩, Level.error, "2", [info "told", error "failed"]⟩

/-- The run in between has no folder, and leaves nothing in the file or on the screen of the others. -/
theorem runs_account_three :
    ∃ d', (Desk.empty ⟨.root, []⟩).afterAll [chatty, elsewhere, chatty] = .ok d' ∧
      d'.sinks = [.file ⟨.root, ["w", ".nodezero.log"]⟩, .console Level.info] ∧ d'.screen = [info "told"] ∧
      d'.files.lookup ["w", ".nodezero.log"] =
        some (opening "1" (some ⟨.root, ["w", ".nodezero.log"]⟩) ++ [debug "asked", info "told"] ++
          opening "1" (some ⟨.root, ["w", ".nodezero.log"]⟩) ++ [debug "asked", info "told"]) := by
  cases returned : (Desk.empty ⟨.root, []⟩).afterAll [chatty, elsewhere, chatty] with
  | error f =>
    have sets : ((Desk.empty ⟨.root, []⟩).afterAll [chatty, elsewhere, chatty]).isOk = true := by decide +kernel
    rw [returned] at sets
    cases sets
  | ok d' =>
    obtain ⟨⟨sinks, -⟩, kept, -, screen, -⟩ := runs_account
      (show (Desk.empty ⟨.root, []⟩).afterAll ([chatty, elsewhere] ++ [chatty]) = .ok d' from returned)
    refine ⟨d', rfl, sinks.trans (by decide +kernel), screen.trans (by decide +kernel), ?_⟩
    exact (kept ["w", ".nodezero.log"]).trans (by decide +kernel)

/-- The run notes half of a surrogate pair. -/
def garbled : Run := ⟨lone, some ⟨.root, ["w"]⟩, Level.info, "1", [info (String.ofList (Text.ofPoints [.half 0]))]⟩

/-- What cannot be written is shown, but the file does not hold it. -/
theorem half_is_lost :
    ∃ d', (Desk.empty ⟨.root, []⟩).afterAll [garbled] = .ok d' ∧ d'.screen = [info "\\ud800"] ∧
      d'.files.lookup ["w", ".nodezero.log"] = some (opening "1" (some ⟨.root, ["w", ".nodezero.log"]⟩)) ∧
      ¬ ∀ q, Extended Entry.isTraced (Desk.empty ⟨.root, []⟩) [garbled] d' q := by
  cases returned : (Desk.empty ⟨.root, []⟩).afterAll [garbled] with
  | error f =>
    have sets : ((Desk.empty ⟨.root, []⟩).afterAll [garbled]).isOk = true := by decide +kernel
    rw [returned] at sets
    cases sets
  | ok d' =>
    obtain ⟨-, kept⟩ := extended_of_afterAll returned
    obtain ⟨before, -, ran⟩ := ran_last (show (Desk.empty ⟨.root, []⟩).afterAll ([] ++ [garbled]) = .ok d' from returned)
    refine ⟨d', rfl, ran.screen.trans (by decide +kernel), ?_, ?_⟩
    · exact (kept ["w", ".nodezero.log"]).trans (by decide +kernel)
    · intro traced
      have written := (traced_iff returned).mp traced garbled List.mem_cons_self (by decide +kernel)
        (info (String.ofList (Text.ofPoints [.half 0]))) (by decide +kernel) (by decide)
      exact absurd written (by decide +kernel)

end Desk
end InstallWatch.Journal
