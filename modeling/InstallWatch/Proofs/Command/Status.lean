import Mathlib
import InstallWatch.Proofs.Service.Identity
import InstallWatch.Proofs.Text.Plain

/-!
What the command shows that asks where the service is, whether it answers, and what it knows. Each listing has a line of
its own, which what became of its own request decides. The command breaks off only at what upsets a query, and at a line
that cannot be written.
-/

namespace InstallWatch.Command
open InstallWatch.Service

/-! ## Lines -/

/-- The line can be written as it is printed. -/
def Writable (line : String) : Prop := Text.isEncodable (Text.withoutControls line) = true

instance (line : String) : Decidable (Writable line) := inferInstanceAs (Decidable (_ = true))

theorem writable_of_plain {line : String} (plain : Text.Plain line) : Writable line := by
  rw [Writable, plain.withoutControls]
  exact plain.isEncodable

/-- Whoever is identified is described by a plain text. -/
theorem plain_describe (i : Identity) : Text.Plain i.describe := by
  cases i with
  | registered u =>
    have all : "0123456789abcdef".toList.all Text.isPlain = true := by decide +kernel
    refine List.all_eq_true.mpr fun c hc => ?_
    obtain rfl | digit := u.canonical_text.mem hc
    · rfl
    · exact List.all_eq_true.mp all c digit
  | unregistered => exact (by decide +kernel : Text.Plain "not registered")
  | ambiguous n =>
    have opening : Text.Plain "ambiguous (" := by decide +kernel
    have count : Text.Plain (toString n) := by
      refine List.all_eq_true.mpr fun c hc => Text.isPlain_of_isDigit ?_
      exact Nat.isDigit_of_mem_toDigits (by decide) (by decide) (Nat.toList_repr ▸ hc)
    exact (opening.append count).append (by decide +kernel : Text.Plain ")")

/-- All lines can be written, or those before the first that cannot. -/
theorem writable_or_refused (lines : List String) :
    (∀ line ∈ lines, Writable line) ∨ ∃ before line after, lines = before ++ line :: after ∧
      (∀ line ∈ before, Writable line) ∧ ¬ Writable line := by
  cases found : lines.find? fun line => !Text.isEncodable (Text.withoutControls line) with
  | none => exact .inl (by simpa [Writable] using found)
  | some line =>
    obtain ⟨refused, before, after, split, writable⟩ := List.find?_eq_some_iff_append.mp found
    exact .inr ⟨before, line, after, split, by simpa [Writable] using writable, by simpa [Writable] using refused⟩

section
variable {T : Type} (s : Session T) (shown : List String) (next : List String → Session T × Outcome)

theorem printing_of_writable {lines : List String} (writable : ∀ line ∈ lines, Writable line) :
    printing shown lines s next = next (shown ++ lines.map Text.withoutControls) := by
  have all : (lines.map Text.withoutControls).takeWhile Text.isEncodable = lines.map Text.withoutControls :=
    List.takeWhile_eq_self_iff.mpr (by simpa [Writable] using writable)
  simp only [printing, all, List.drop_length]

/-- The first line that cannot be written ends the command behind the lines before it. -/
theorem printing_of_refused {before : List String} {line : String} (writable : ∀ line ∈ before, Writable line)
    (refused : ¬ Writable line) (after : List String) :
    printing shown (before ++ line :: after) s next =
      (s, ⟨shown ++ before.map Text.withoutControls, .crashed (.unwritable (Text.withoutControls line))⟩) := by
  have written : ((before ++ line :: after).map Text.withoutControls).takeWhile Text.isEncodable =
      before.map Text.withoutControls := by
    rw [List.map_append, List.takeWhile_append_of_pos (by simpa [Writable] using writable), List.map_cons,
      List.takeWhile_cons_of_neg refused, List.append_nil]
  simp only [printing, written]
  rw [List.map_append, List.map_cons, List.drop_left]

end

/-! ## What a listing is described as -/

variable {T : Type} [Seconds T]

/-- What is said of a listing: whom it identifies, how many it has to choose from, or why it does not tell. -/
inductive Describes (c : Client T) (q : Query) (s : Session T) : String → Prop where
  | registered {item : Json} {u : Uuid} (lists : c.Lists q s [item]) (identifies : Identity.Identifies item u) :
      Describes c q s u.text
  | unregistered (lists : c.Lists q s []) : Describes c q s "not registered"
  | ambiguous {items : List Json} (lists : c.Lists q s items) (several : 2 ≤ items.length) :
      Describes c q s ("ambiguous (" ++ toString items.length ++ ")")
  | unidentified {item : Json} {fault : ItemFault} (lists : c.Lists q s [item])
      (fails : Identity.ofItem item = .error fault) :
      Describes c q s ("unavailable (" ++ BadItem.message ⟨item, fault⟩ ++ ")")
  | unanswered {f : Fault} (fails : (c.list q s).2 = .error f) (calm : c.Calm q s) :
      Describes c q s ("unavailable (" ++ f.message ++ ")")

/-- What the result of a query says by itself. -/
def told : Except Fault (List Json) → String
  | .error f => "unavailable (" ++ f.message ++ ")"
  | .ok items => match Identity.ofListing items with
    | .error b => "unavailable (" ++ b.message ++ ")"
    | .ok i => i.describe

/-- A listing is described by the result of its query alone, and always, unless something upsets it. -/
theorem describes_iff {c : Client T} {q : Query} {s : Session T} {d : String} :
    Describes c q s d ↔ c.Calm q s ∧ d = told (c.list q s).2 := by
  have classified : ∀ {items i}, c.Lists q s items → Identity.Classified items i →
      c.Calm q s ∧ i.describe = told (c.list q s).2 := by
    intro items i lists classified
    have listed := (c.list_eq_ok_iff q).mpr lists
    exact ⟨Client.calm_of_ok listed, by simp [listed, told, Identity.ofListing_eq_ok_iff.mpr classified]⟩
  constructor
  · intro describes
    cases describes with
    | @registered item u lists identifies => exact classified (i := .registered u) lists (.registered identifies)
    | unregistered lists => exact classified lists .unregistered
    | ambiguous lists several => exact classified lists (.ambiguous several)
    | unidentified lists fails =>
      have listed := (c.list_eq_ok_iff q).mpr lists
      exact ⟨Client.calm_of_ok listed, by simp [listed, told, Identity.ofListing, fails]⟩
    | unanswered fails calm => exact ⟨calm, by rw [fails, told]⟩
  · intro told
    obtain ⟨calm, rfl⟩ := told
    cases listed : (c.list q s).2 with
    | error f => exact .unanswered listed calm
    | ok items =>
      have lists := (c.list_eq_ok_iff q).mp listed
      cases found : Identity.ofListing items with
      | error b =>
        obtain ⟨item, rfl, -⟩ := Identity.ofListing_fails_iff.mp ⟨b, found⟩
        cases fails : Identity.ofItem item with
        | ok u => simp [Identity.ofListing, fails] at found
        | error fault =>
          simp only [told, Identity.ofListing, fails]
          exact .unidentified lists fails
      | ok i =>
        simp only [told, found]
        cases Identity.ofListing_eq_ok_iff.mp found with
        | @registered item u identifies =>
          show Describes c q s u.text
          exact .registered lists identifies
        | unregistered => exact .unregistered lists
        | ambiguous several => exact .ambiguous lists several

theorem describes_or_upset (c : Client T) (q : Query) (s : Session T) :
    (∃ d, Describes c q s d) ∨ ∃ f, c.Upset q s f := by
  by_cases upset : ∃ f, c.Upset q s f
  · exact .inr upset
  · exact .inl ⟨_, describes_iff.mpr ⟨upset, rfl⟩⟩

/-- What is said of a listing only depends on what became of its own request, in whatever session that was made. -/
theorem Describes.eq_of_same_outcome {c : Client T} {q : Query} {s t : Session T} {d d' : String}
    (h : Describes c q s d) (h' : Describes c q t d') (heard : c.Hears q s) (heard' : c.Hears q t)
    (same : (s.replyTo (c.request q s)).outcome = (t.replyTo (c.request q t)).outcome) : d = d' := by
  have conveys := heard.conveys
  rw [same] at conveys
  rw [(describes_iff.mp h).2, (describes_iff.mp h').2, conveys.unique heard'.conveys]

/-! ## The line of a listing -/

/-- What keeps a listing from having a line: what upsets its query, or a line that cannot be written. -/
inductive Troubles (c : Client T) (q : Query) (line : String → String) (s : Session T) : Crash → Prop where
  | upset {f : Fault} (upset : c.Upset q s f) : Troubles c q line s (.call f)
  | refused {reason : String} (describes : Describes c q s ("unavailable (" ++ reason ++ ")"))
      (refused : ¬ Writable (line ("unavailable (" ++ reason ++ ")"))) :
      Troubles c q line s (.unwritable (Text.withoutControls (line ("unavailable (" ++ reason ++ ")"))))

theorem Describes.identified_or_unavailable {c : Client T} {q : Query} {s : Session T} {d : String}
    (h : Describes c q s d) : (∃ i : Identity, d = i.describe) ∨ ∃ reason, d = "unavailable (" ++ reason ++ ")" := by
  cases h with
  | @registered item u lists identifies => exact .inl ⟨.registered u, rfl⟩
  | unregistered lists => exact .inl ⟨.unregistered, rfl⟩
  | @ambiguous items lists several => exact .inl ⟨.ambiguous items.length, rfl⟩
  | unidentified lists fails => exact .inr ⟨_, rfl⟩
  | unanswered fails calm => exact .inr ⟨_, rfl⟩

/-- A listing has a line that can be written, or there is trouble with it. -/
theorem lined_or_troubles (c : Client T) (q : Query) {line : String → String}
    (plainly : ∀ d, Text.Plain d → Text.Plain (line d)) (s : Session T) :
    (∃ d, Describes c q s d ∧ Writable (line d)) ∨ ∃ crash, Troubles c q line s crash := by
  obtain ⟨d, describes⟩ | ⟨f, upset⟩ := describes_or_upset c q s
  · by_cases writable : Writable (line d)
    · exact .inl ⟨d, describes, writable⟩
    · obtain ⟨i, rfl⟩ | ⟨reason, rfl⟩ := describes.identified_or_unavailable
      · exact absurd (writable_of_plain (plainly _ (plain_describe i))) writable
      · exact .inr ⟨_, .refused describes writable⟩
  · exact .inr ⟨_, .upset upset⟩

theorem plain_clusterLine {d : String} (plain : Text.Plain d) : Text.Plain (clusterLine d) := by
  have label : Text.Plain "Cluster       : " := by decide +kernel
  exact label.append plain

theorem plain_infraEnvLine {d : String} (plain : Text.Plain d) : Text.Plain (infraEnvLine d) := by
  have label : Text.Plain "InfraEnv      : " := by decide +kernel
  exact label.append plain

/-- A query that nothing upsets is described by its result, with no more than entries in the journal. -/
theorem describe_identity {c : Client T} {q : Query} {s : Session T} (usable : s.Usable) (calm : c.Calm q s)
    (noun : String) (noted : List Journal.Entry) :
    ∃ es, describe (c.identity q noun (s.log noted)).1 (c.identity q noun (s.log noted)).2 =
      ((c.list q s).1.log es, .ok (told (c.list q s).2)) := by
  have unchanged := c.list_log q s noted
  have relogged : ∀ es, ((c.list q s).1.log noted).log es = (c.list q s).1.log (noted ++ es) := by
    simp [Session.log]
  cases listed : (c.list q s).2 with
  | error f =>
    have expected := c.isExpected_of_list q usable listed calm
    rw [Client.identity_of_error noun (by rw [unchanged, listed]), unchanged]
    simp only [describe, expected, ↓reduceIte, told, relogged]
    exact ⟨_, rfl⟩
  | ok items =>
    rw [Client.identity_of_ok noun (by rw [unchanged, listed]), unchanged]
    cases found : Identity.ofListing items with
    | error b =>
      simp only [describe, Fault.isExpected, ↓reduceIte, told, found, Fault.message, relogged]
      exact ⟨_, rfl⟩
    | ok i =>
      simp only [describe, told, found, relogged]
      exact ⟨_, rfl⟩

section
variable {c : Client T} {q : Query} {s : Session T} {line : String → String} (noun : String)
variable (noted : List Journal.Entry) (shown : List String) (next : Session T → List String → Session T × Outcome)

/-- A line that is no trouble is shown, and the command goes on. -/
theorem showing_of_describes {d : String} (usable : s.Usable) (describes : Describes c q s d)
    (writable : Writable (line d)) :
    ∃ es, showing shown line (c.identity q noun (s.log noted)).1 (c.identity q noun (s.log noted)).2 next =
      next ((c.list q s).1.log es) (shown ++ [Text.withoutControls (line d)]) := by
  obtain ⟨calm, rfl⟩ := describes_iff.mp describes
  obtain ⟨es, described⟩ := describe_identity usable calm noun noted
  rw [showing, described]
  exact ⟨es, printing_of_writable _ _ _ (by simpa using writable)⟩

/-- Trouble with a line breaks the command off behind what is shown. -/
theorem showing_of_troubles {crash : Crash} (usable : s.Usable) (troubles : Troubles c q line s crash) :
    (showing shown line (c.identity q noun (s.log noted)).1 (c.identity q noun (s.log noted)).2 next).2 =
      ⟨shown, .crashed crash⟩ := by
  cases troubles with
  | upset upset =>
    obtain ⟨failed, unexpected⟩ := upset.fails
    rw [← congrArg Prod.snd (c.list_log q s noted)] at failed
    rw [Client.identity_of_error noun failed, showing, describe, unexpected]
    rfl
  | refused describes refused =>
    obtain ⟨calm, said⟩ := describes_iff.mp describes
    obtain ⟨es, described⟩ := describe_identity usable calm noun noted
    rw [← said] at described
    rw [showing, described]
    have alone : ∀ line ∈ ([] : List String), Writable line := nofun
    have ends := printing_of_refused ((c.list q s).1.log es) shown (next ((c.list q s).1.log es)) alone refused []
    simpa using congrArg Prod.snd ends

end

/-! ## The command -/

/-- The service lists its infra-envs. -/
def Live (c : Client T) (s : Session T) : Prop := ∃ items, c.Lists .infraEnvs s items

/-- The session in which the clusters are asked for: it has been asked whether the service is live. -/
def atClusters (c : Client T) (s : Session T) : Session T := (c.list .infraEnvs s).1

/-- The session in which the infra-envs are asked for again. -/
def atInfraEnvs (c : Client T) (s : Session T) : Session T := (c.list .clusters (atClusters c s)).1

/-- The command shows all it should: behind the lines that say where the service is, that it is not live, without
another request; or that it is live, and a line about each listing as the service has it when it is asked. -/
inductive Shows (c : Client T) (s after : Session T) : Outcome → Prop where
  | silent {noted : List Journal.Entry} (silent : ¬ Live c s) (quiet : after = (atClusters c s).log noted) :
      Shows c s after ⟨(locationLines c).map Text.withoutControls ++ [liveLine false], .done⟩
  | live {cluster infraEnv : String} {noted : List Journal.Entry} (live : Live c s)
      (clusters : Describes c .clusters (atClusters c s) cluster)
      (infraEnvs : Describes c .infraEnvs (atInfraEnvs c s) infraEnv)
      (ends : after = (c.list .infraEnvs (atInfraEnvs c s)).1.log noted) :
      Shows c s after ⟨(locationLines c).map Text.withoutControls ++
        [liveLine true, Text.withoutControls (clusterLine cluster), Text.withoutControls (infraEnvLine infraEnv)], .done⟩

/-- All lines that say where the service is can be written. -/
def Located (c : Client T) : Prop := ∀ line ∈ locationLines c, Writable line

/-- What makes the command break off: trouble with any of its lines, when those before it are shown. -/
inductive Upsets (c : Client T) (s : Session T) : Crash → Prop where
  | location {before after : List String} {line : String} (lines : locationLines c = before ++ line :: after)
      (writable : ∀ line ∈ before, Writable line) (refused : ¬ Writable line) :
      Upsets c s (.unwritable (Text.withoutControls line))
  | liveness {f : Fault} (located : Located c) (upset : c.Upset .infraEnvs s f) : Upsets c s (.call f)
  | clusters {crash : Crash} (located : Located c) (live : Live c s)
      (troubles : Troubles c .clusters clusterLine (atClusters c s) crash) : Upsets c s crash
  | infraEnvs {cluster : String} {crash : Crash} (located : Located c) (live : Live c s)
      (clusters : Describes c .clusters (atClusters c s) cluster) (writable : Writable (clusterLine cluster))
      (troubles : Troubles c .infraEnvs infraEnvLine (atInfraEnvs c s) crash) : Upsets c s crash

theorem showStatus_of_live {c : Client T} {s : Session T} (located : Located c) (live : Live c s) :
    showStatus c s =
      showing ((locationLines c).map Text.withoutControls ++ [liveLine true]) clusterLine
        (c.identity .clusters "clusters" ((atClusters c s).log [])).1
        (c.identity .clusters "clusters" ((atClusters c s).log [])).2
        fun s shown => showing shown infraEnvLine (c.identity .infraEnvs "infraenvs" s).1
          (c.identity .infraEnvs "infraenvs" s).2 fun s shown => (s, ⟨shown, .done⟩) := by
  obtain ⟨items, lists⟩ := live
  have listed := (c.list_eq_ok_iff .infraEnvs).mpr lists
  have unlogged : (atClusters c s).log [] = atClusters c s := by simp [Session.log]
  rw [showStatus, printing_of_writable _ _ _ located, Client.isLive, unlogged, atClusters]
  generalize c.list .infraEnvs s = answer at listed ⊢
  obtain ⟨s', result⟩ := answer
  cases listed
  rfl

/-- A service that lists nothing is shown as not live, if nothing upsets the query. -/
theorem showStatus_of_silent {c : Client T} {s : Session T} (usable : s.Usable) (located : Located c)
    (silent : ¬ Live c s) (calm : c.Calm .infraEnvs s) :
    ∃ noted, showStatus c s =
      ((atClusters c s).log noted, ⟨(locationLines c).map Text.withoutControls ++ [liveLine false], .done⟩) := by
  cases listed : (c.list .infraEnvs s).2 with
  | ok items => exact absurd ⟨items, (c.list_eq_ok_iff _).mp listed⟩ silent
  | error f =>
    have expected := c.isExpected_of_list _ usable listed calm
    refine ⟨[Journal.debug ("rest API at " ++ c.location.url ++ " not live: " ++ f.message)], ?_⟩
    rw [showStatus, printing_of_writable _ _ _ located, Client.isLive, atClusters]
    generalize c.list .infraEnvs s = answer at listed ⊢
    obtain ⟨s', result⟩ := answer
    cases listed
    simp [expected]

theorem showStatus_of_upset {c : Client T} {s : Session T} {f : Fault} (located : Located c)
    (upset : c.Upset .infraEnvs s f) : (showStatus c s).2.verdict = .crashed (.call f) := by
  obtain ⟨failed, unexpected⟩ := upset.fails
  rw [showStatus, printing_of_writable _ _ _ located, Client.isLive]
  generalize c.list .infraEnvs s = answer at failed ⊢
  obtain ⟨s', result⟩ := answer
  cases failed
  simp only [unexpected]
  rfl

/-- Whatever upsets the command breaks it off. -/
theorem Upsets.breaks {c : Client T} {s : Session T} {crash : Crash} (usable : s.Usable) (h : Upsets c s crash) :
    (showStatus c s).2.verdict = .crashed crash := by
  have usable' : (atClusters c s).Usable := c.usable_list .infraEnvs usable
  cases h with
  | location lines writable refused => rw [showStatus, lines, printing_of_refused _ _ _ writable refused]
  | liveness located upset => exact showStatus_of_upset located upset
  | clusters located live troubles => rw [showStatus_of_live located live, showing_of_troubles _ _ _ _ usable' troubles]
  | infraEnvs located live clusters writable troubles =>
    have usable'' : (atInfraEnvs c s).Usable := c.usable_list .clusters usable'
    rw [showStatus_of_live located live]
    obtain ⟨es, goesOn⟩ := showing_of_describes "clusters" [] _ _ usable' clusters writable
    rw [goesOn, ← atInfraEnvs, showing_of_troubles _ _ _ _ usable'' troubles]

/-- With nothing to upset it, the command shows all it should. -/
theorem showStatus_shows {c : Client T} {s : Session T} (usable : s.Usable) (calm : ¬ ∃ crash, Upsets c s crash) :
    Shows c s (showStatus c s).1 (showStatus c s).2 := by
  have usable' : (atClusters c s).Usable := c.usable_list .infraEnvs usable
  have usable'' : (atInfraEnvs c s).Usable := c.usable_list .clusters usable'
  have located : Located c := by
    obtain located | ⟨before, line, after, lines, writable, refused⟩ := writable_or_refused (locationLines c)
    · exact located
    · exact absurd ⟨_, .location lines writable refused⟩ calm
  by_cases live : Live c s
  · obtain ⟨cluster, clusters, writable⟩ | ⟨crash, troubles⟩ :=
      lined_or_troubles c .clusters (fun _ => plain_clusterLine) (atClusters c s)
    · obtain ⟨infraEnv, infraEnvs, writable'⟩ | ⟨crash, troubles⟩ :=
        lined_or_troubles c .infraEnvs (fun _ => plain_infraEnvLine) (atInfraEnvs c s)
      · rw [showStatus_of_live located live]
        obtain ⟨es, goesOn⟩ := showing_of_describes "clusters" [] _ _ usable' clusters writable
        rw [goesOn, ← atInfraEnvs]
        obtain ⟨es', ends⟩ := showing_of_describes "infraenvs" es _ _ usable'' infraEnvs writable'
        rw [ends, List.append_assoc, List.append_assoc]
        exact .live live clusters infraEnvs rfl
      · exact absurd ⟨crash, .infraEnvs located live clusters writable troubles⟩ calm
    · exact absurd ⟨crash, .clusters located live troubles⟩ calm
  · by_cases upset : ∃ f, c.Upset .infraEnvs s f
    · obtain ⟨f, upset⟩ := upset
      exact absurd ⟨_, .liveness located upset⟩ calm
    · obtain ⟨noted, shown⟩ := showStatus_of_silent usable located live upset
      rw [shown]
      exact .silent live rfl

/-- With every client, and whatever the service does, the command shows all it should and succeeds exactly if nothing
upsets it, and breaks off if something does. What it says of a listing only depends on what became of the request for
it, whatever became of the others. -/
theorem status_keeps_iff [Asset.Library] (x : Surroundings T) (folder : Files.Path) (settings : Settings) {s s' : Session T}
    {c : Client T} (opened : s.isOpen = true)
    (connects : Client.connect x.tree x.environment folder settings s = (s', .ok c)) :
    (Shows c s' (execute x folder settings .status s).1 (execute x folder settings .status s).2 ↔
      ¬ ∃ crash, Upsets c s' crash) ∧
    (∀ crash, Upsets c s' crash → (execute x folder settings .status s).2.verdict = .crashed crash) ∧
    ((execute x folder settings .status s).2.verdict.exitCode = 0 ↔ ¬ ∃ crash, Upsets c s' crash) ∧
    ∀ q t t' d d', Describes c q t d → Describes c q t' d' → c.Hears q t → c.Hears q t' →
      (t.replyTo (c.request q t)).outcome = (t'.replyTo (c.request q t')).outcome → d = d' := by
  have executed : execute x folder settings .status s = showStatus c s' := by
    simp only [execute, connects]
  have usable : s'.Usable := by
    obtain ⟨es, rfl⟩ := connect_eq_ok connects
    exact Client.usable_attach opened
  have succeeds : ∀ {after outcome}, Shows c s' after outcome → outcome.verdict = .done := by
    intro after outcome shows'
    cases shows' <;> rfl
  rw [executed]
  refine ⟨⟨?_, showStatus_shows usable⟩, fun crash => Upsets.breaks usable, ⟨?_, ?_⟩, ?_⟩
  · intro shows' upset
    obtain ⟨crash, upsets⟩ := upset
    cases (upsets.breaks usable).symm.trans (succeeds shows')
  · intro success upset
    obtain ⟨crash, upsets⟩ := upset
    rw [upsets.breaks usable] at success
    cases success
  · intro calm
    rw [succeeds (showStatus_shows usable calm)]
    rfl
  · intro q t t' d d' describes describes' heard heard' same
    exact describes.eq_of_same_outcome describes' heard heard' same

/-! ## Two services -/

section
attribute [local instance] Asset.Library.plain

/-- The service has an infra-env, and no answer about clusters. -/
def halfway : Session ℚ := .start 0 .unbounded
  ⟨[("infra-envs", [.value (.list [.object [("id", .text "00000000-0000-0000-0000-000000000005")]])]),
    ("clusters", [.failed ⟨.connection, "Connection refused"⟩])]⟩

/-- The outage is shown in the line of the clusters and keeps the infra-env from nothing. -/
theorem status_keeps_halfway :
    (execute (pinned []) ⟨.here, []⟩ .standard .status halfway).2.lines =
      ["Rendezvous IP : 10.0.0.5", "REST API      : http://10.0.0.5:8090/api/assisted-install/v2",
        "Live          : yes", "Cluster       : unavailable (Connection refused)",
        "InfraEnv      : 00000000-0000-0000-0000-000000000005"] ∧
    ∃ s', Client.connect (pinned []).tree (pinned []).environment ⟨.here, []⟩ .standard halfway = (s', .ok nearby) ∧
      Shows nearby s' (execute (pinned []) ⟨.here, []⟩ .standard .status halfway).1
        (execute (pinned []) ⟨.here, []⟩ .standard .status halfway).2 := by
  have printed : (execute (pinned []) ⟨.here, []⟩ .standard .status halfway).2.lines =
        ["Rendezvous IP : 10.0.0.5", "REST API      : http://10.0.0.5:8090/api/assisted-install/v2",
          "Live          : yes", "Cluster       : unavailable (Connection refused)",
          "InfraEnv      : 00000000-0000-0000-0000-000000000005"] ∧
      (execute (pinned []) ⟨.here, []⟩ .standard .status halfway).2.verdict.exitCode = 0 := by
    decide +kernel
  obtain ⟨s', connects⟩ := connect_pinned [] halfway
  obtain ⟨keeps, -, succeeds, -⟩ := status_keeps_iff (pinned []) ⟨.here, []⟩ .standard rfl connects
  exact ⟨printed.1, s', connects, keeps.mpr (succeeds.mp printed.2)⟩

/-- A body nested too deep reads as neither live nor not live: the command breaks off behind the lines that say where the
service is. -/
theorem status_breaks_when_overwhelmed :
    (execute (pinned overwhelming) ⟨.here, []⟩ .standard .status (fresh overwhelming)).2.verdict.exitCode = 1 ∧
    ∀ c s, ¬ Shows c s (execute (pinned overwhelming) ⟨.here, []⟩ .standard .status (fresh overwhelming)).1
      (execute (pinned overwhelming) ⟨.here, []⟩ .standard .status (fresh overwhelming)).2 := by
  have located : ∀ line ∈ locationLines nearby, Writable line := by decide +kernel
  obtain ⟨s', connects⟩ := connect_pinned overwhelming (fresh overwhelming)
  have executed : execute (pinned overwhelming) ⟨.here, []⟩ .standard .status (fresh overwhelming) =
      showStatus nearby s' := by
    simp only [execute, connects]
  obtain ⟨es, rfl⟩ := connect_eq_ok connects
  have deep : nearby.TooDeep .infraEnvs (Client.attach ((fresh overwhelming).log es)) := by
    have reply : (Client.attach ((fresh overwhelming).log es)).replyTo
        (nearby.request .infraEnvs (Client.attach ((fresh overwhelming).log es))) = .atOnce (.ok (brackets 2000)) := by
      rw [Client.replyTo_request]
      exact congrArg Prod.fst (answer_nearby (fresh overwhelming).server)
    have course : (Client.attach ((fresh overwhelming).log es)).courseOf
        (nearby.request .infraEnvs (Client.attach ((fresh overwhelming).log es))) = ⟨.ended, true, 0, false⟩ := by
      rw [Session.courseOf, reply]
      exact Reply.course_atOnce _
    have accepts : ¬ Refuses 200 := by simp [Refuses]
    have delivers : nearby.Delivers .infraEnvs (Client.attach ((fresh overwhelming).log es)) (brackets 2000) := by
      refine nearby.delivers_of_reply .infraEnvs rfl rfl ?_ ?_ ?_ ?_ accepts
      · rw [reply]
        rfl
      · rw [course]
      · rw [course]
      · rw [course]
        rfl
    exact ⟨_, delivers, Json.ofBytes_brackets (by decide : 4 ≤ 2000) (by decide)⟩
  have crashed := showStatus_of_upset located (.tooDeep deep)
  rw [executed]
  refine ⟨by rw [crashed]; rfl, fun c s shows' => ?_⟩
  generalize showStatus nearby (Client.attach ((fresh overwhelming).log es)) = ended at crashed shows'
  obtain ⟨after, outcome⟩ := ended
  cases shows' <;> cases crashed

end

end InstallWatch.Command
