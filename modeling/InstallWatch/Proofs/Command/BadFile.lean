import Mathlib
import InstallWatch.Command.Run
import InstallWatch.Proofs.Asset.Loading
import InstallWatch.Proofs.Service.Connection

/-!
What a bad file comes to. The load of an asset takes it for a fault of that asset, and so do the load of all assets and
the commands, but for the texts that escape: these break off the command.
-/

namespace InstallWatch.Command
open InstallWatch.Service InstallWatch.Asset

/-- The command breaks off because of the file of an asset. -/
def Verdict.blamesAsset : Verdict → Bool
  | .crashed (.asset _) => true
  | _ => false

variable {T : Type}

/-! ## Connected commands -/

theorem printing_blamesAsset {shown lines : List String} {s : Session T}
    {next : List String → Session T × Outcome} (h : ∀ shown, (next shown).2.verdict.blamesAsset = false) :
    (printing shown lines s next).2.verdict.blamesAsset = false := by
  unfold printing
  dsimp only
  split
  · exact h _
  · rfl

theorem showing_blamesAsset {shown : List String} {line : String → String} {s : Session T}
    {r : Except Fault Identity} {next : Session T → List String → Session T × Outcome}
    (h : ∀ s shown, (next s shown).2.verdict.blamesAsset = false) :
    (showing shown line s r next).2.verdict.blamesAsset = false := by
  unfold showing
  split
  · rfl
  · exact printing_blamesAsset (h _)

theorem eventsFailed_blamesAsset (c : Client T) (s : Session T) (f : Fault) :
    (eventsFailed c s f).2.verdict.blamesAsset = false := by
  unfold eventsFailed
  split <;> rfl

theorem unconnected_blamesAsset_iff [Library] {s : Session T} {fault : ConnectionFault} :
    (unconnected s fault).2.verdict.blamesAsset = true ↔ ∃ f, fault = .assets (.unexpected f) := by
  constructor
  · intro h
    unfold unconnected at h
    split at h
    · exact ⟨_, rfl⟩
    · cases h
    · cases h
  · intro h
    obtain ⟨f, rfl⟩ := h
    rfl

variable [Seconds T]

theorem showStatus_blamesAsset (c : Client T) (s : Session T) :
    (showStatus c s).2.verdict.blamesAsset = false := by
  refine printing_blamesAsset fun shown => ?_
  split
  · rfl
  · rfl
  · exact showing_blamesAsset fun s shown => showing_blamesAsset fun s shown => rfl

theorem printEvents_blamesAsset (c : Client T) (infraEnv : String) (s : Session T) :
    (printEvents c infraEnv s).2.verdict.blamesAsset = false := by
  unfold printEvents
  split
  · exact eventsFailed_blamesAsset c _ _
  · split <;> rfl

theorem showEvents_blamesAsset (infraEnv : Option String) (c : Client T) (s : Session T) :
    (showEvents infraEnv c s).2.verdict.blamesAsset = false := by
  unfold showEvents
  split
  · exact printEvents_blamesAsset c _ s
  · split
    · exact eventsFailed_blamesAsset c _ _
    · split
      · exact printEvents_blamesAsset c _ _
      · rfl

theorem awaitApi_blamesAsset (timeout interval : Nat) (c : Client T) (s : Session T) :
    (awaitApi timeout interval c s).2.verdict.blamesAsset = false := by
  unfold awaitApi
  dsimp only
  split <;> rfl

/-! ## Runs -/

/-- The command asks for a connection. A wait whose deadline is no number comes to nothing before. -/
def Connects (T : Type) [Seconds T] : Command → Prop
  | .status | .events _ => True
  | .waitForApi timeout => ∃ seconds : T, Seconds.ofNat? timeout = some seconds
  | .version => False

/-- A folder is there, and an asset in it escapes. -/
def FolderEscapes [Yaml.Room] (t : Files.Tree) (env : Environment) (folder : Files.Path) : Prop :=
  t.isFolder folder = .ok true ∧ ∃ a, Escapes t env (.empty folder) a

theorem ofBundle_expected (b : Bundle) (f : LoadFault) :
    (Destination.ofBundle b).2 ≠ .error (.assets (.unexpected f)) := by
  unfold Destination.ofBundle
  split <;> simp

section
variable [Library]

theorem ofFolder_unexpected_iff {t : Files.Tree} {env : Environment} {folder : Files.Path} :
    (∃ f, (Destination.ofFolder t env folder).2 = .error (.assets (.unexpected f))) ↔ FolderEscapes t env folder := by
  unfold Destination.ofFolder FolderEscapes
  cases hf : t.isFolder folder with
  | error f => simp [Store.openAt, hf, Except.map]
  | ok there =>
    cases there with
    | false => simp [Store.openAt, hf, Except.map]
    | true =>
      have opened : Store.openAt t folder = .ok (some (.empty folder)) := by simp [Store.openAt, hf, Except.map]
      rw [opened]
      dsimp only
      have cases := Bundle.load_cases t env (.empty folder)
      generalize Bundle.load t env (.empty folder) = loaded at cases
      obtain ⟨s, entries, r⟩ := loaded
      rcases cases with ⟨a, f, escapes, unexpected⟩ | ⟨calm, _, expected⟩
      · cases unexpected
        constructor
        · exact fun _ => ⟨rfl, a, escapes⟩
        · exact fun _ => ⟨f, rfl⟩
      · constructor
        · intro h
          obtain ⟨f, h⟩ := h
          cases r with
          | error g =>
            cases h
            exact absurd rfl (expected f)
          | ok b => exact absurd h (ofBundle_expected b f)
        · intro h
          obtain ⟨_, a, escapes⟩ := h
          exact absurd escapes (calm a)

theorem connect_unexpected_iff {t : Files.Tree} {env : Environment} {folder : Files.Path} {settings : Settings}
    {s : Session T} :
    (∃ f, (Client.connect t env folder settings s).2 = .error (.assets (.unexpected f))) ↔
      FolderEscapes t env folder := by
  rw [← ofFolder_unexpected_iff, Client.connect_eq]
  obtain ⟨entries, d⟩ := Destination.ofFolder t env folder
  cases d <;> simp

/-- Where a connection is asked for, only the files of the folder are blamed. -/
theorem blamesAsset_of_connect {w : Surroundings T} {folder : Files.Path} (settings : Settings) (s : Session T)
    {use : Client T → Session T → Session T × Outcome} {r : Session T × Outcome}
    (calm : ∀ c s, (use c s).2.verdict.blamesAsset = false)
    (failed : ∀ s' f, Client.connect w.tree w.environment folder settings s = (s', .error f) → r = unconnected s' f)
    (connected : ∀ s' c, Client.connect w.tree w.environment folder settings s = (s', .ok c) → r = use c s') :
    r.2.verdict.blamesAsset = true ↔ FolderEscapes w.tree w.environment folder := by
  rw [← @connect_unexpected_iff _ _ _ _ _ _ settings s]
  generalize Client.connect w.tree w.environment folder settings s = found at failed connected
  obtain ⟨s', found⟩ := found
  cases found with
  | error f =>
    rw [failed s' f rfl, unconnected_blamesAsset_iff]
    simp
  | ok c =>
    rw [connected s' c rfl, calm]
    simp

theorem execute_blamesAsset_iff (w : Surroundings T) (folder : Files.Path) (settings : Settings) (command : Command)
    (s : Session T) :
    (execute w folder settings command s).2.verdict.blamesAsset = true ↔
      Connects T command ∧ FolderEscapes w.tree w.environment folder := by
  cases command with
  | status =>
    simp only [Connects, true_and]
    refine blamesAsset_of_connect settings s showStatus_blamesAsset (fun s' f h => ?_) (fun s' c h => ?_)
    · simp only [execute, h]
    · simp only [execute, h]
  | events infraEnv =>
    simp only [Connects, true_and]
    refine blamesAsset_of_connect settings s (showEvents_blamesAsset infraEnv) (fun s' f h => ?_) (fun s' c h => ?_)
    · simp only [execute, h]
    · simp only [execute, h]
  | waitForApi timeout =>
    cases hn : (Seconds.ofNat? timeout : Option T) with
    | none => simp [execute, Connects, hn, Outcome.crashed, Verdict.blamesAsset]
    | some seconds =>
      rw [and_iff_right (show Connects T (.waitForApi timeout) from ⟨seconds, hn⟩)]
      refine blamesAsset_of_connect settings { s with lifetime := .lasting s.now seconds }
        (awaitApi_blamesAsset timeout settings.pollInterval) (fun s' f h => ?_) (fun s' c h => ?_)
      · simp only [execute, hn, h]
      · simp only [execute, hn, h]
  | version => simp [execute, Connects, Verdict.blamesAsset]

/-- What is promised of the files of assets is kept exactly for those that do not escape. Every load of such a file ends
as promised, and any other one in a fault that nobody expects, for which there is a reason in the text: a node that its
tag does not fit or, also where no tags are written, too much of something. All assets are tried unless one escapes, and
no command breaks off because of a file unless one of its folder does. -/
theorem files_keep_iff (w : Surroundings T) (s : Store) (a : Asset) :
    (Keeps w.tree w.environment s a (s.load w.tree w.environment a).outcome ↔ ¬ Escapes w.tree w.environment s a) ∧
    ((∃ f, (s.load w.tree w.environment a).outcome = .error f ∧ f.reason.isExpected = false) ↔
      Escapes w.tree w.environment s a) ∧
    (∀ text, Strays text a → Yaml.Astray (documentsIn text a).1 (documentsIn text a).2) ∧
    (∀ text, Yaml.Untagged text → Strays text a → Yaml.Excessive (documentsIn text a).1 (documentsIn text a).2) ∧
    ((∃ f, (Bundle.load w.tree w.environment s).2.2 = .error (.unexpected f)) ↔
      ∃ a, Escapes w.tree w.environment s a) ∧
    ((∀ a, ¬ Escapes w.tree w.environment s a) →
      (Bundle.load w.tree w.environment s).1 = Bundle.storeAfter w.tree w.environment s) ∧
    ∀ folder settings command (session : Session T),
      (execute w folder settings command session).2.verdict.blamesAsset = true ↔
        Connects T command ∧ FolderEscapes w.tree w.environment folder := by
  refine ⟨load_keeps_iff, load_escapes_iff, fun _ => Strays.astray, fun _ untagged strays => strays.excessive untagged,
    ?_, ?_, ?_⟩
  · rcases Bundle.load_cases w.tree w.environment s with ⟨a, f, escapes, unexpected⟩ | ⟨calm, _, expected⟩
    · exact ⟨fun _ => ⟨a, escapes⟩, fun _ => ⟨f, unexpected⟩⟩
    · constructor
      · intro h
        obtain ⟨f, h⟩ := h
        exact absurd h (expected f)
      · intro h
        obtain ⟨a, escapes⟩ := h
        exact absurd escapes (calm a)
  · intro calm
    rcases Bundle.load_cases w.tree w.environment s with ⟨a, _, escapes, _⟩ | ⟨_, all, _⟩
    · exact absurd escapes (calm a)
    · exact all
  · intro folder settings command session
    exact execute_blamesAsset_iff w folder settings command session

end

attribute [local instance] Library.plain

/-- A load ends in a fault that nobody expects. -/
def isUnexpected {α : Type} : Except LoadFault α → Bool
  | .error f => !f.reason.isExpected
  | .ok _ => false

/-- A file that says of a word that it is a flag, although it is none. -/
def mistagged : Files.Tree :=
  ⟨⟨.root, []⟩, [(["agent-config.yaml"], .file "x: !!bool x\n".toUTF8.data.toList)]⟩

/-- The promise is broken: the load of this file ends in a fault that nobody expects. -/
theorem mistagged_breaks :
    ¬ Keeps mistagged .empty (.empty ⟨.here, []⟩) .agentConfig
      ((Store.empty ⟨.here, []⟩).load mistagged .empty .agentConfig).outcome := by
  have stray : isUnexpected ((Store.empty ⟨.here, []⟩).load mistagged .empty .agentConfig).outcome = true := by
    decide +kernel
  intro h
  generalize ((Store.empty ⟨.here, []⟩).load mistagged .empty .agentConfig).outcome = outcome at h stray
  cases h with
  | bad _ _ _ _ _ expected => simp [isUnexpected, expected] at stray
  | _ => cases stray

end InstallWatch.Command
