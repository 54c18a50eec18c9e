import Mathlib
import InstallWatch.Proofs.Schema.Restoring
import InstallWatch.Service.Overrides

/-!
What each of the two variables has a say in. A variable is given a meaning on its own here, as the field that it overrides
reads it, and the settings are compared with both meanings: they follow them as long as no override is invalid. An invalid
override brings the standard settings, and with them the loss of a valid one, if there is one.
-/

namespace InstallWatch.Service.Settings
open InstallWatch.Schema

/-- What a variable says on its own of the field that it overrides. -/
inductive Override (α : Type) where
  | unset
  | valid (a : α)
  | invalid (faults : List Fault)
deriving DecidableEq

namespace Override

variable {α : Type}

/-- A text that is given is valid if the field accepts it. -/
def ofGiven (check : Data → Checked α) : Option String → Override α
  | none => unset
  | some value => match check (.text value) with
    | .accepted a => valid a
    | .refused faults => invalid faults

/-- The field's value, which is the standard one unless a valid override says something else. -/
def value (standard : α) : Override α → α
  | valid a => a
  | unset | invalid _ => standard

def IsInvalid (o : Override α) : Prop := ∃ faults, o = invalid faults

/-- A valid override that does not just say what is standard. -/
def Changes (standard : α) (o : Override α) : Prop := ∃ a, o = valid a ∧ a ≠ standard

/-- The field, as the record of all overrides reads it. -/
def checked (name : String) (standard : α) : Override α → Checked α
  | unset => .accepted standard
  | valid a => .accepted a
  | invalid faults => .refused (faults.map (Fault.under name))

theorem field_eq_checked {es : Entries} {name : String} {given : Option String}
    (h : Data.entry? name es = given.map .text) (standard : α) (check : Data → Checked α) :
    field es [name] standard check = (ofGiven check given).checked name standard := by
  cases given with
  | none => simp [field, given?, h, ofGiven, checked]
  | some value =>
    simp only [field, given?, List.findSome?_cons, h, Option.map_some, ofGiven]
    cases check (.text value) <;> rfl

theorem checked_of_not_invalid {o : Override α} (h : ¬ o.IsInvalid) (name : String) (standard : α) :
    o.checked name standard = .accepted (o.value standard) := by
  cases o with
  | unset => rfl
  | valid a => rfl
  | invalid faults => exact absurd ⟨faults, rfl⟩ h

theorem value_of_invalid {o : Override α} (h : o.IsInvalid) (standard : α) : o.value standard = standard := by
  obtain ⟨faults, rfl⟩ := h
  rfl

/-- Where an override does not change anything, its value is the standard one. -/
theorem value_eq_standard_iff {o : Override α} {standard : α} : o.value standard = standard ↔ ¬ o.Changes standard := by
  cases o with
  | unset => simp [value, Changes]
  | valid a => simp [value, Changes]
  | invalid faults => simp [value, Changes]

end Override

/-! ## The two variables -/

def timeoutOverride (env : Environment) : Override Float := .ofGiven (above 0) (env.given? "NODEZERO_REST_TIMEOUT")

def intervalOverride (env : Environment) : Override Int := .ofGiven (atLeast 1) (env.given? "NODEZERO_POLL_INTERVAL")

/-- Some override is set and invalid. -/
def SomeInvalid (env : Environment) : Prop := (timeoutOverride env).IsInvalid ∨ (intervalOverride env).IsInvalid

/-- An invalid override takes a valid one with it, which would change something. -/
def Discards (env : Environment) : Prop :=
  (timeoutOverride env).Changes standard.timeout ∧ (intervalOverride env).IsInvalid ∨
    (timeoutOverride env).IsInvalid ∧ (intervalOverride env).Changes (standard.pollInterval : Int)

/-- What is promised of the settings from an environment and of what the journal says of them. -/
structure Honours (env : Environment) (s : Settings) (es : List Journal.Entry) : Prop where
  timeout : s.timeout = (timeoutOverride env).value standard.timeout
  interval : (s.pollInterval : Int) = (intervalOverride env).value (standard.pollInterval : Int)
  timeout_pos : 0.0 < s.timeout
  interval_pos : 1 ≤ s.pollInterval
  warns_iff : (∃ e ∈ es, e.level = .warning) ↔ SomeInvalid env

/-- The settings in which no variable has a say but for the two times. -/
def Timed (s : Settings) (timeout : Float) (interval : Int) : Prop :=
  s.port = standard.port ∧ s.basePath = standard.basePath ∧ s.timeout = timeout ∧ (s.pollInterval : Int) = interval

theorem above_zero_pos {d : Data} {x : Float} (h : above 0 d = .accepted x) : 0.0 < x := by
  have zero : Float.ofNat 0 = 0.0 := by decide +kernel
  exact zero ▸ (above_eq_accepted_iff.mp h).2

theorem timeout_value_pos (env : Environment) : 0.0 < (timeoutOverride env).value standard.timeout := by
  unfold timeoutOverride Override.ofGiven
  split
  · exact standard.timeout_pos
  · split
    · exact above_zero_pos ‹_›
    · exact standard.timeout_pos

theorem interval_value_pos (env : Environment) : 1 ≤ (intervalOverride env).value (standard.pollInterval : Int) := by
  have positive : (1 : Int) ≤ standard.pollInterval := by decide
  unfold intervalOverride Override.ofGiven
  split
  · exact positive
  · split
    · exact (atLeast_eq_accepted_iff.mp ‹_›).2
    · exact positive

/-- Times that are positive make settings. -/
theorem make_timed {timeout : Float} {interval : Int} (ht : 0.0 < timeout) (hi : 1 ≤ interval) :
    ∃ s, make standard.port standard.basePath timeout interval = .accepted s ∧ Timed s timeout interval := by
  have pos : 0 < interval.toNat := by omega
  refine ⟨⟨standard.port, standard.basePath, timeout, interval.toNat, ht, pos⟩, ?_, rfl, rfl, rfl, ?_⟩
  · rw [make, dif_pos ht, dif_pos pos]
  · show (interval.toNat : Int) = interval
    omega

/-- Nothing but the two fields is given, and each of them as its variable says. -/
theorem entries_given (env : Environment) :
    ∃ es, given env = .map es ∧ Data.entry? "port" es = none ∧ Data.entry? "base_path" es = none ∧
      Data.entry? "timeout_seconds" es = (env.given? "NODEZERO_REST_TIMEOUT").map .text ∧
      Data.entry? "poll_interval_seconds" es = (env.given? "NODEZERO_POLL_INTERVAL").map .text := by
  refine ⟨_, rfl, ?_⟩
  cases ht : env.given? "NODEZERO_REST_TIMEOUT" <;> cases hi : env.given? "NODEZERO_POLL_INTERVAL" <;>
    simp [overrides, ht, hi, Data.entry?]

/-- The record of all overrides is read field by field. -/
theorem check_given (env : Environment) :
    check (given env) =
      (((Checked.accepted fun t i => (standard.port, standard.basePath, t, i)).ap
        ((timeoutOverride env).checked "timeout_seconds" standard.timeout)).ap
        ((intervalOverride env).checked "poll_interval_seconds" (standard.pollInterval : Int))).andThen
          fun (p, b, t, i) => make p b t i := by
  obtain ⟨es, entries, port, basePath, timeout, interval⟩ := entries_given env
  have fields := Override.field_eq_checked timeout standard.timeout (above 0)
  have fields' := Override.field_eq_checked interval (standard.pollInterval : Int) (atLeast 1)
  have absent : ∀ {α : Type} (name : String) (a : α) (c : Data → Checked α), Data.entry? name es = none →
      field es [name] a c = .accepted a := by
    intro α name a c h
    simp [field, given?, h]
  unfold check
  rw [entries]
  simp only [record, fields, fields', absent _ _ _ port, absent _ _ _ basePath]
  rfl

section
variable [Wording]

theorem ofEnvironment_of_valid {env : Environment} (h : ¬ SomeInvalid env) :
    (ofEnvironment env).2 = [] ∧
      Timed (ofEnvironment env).1 ((timeoutOverride env).value standard.timeout)
        ((intervalOverride env).value (standard.pollInterval : Int)) := by
  obtain ⟨s, made, timed⟩ := make_timed (timeout_value_pos env) (interval_value_pos env)
  have read : check (given env) = .accepted s := by
    rw [check_given, Override.checked_of_not_invalid (fun hi => h (.inl hi)),
      Override.checked_of_not_invalid (fun hi => h (.inr hi))]
    exact made
  unfold ofEnvironment
  rw [read]
  exact ⟨rfl, timed⟩

theorem ofEnvironment_of_invalid {env : Environment} (h : SomeInvalid env) :
    ∃ faults, ofEnvironment env =
      (standard, [Journal.warning ("ignoring invalid REST client overrides: " ++
        Wording.refusal title (given env) faults)]) := by
  have read : ∃ faults, check (given env) = .refused faults := by
    rw [check_given]
    rcases h with ⟨faults, h⟩ | ⟨faults, h⟩
    · rw [h]
      cases intervalOverride env <;> exact ⟨_, rfl⟩
    · rw [h]
      cases timeoutOverride env <;> exact ⟨_, rfl⟩
  obtain ⟨faults, read⟩ := read
  refine ⟨faults, ?_⟩
  unfold ofEnvironment
  rw [read]

end

/-! ## What is lost -/

theorem Override.not_changes_of_invalid {α : Type} {o : Override α} (h : o.IsInvalid) (standard : α) :
    ¬ o.Changes standard := value_eq_standard_iff.mp (value_of_invalid h standard)

/-- Where some override is invalid, a valid one that would change something is the other one. -/
theorem discards_iff_of_invalid {env : Environment} (h : SomeInvalid env) :
    Discards env ↔ (timeoutOverride env).Changes standard.timeout ∨
      (intervalOverride env).Changes (standard.pollInterval : Int) := by
  constructor
  · rintro (⟨changes, -⟩ | ⟨-, changes⟩)
    · exact .inl changes
    · exact .inr changes
  · intro changes
    rcases h with timeout | interval
    · exact .inr ⟨timeout, changes.resolve_left (Override.not_changes_of_invalid timeout _)⟩
    · exact .inl ⟨changes.resolve_right (Override.not_changes_of_invalid interval _), interval⟩

/-- The standard settings honour the variables if no override would change anything. -/
theorem honours_standard_iff {env : Environment} (h : SomeInvalid env) (message : String) :
    Honours env standard [Journal.warning message] ↔ ¬ Discards env := by
  rw [discards_iff_of_invalid h, not_or, ← Override.value_eq_standard_iff, ← Override.value_eq_standard_iff]
  constructor
  · intro honours
    exact ⟨honours.timeout.symm, honours.interval.symm⟩
  · rintro ⟨timeout, interval⟩
    refine ⟨timeout.symm, interval.symm, standard.timeout_pos, standard.pollInterval_pos, ?_⟩
    exact iff_of_true ⟨_, List.mem_singleton_self _, rfl⟩ h

/-- The settings honour each variable on its own, unless an invalid override discards a valid one that would change
something. With any invalid override they are the standard ones, and there is one warning; without one they are as the
variables say, and nothing is noted. -/
theorem overrides_keep_iff [Wording] (env : Environment) :
    (Honours env (ofEnvironment env).1 (ofEnvironment env).2 ↔ ¬ Discards env) ∧
    (SomeInvalid env → ∃ faults, ofEnvironment env =
      (standard, [Journal.warning ("ignoring invalid REST client overrides: " ++
        Wording.refusal title (given env) faults)])) ∧
    (¬ SomeInvalid env → (ofEnvironment env).2 = [] ∧
      Timed (ofEnvironment env).1 ((timeoutOverride env).value standard.timeout)
        ((intervalOverride env).value (standard.pollInterval : Int))) := by
  refine ⟨?_, ofEnvironment_of_invalid, ofEnvironment_of_valid⟩
  by_cases h : SomeInvalid env
  · obtain ⟨faults, read⟩ := ofEnvironment_of_invalid h
    rw [read]
    exact honours_standard_iff h _
  · obtain ⟨silent, -, -, timeout, interval⟩ := ofEnvironment_of_valid h
    have kept : ¬ Discards env := by
      rintro (⟨-, invalid⟩ | ⟨invalid, -⟩)
      · exact h (.inr invalid)
      · exact h (.inl invalid)
    refine iff_of_true ⟨timeout, interval, ?_, ?_, ?_⟩ kept
    · exact (ofEnvironment env).1.timeout_pos
    · exact (ofEnvironment env).1.pollInterval_pos
    · rw [silent]
      exact iff_of_false (by simp) h

attribute [local instance] Wording.brief

/-- A valid timeout, and an interval that is none. -/
def halfValid : Environment := ⟨[("NODEZERO_REST_TIMEOUT", "10"), ("NODEZERO_POLL_INTERVAL", "0")]⟩

/-- The timeout is valid on its own, and lost all the same. -/
theorem half_valid_is_discarded :
    timeoutOverride halfValid = .valid 10.0 ∧ (ofEnvironment halfValid).1.timeout = 30.0 ∧
      ¬ Honours halfValid (ofEnvironment halfValid).1 (ofEnvironment halfValid).2 := by
  have valid : timeoutOverride halfValid = .valid 10.0 := by decide +kernel
  have lost : (ofEnvironment halfValid).1.timeout = 30.0 := by decide +kernel
  refine ⟨valid, lost, fun honours => ?_⟩
  have kept := honours.timeout
  rw [valid, lost] at kept
  exact absurd kept (by decide +kernel)

end InstallWatch.Service.Settings
