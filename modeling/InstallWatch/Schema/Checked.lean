import InstallWatch.Schema.Fault

/-!
The outcome of checking data: what was read, or every fault found, in order. Checks that do not need each
other's results are combined so that no fault hides another.
-/

namespace InstallWatch.Schema

inductive Checked (α : Type) where
  | accepted (a : α)
  | refused (faults : List Fault)

namespace Checked
variable {α β : Type}

def fault (c : Complaint) : Checked α := refused [⟨[], c⟩]

def map (f : α → β) : Checked α → Checked β
  | accepted a => accepted (f a)
  | refused fs => refused fs

/-- Both results, or the faults of both. -/
def ap (f : Checked (α → β)) (x : Checked α) : Checked β :=
  match f, x with
  | accepted f, accepted a => accepted (f a)
  | accepted _, refused fs => refused fs
  | refused fs, accepted _ => refused fs
  | refused fs, refused gs => refused (fs ++ gs)

instance : Functor Checked := ⟨fun f x => map f x, fun a x => map (fun _ => a) x⟩

instance : Seq Checked := ⟨fun f x => ap f (x ())⟩

/-- Goes on with a result; faults stay as they are. -/
def andThen (x : Checked α) (f : α → Checked β) : Checked β :=
  match x with
  | accepted a => f a
  | refused fs => refused fs

/-- The same outcome one step further in. -/
def under (step : String) : Checked α → Checked α
  | accepted a => accepted a
  | refused fs => refused (fs.map (Fault.under step))

/-- All results in order, or all faults in order. -/
def all : List (Checked α) → Checked (List α)
  | [] => accepted []
  | x :: xs => ap (map List.cons x) (all xs)

theorem ap_eq_accepted_iff {f : Checked (α → β)} {x : Checked α} {b : β} :
    f.ap x = accepted b ↔ ∃ g a, f = accepted g ∧ x = accepted a ∧ g a = b := by
  cases f <;> cases x <;> simp [ap]

theorem all_eq_accepted_iff {xs : List (Checked α)} {as : List α} :
    all xs = accepted as ↔ xs = as.map accepted := by
  induction xs generalizing as with
  | nil => cases as <;> simp [all]
  | cons x xs ih =>
    cases as with
    | nil => cases x <;> cases h : all xs <;> simp [all, map, ap, h]
    | cons a as =>
      cases x with
      | accepted b => cases h : all xs <;> simp [all, map, ap, h, ← ih]
      | refused fs => cases h : all xs <;> simp [all, map, ap, h]

end InstallWatch.Schema.Checked
