import Mathlib
import InstallWatch.Proofs.Asset.Loading

/-!
What expansion makes of a text. References are described by how they are written, and the expanded text by where they
stand: from left to right each reference that starts is taken as a whole, and everything else is taken as it is. The text
can also be changed in place, with an index that moves over it; whatever the values hold, this ends, and with the same
text, since nothing before the index is ever changed.
-/

namespace InstallWatch.Environment

/-! ## References -/

/-- ASCII letters, ASCII digits and the underscore. -/
def WordChar (c : Char) : Prop :=
  'a' ≤ c ∧ c ≤ 'z' ∨ 'A' ≤ c ∧ c ≤ 'Z' ∨ '0' ≤ c ∧ c ≤ '9' ∨ c = '_'

/-- A text starts with a reference to a variable, and goes on behind it. -/
inductive Refers : (text name rest : List Char) → Prop where
  /-- A dollar sign and as many word characters as there are. -/
  | word {name rest : List Char} (nonempty : name ≠ []) (word : ∀ c ∈ name, WordChar c)
      (longest : ∀ c ∈ rest.head?, ¬ WordChar c) : Refers ('$' :: (name ++ rest)) name rest
  /-- Braces behind a dollar sign, up to the first that closes. -/
  | braced {name rest : List Char} (first : '\x7d' ∉ name) :
      Refers ('$' :: '\x7b' :: (name ++ '\x7d' :: rest)) name rest

/-- No reference starts here. -/
def NoReference (text : List Char) : Prop := ∀ name rest, ¬ Refers text name rest

theorem wordChar_iff {c : Char} : WordChar c ↔ Text.isWordChar c = true := by
  simp only [WordChar, Text.isWordChar, Char.isAlphanum, Char.isAlpha, Char.isLower, Char.isUpper, Char.isDigit,
    Bool.or_eq_true, Bool.and_eq_true, decide_eq_true_eq, Char.le_def]
  tauto

namespace Piece

theorem referenceAt?_word {name rest : List Char} (nonempty : name ≠ []) (word : ∀ c ∈ name, WordChar c)
    (longest : ∀ c ∈ rest.head?, ¬ WordChar c) : referenceAt? (name ++ rest) = some (reference name false) := by
  obtain ⟨c, cs, rfl⟩ := List.exists_cons_of_ne_nil nonempty
  have noBrace : c ≠ '\x7b' := by
    rintro rfl
    exact absurd (wordChar_iff.mp (word _ List.mem_cons_self)) (by decide)
  have whole : ((c :: cs) ++ rest).takeWhile Text.isWordChar = c :: cs := by
    rw [List.takeWhile_append_of_pos fun d hd => wordChar_iff.mp (word d hd)]
    cases rest with
    | nil => simp
    | cons d rest =>
      have stop : ¬ Text.isWordChar d = true := fun h => longest d rfl (wordChar_iff.mpr h)
      rw [List.takeWhile_cons_of_neg stop, List.append_nil]
  unfold referenceAt?
  split
  · rename_i same
    exact absurd (List.cons.inj same).1 noBrace
  · simp only [whole]
    rfl

theorem referenceAt?_braced {name : List Char} (first : '\x7d' ∉ name) (rest : List Char) :
    referenceAt? ('\x7b' :: (name ++ '\x7d' :: rest)) = some (reference name true) := by
  have whole : (name ++ '\x7d' :: rest).takeWhile (fun c => !decide (c = '\x7d')) = name := by
    rw [List.takeWhile_append_of_pos fun c hc => by simpa using fun h : c = '\x7d' => first (h ▸ hc)]
    simp
  simp [referenceAt?, whole]

/-- A reference is found where one starts. -/
theorem referenceAt?_of_refers {text name rest : List Char} (h : Refers text name rest) :
    ∃ s braced, text = '$' :: s ∧ referenceAt? s = some (reference name braced) ∧
      text = (reference name braced).source ++ rest := by
  cases h with
  | word nonempty word longest => exact ⟨_, false, rfl, referenceAt?_word nonempty word longest, rfl⟩
  | braced first => exact ⟨_, true, rfl, referenceAt?_braced first rest, by simp [source]⟩

/-- One starts where it is found. -/
theorem refers_of_referenceAt? {s : List Char} {p : Piece} (h : referenceAt? s = some p) :
    ∃ name rest, Refers ('$' :: s) name rest := by
  unfold referenceAt? at h
  split at h
  · rename_i t
    split at h
    · rename_i closes
      obtain ⟨name, rest, rfl, first⟩ := List.eq_append_cons_of_mem (List.contains_iff_mem.mp closes)
      exact ⟨name, rest, .braced first⟩
    · cases h
  · have parts := List.takeWhile_append_dropWhile (p := Text.isWordChar) (l := s)
    dsimp only at h
    split at h
    · cases h
    · rename_i nonempty
      rw [← parts]
      refine ⟨_, _, .word (by simpa using nonempty) (fun c hc => wordChar_iff.mpr (List.mem_takeWhile_imp hc)) ?_⟩
      intro c hc isWord
      have stop := List.head?_dropWhile_not Text.isWordChar s
      rw [hc] at stop
      simp [wordChar_iff.mp isWord] at stop

end Piece

/-! ## Expansion, reference by reference -/

theorem Refers.exists_source {text name rest : List Char} (h : Refers text name rest) :
    ∃ source, source ≠ [] ∧ text = source ++ rest := by
  obtain ⟨_, braced, _, _, split⟩ := Piece.referenceAt?_of_refers h
  exact ⟨_, List.ne_nil_of_length_pos (Piece.length_source_pos _), split⟩

variable {env : Environment}

theorem Piece.ofText_of_refers {source name rest : List Char} (h : Refers (source ++ rest) name rest) :
    ∃ braced, source = (reference name braced).source ∧ ofText (source ++ rest) = reference name braced :: ofText rest := by
  obtain ⟨s, braced, start, found, split⟩ := referenceAt?_of_refers h
  obtain rfl : source = _ := List.append_cancel_right split
  have behind : s.drop ((reference name braced).source.length - 1) = rest := by
    obtain ⟨d, ds, hd⟩ := List.exists_cons_of_length_pos (length_source_pos (reference name braced))
    rw [hd] at start ⊢
    obtain ⟨_, rfl⟩ := List.cons.inj start
    simp
  refine ⟨braced, rfl, ?_⟩
  rw [start, ofText]
  simp only [found, behind]

theorem Piece.ofText_of_noReference {c : Char} {rest : List Char} (h : NoReference (c :: rest)) :
    ofText (c :: rest) = plain c :: ofText rest := by
  by_cases dollar : c = '$'
  · subst dollar
    cases found : referenceAt? rest with
    | none => rw [ofText, found]
    | some p =>
      obtain ⟨name, after, refers⟩ := refers_of_referenceAt? found
      exact absurd refers (h name after)
  · rw [ofText]
    exact dollar

theorem expand_of_refers {source name rest : List Char} (h : Refers (source ++ rest) name rest) :
    env.expand (source ++ rest) =
      ((env.get? (String.ofList name)).map String.toList).getD source ++ env.expand rest := by
  obtain ⟨braced, spelled, cut⟩ := Piece.ofText_of_refers h
  rw [expand, cut, List.flatMap_cons, ← expand, spelled]
  simp only [Piece.write]
  cases env.get? (String.ofList name) <;> rfl

theorem expand_of_noReference {c : Char} {rest : List Char} (h : NoReference (c :: rest)) :
    env.expand (c :: rest) = c :: env.expand rest := by
  rw [expand, Piece.ofText_of_noReference h, List.flatMap_cons, ← expand]
  rfl

theorem expand_nil : env.expand [] = [] := by
  rw [expand, Piece.ofText]
  rfl

/-- What holds of the empty text, and of a text if it holds behind the reference or the character at its start, holds of
every text. -/
theorem text_induction {motive : List Char → Prop} (nil : motive [])
    (reference : ∀ source name rest, Refers (source ++ rest) name rest → motive rest → motive (source ++ rest))
    (char : ∀ c rest, NoReference (c :: rest) → motive rest → motive (c :: rest)) (text : List Char) : motive text := by
  -- The text behind a reference may be any shorter one, so the induction is on the length.
  induction h : text.length using Nat.strong_induction_on generalizing text with
  | _ n ih =>
    subst h
    by_cases starts : ∃ name rest, Refers text name rest
    · obtain ⟨name, rest, refers⟩ := starts
      obtain ⟨source, nonempty, rfl⟩ := refers.exists_source
      have shorter : rest.length < (source ++ rest).length := by
        simpa using List.length_pos_iff.mpr nonempty
      exact reference source name rest refers (ih _ shorter rest rfl)
    · cases text with
      | nil => exact nil
      | cons c rest => exact char c rest (fun name after refers => starts ⟨name, after, refers⟩) (ih _ (by simp) rest rfl)

/-! ## The expanded text -/

/-- A text and what becomes of it, from left to right: a set variable's value takes the place of a reference to it, and
everything else stays as it is. -/
inductive Expands (env : Environment) : (text expanded : List Char) → Prop where
  | nil : Expands env [] []
  | value {source name rest expanded : List Char} {value : String} (refers : Refers (source ++ rest) name rest)
      (set : env.get? (String.ofList name) = some value) (behind : Expands env rest expanded) :
      Expands env (source ++ rest) (value.toList ++ expanded)
  | unset {source name rest expanded : List Char} (refers : Refers (source ++ rest) name rest)
      (unset : env.get? (String.ofList name) = none) (behind : Expands env rest expanded) :
      Expands env (source ++ rest) (source ++ expanded)
  | char {c : Char} {rest expanded : List Char} (none : NoReference (c :: rest)) (behind : Expands env rest expanded) :
      Expands env (c :: rest) (c :: expanded)

/-- A variable that a text refers to, read from left to right. -/
inductive Mentions (name : List Char) : (text : List Char) → Prop where
  | here {text rest : List Char} (refers : Refers text name rest) : Mentions name text
  | behind {text other rest : List Char} (refers : Refers text other rest) (behind : Mentions name rest) :
      Mentions name text
  | past {c : Char} {rest : List Char} (none : NoReference (c :: rest)) (behind : Mentions name rest) :
      Mentions name (c :: rest)

theorem expands_iff {text expanded : List Char} : Expands env text expanded ↔ expanded = env.expand text := by
  constructor
  · intro h
    induction h with
    | nil => exact expand_nil.symm
    | value refers set _ ih =>
      rw [expand_of_refers refers, set, ih]
      rfl
    | unset refers unset _ ih =>
      rw [expand_of_refers refers, unset, ih]
      rfl
    | char none _ ih => rw [expand_of_noReference none, ih]
  · rintro rfl
    induction text using text_induction with
    | nil =>
      rw [expand_nil]
      exact .nil
    | reference source name rest refers ih =>
      rw [expand_of_refers refers]
      cases set : env.get? (String.ofList name) with
      | none => exact .unset refers set ih
      | some value => exact .value refers set ih
    | char c rest none ih =>
      rw [expand_of_noReference none]
      exact .char none ih

/-- The variables that a text refers to are those that its pieces refer to. -/
theorem mentions_iff {name text : List Char} :
    Mentions name text ↔ ∃ braced, Piece.reference name braced ∈ Piece.ofText text := by
  constructor
  · intro h
    induction h with
    | here refers =>
      obtain ⟨source, -, rfl⟩ := refers.exists_source
      obtain ⟨braced, -, cut⟩ := Piece.ofText_of_refers refers
      exact ⟨braced, cut ▸ List.mem_cons_self⟩
    | behind refers _ ih =>
      obtain ⟨source, -, rfl⟩ := refers.exists_source
      obtain ⟨_, -, cut⟩ := Piece.ofText_of_refers refers
      obtain ⟨braced, mem⟩ := ih
      exact ⟨braced, cut ▸ List.mem_cons_of_mem _ mem⟩
    | past none _ ih =>
      obtain ⟨braced, mem⟩ := ih
      exact ⟨braced, Piece.ofText_of_noReference none ▸ List.mem_cons_of_mem _ mem⟩
  · rintro ⟨braced, mem⟩
    induction text using text_induction with
    | nil => simp [Piece.ofText] at mem
    | reference source other rest refers ih =>
      obtain ⟨_, -, cut⟩ := Piece.ofText_of_refers refers
      rw [cut, List.mem_cons] at mem
      rcases mem with same | mem
      · cases same
        exact .here refers
      · exact .behind refers (ih mem)
    | char c rest none ih =>
      rw [Piece.ofText_of_noReference none, List.mem_cons] at mem
      exact .past none (ih (mem.resolve_left (by simp)))

/-- Only the variables that a text refers to have a say in what becomes of it. -/
theorem expand_congr {env' : Environment} {text : List Char}
    (agree : ∀ name, Mentions name text → env'.get? (String.ofList name) = env.get? (String.ofList name)) :
    env'.expand text = env.expand text := by
  induction text using text_induction with
  | nil => rw [expand_nil, expand_nil]
  | reference source name rest refers ih =>
    rw [expand_of_refers refers, expand_of_refers refers, agree name (.here refers),
      ih fun other mentions => agree other (.behind refers mentions)]
  | char c rest none ih =>
    rw [expand_of_noReference none, expand_of_noReference none, ih fun name mentions => agree name (.past none mentions)]

/-- Up to where no reference starts, a text stays as it is. -/
theorem expand_of_none_before {text : List Char} {n : ℕ} (none : ∀ k < n, NoReference (text.drop k)) :
    env.expand text = text.take n ++ env.expand (text.drop n) := by
  induction n generalizing text with
  | zero => simp
  | succ n ih =>
    cases text with
    | nil => simp [expand_nil]
    | cons c rest =>
      have behind : env.expand rest = rest.take n ++ env.expand (rest.drop n) := ih fun k hk => none (k + 1) (by omega)
      rw [expand_of_noReference (none 0 (by omega)), behind]
      simp

/-! ## The text changed in place -/

/-- A text whose references are replaced in place, and the index from which on they are looked for. -/
structure Sweep where
  text : List Char
  index : ℕ

namespace Sweep

/-- The first reference that starts at the index or behind it. -/
structure Next (w : Sweep) (start : ℕ) (name : List Char) (stop : ℕ) : Prop where
  le : w.index ≤ start
  refers : Refers (w.text.drop start) name (w.text.drop stop)
  inside : stop ≤ w.text.length
  first : ∀ k, w.index ≤ k → k < start → NoReference (w.text.drop k)

/-- One step: the index goes behind the value that is put in, or behind the reference that stays. -/
inductive Step (env : Environment) (w : Sweep) : Sweep → Prop where
  | value {start stop : ℕ} {name : List Char} {value : String} (next : w.Next start name stop)
      (set : env.get? (String.ofList name) = some value) :
      Step env w ⟨w.text.take start ++ value.toList ++ w.text.drop stop, start + value.toList.length⟩
  | unset {start stop : ℕ} {name : List Char} (next : w.Next start name stop)
      (unset : env.get? (String.ofList name) = none) : Step env w ⟨w.text, stop⟩

/-- The sweeps that steps lead to. -/
abbrev Reaches (env : Environment) : Sweep → Sweep → Prop := Relation.ReflTransGen (Step env)

/-- What stands before the index is done, and the rest is still to be expanded. -/
structure Sound (env : Environment) (text : List Char) (w : Sweep) : Prop where
  inside : w.index ≤ w.text.length
  expand : env.expand text = w.text.take w.index ++ env.expand (w.text.drop w.index)

variable {w w' : Sweep} {text name : List Char} {start stop : ℕ}

theorem Next.exists_source (h : w.Next start name stop) :
    ∃ source, w.text.drop start = source ++ w.text.drop stop ∧ start + source.length = stop ∧ source ≠ [] := by
  obtain ⟨source, nonempty, split⟩ := h.refers.exists_source
  refine ⟨source, split, ?_, nonempty⟩
  have length := congrArg List.length split
  have := List.length_pos_iff.mpr nonempty
  have := h.inside
  simp only [List.length_drop, List.length_append] at length
  omega

/-- Before the next reference nothing changes, and then it is expanded. -/
theorem Next.expand (h : w.Next start name stop) {source : List Char}
    (split : w.text.drop start = source ++ w.text.drop stop) :
    w.text.take w.index ++ env.expand (w.text.drop w.index) =
      w.text.take start ++ (((env.get? (String.ofList name)).map String.toList).getD source ++
        env.expand (w.text.drop stop)) := by
  have none : ∀ k < start - w.index, NoReference ((w.text.drop w.index).drop k) := by
    intro k hk
    rw [List.drop_drop]
    exact h.first _ (by omega) (by omega)
  have here : start = w.index + (start - w.index) := by have := h.le; omega
  rw [expand_of_none_before none, List.drop_drop, ← here, split, expand_of_refers (split ▸ h.refers), ← List.append_assoc,
    ← List.take_add, ← here]

theorem Sound.step (h : Sound env text w) (step : Step env w w') : Sound env text w' := by
  cases step with
  | @value start stop name value next set =>
    obtain ⟨source, split, place, -⟩ := next.exists_source
    have inside := next.inside
    have front : (w.text.take start ++ value.toList).length = start + value.toList.length := by
      simp only [List.length_append, List.length_take]
      omega
    refine ⟨by simp; omega, ?_⟩
    -- The value may hold references, but it stands before the new index, and only what is behind is expanded.
    rw [h.expand, next.expand split, set]
    show _ = (w.text.take start ++ value.toList ++ w.text.drop stop).take (start + value.toList.length) ++
      env.expand ((w.text.take start ++ value.toList ++ w.text.drop stop).drop (start + value.toList.length))
    rw [List.take_left' front, List.drop_left' front, ← List.append_assoc]
    rfl
  | @unset start stop name next unset =>
    obtain ⟨source, split, place, -⟩ := next.exists_source
    refine ⟨next.inside, ?_⟩
    have front : w.text.take stop = w.text.take start ++ source := by
      rw [← place, List.take_add, split, List.take_left]
    rw [h.expand, next.expand split, unset, front, List.append_assoc]
    rfl

theorem Sound.reaches (h : Sound env text w) (reaches : Reaches env w w') : Sound env text w' := by
  induction reaches with
  | refl => exact h
  | tail _ step ih => exact ih.step step

theorem sound_start (env : Environment) (text : List Char) : Sound env text ⟨text, 0⟩ := ⟨Nat.zero_le _, rfl⟩

/-- However the text grows, less of it is left behind the index. -/
theorem Step.shrinks (h : Step env w w') : w'.text.length - w'.index < w.text.length - w.index := by
  cases h with
  | @value start stop name value next set =>
    obtain ⟨source, -, place, nonempty⟩ := next.exists_source
    have := List.length_pos_iff.mpr nonempty
    have := next.le
    have := next.inside
    simp only [List.length_append, List.length_take, List.length_drop]
    omega
  | @unset start stop name next unset =>
    obtain ⟨source, -, place, nonempty⟩ := next.exists_source
    have := List.length_pos_iff.mpr nonempty
    have := next.le
    have := next.inside
    show w.text.length - stop < _
    omega

/-- A sweep goes on as long as there is a reference. -/
theorem noReference_of_stuck (stuck : ∀ w', ¬ Step env w w') {k : ℕ} (hk : w.index ≤ k) :
    NoReference (w.text.drop k) := by
  by_contra starts
  -- The first place where a reference starts is where the sweep goes on.
  have some : ∃ k, w.index ≤ k ∧ ¬ NoReference (w.text.drop k) := ⟨k, hk, starts⟩
  classical
  obtain ⟨le, starts⟩ := Nat.find_spec some
  have first : ∀ j, w.index ≤ j → j < Nat.find some → NoReference (w.text.drop j) := fun j hj before =>
    not_not.mp fun starts => Nat.find_min some before ⟨hj, starts⟩
  generalize Nat.find some = start at le starts first
  simp only [NoReference, not_forall, not_not] at starts
  obtain ⟨name, rest, refers⟩ := starts
  obtain ⟨source, nonempty, split⟩ := refers.exists_source
  have behind : w.text.drop (start + source.length) = rest := by
    rw [← List.drop_drop, split, List.drop_left]
  have next : w.Next start name (start + source.length) := by
    refine ⟨le, behind ▸ refers, ?_, first⟩
    have := congrArg List.length split
    have := List.length_pos_iff.mpr nonempty
    simp only [List.length_drop, List.length_append] at *
    omega
  cases set : env.get? (String.ofList name) with
  | none => exact stuck _ (.unset next set)
  | some value => exact stuck _ (.value next set)

theorem Sound.text_of_stuck (h : Sound env text w) (stuck : ∀ w', ¬ Step env w w') : w.text = env.expand text := by
  have rest : env.expand (w.text.drop w.index) = w.text.drop w.index := by
    have none : ∀ k < (w.text.drop w.index).length, NoReference ((w.text.drop w.index).drop k) := by
      intro k _
      rw [List.drop_drop]
      exact noReference_of_stuck stuck (Nat.le_add_right _ _)
    rw [expand_of_none_before none, List.take_length, List.drop_length, expand_nil, List.append_nil]
  rw [h.expand, rest, List.take_append_drop]

end Sweep

/-- Replacing the references of a text in place ends with another one: no run goes on for ever, what stands before the
index is final, and a run that cannot go on has arrived. -/
structure SweptTo (env : Environment) (text expanded : List Char) : Prop where
  ends : ∀ run : ℕ → Sweep, run 0 = ⟨text, 0⟩ → ¬ ∀ n, Sweep.Step env (run n) (run (n + 1))
  settled : ∀ w, Sweep.Reaches env ⟨text, 0⟩ w → w.text.take w.index <+: expanded
  arrives : ∀ w, Sweep.Reaches env ⟨text, 0⟩ w → (∀ w', ¬ Sweep.Step env w w') → w.text = expanded

theorem sweptTo_expand (env : Environment) (text : List Char) : SweptTo env text (env.expand text) where
  ends := by
    intro run _ steps
    have shrinks : StrictAnti fun n => (run n).text.length - (run n).index :=
      strictAnti_nat_of_succ_lt fun n => (steps n).shrinks
    exact not_strictAnti_of_wellFoundedLT _ shrinks
  settled := by
    intro w reaches
    rw [((Sweep.sound_start env text).reaches reaches).expand]
    exact List.prefix_append _ _
  arrives := fun w reaches stuck => ((Sweep.sound_start env text).reaches reaches).text_of_stuck stuck

/-! ## Files -/

/-- The text of a file is expanded in one pass, which ends with it whatever the variables hold; and where two environments
agree on the variables that the file refers to, all that is read from the file is the same. -/
theorem fileText_expands (env : Environment) {bytes : Text.Bytes} {s : List Char}
    (readable : Text.decodeUtf8 bytes = some s) :
    let text := Text.ofChars (Text.normalizeLineEnds s)
    ∃ expanded, Asset.fileText env bytes = .ok expanded ∧
      (∀ t, Expands env text t ↔ t = expanded) ∧ SweptTo env text expanded ∧
      ∀ env' : Environment,
        (∀ name, Mentions name text → env'.get? (String.ofList name) = env.get? (String.ofList name)) →
        Asset.fileText env' bytes = .ok expanded ∧
        ∀ [Yaml.Room] (tree : Files.Tree) (store : Asset.Store) (asset : Asset),
          tree.file? (store.pathOf asset) = .ok (some (.ok bytes)) →
          store.load tree env' asset = store.load tree env asset := by
  intro text
  have read : ∀ env : Environment, Asset.fileText env bytes = .ok (env.expand text) := by
    intro env
    simp only [Asset.fileText, readable]
    rfl
  refine ⟨_, read env, fun t => expands_iff, sweptTo_expand env text, ?_⟩
  intro env' agree
  have same : Asset.fileText env' bytes = Asset.fileText env bytes := by
    rw [read, read, expand_congr agree]
  refine ⟨same.trans (read env), fun tree store asset there => ?_⟩
  -- The store looks at the variables only to expand what it has read.
  have content : ∀ file, Asset.ofContents file env' (.ok bytes) asset = Asset.ofContents file env (.ok bytes) asset := by
    intro file
    rw [Asset.ofContents, Asset.ofContents, Asset.ofBytes, Asset.ofBytes, same]
  simp only [Asset.Store.load, there, content]

/-- References next to each other, one behind a line end of two characters, one to a longer name, and two that are none. -/
def tangled : String := "kind: $A$\x7bB\x7d\r\n# $A_$$\x7bA\n"

/-- Variables whose values refer to themselves and to each other. -/
def crossed : Environment := ⟨[("A", "$A$\x7bB\x7d"), ("B", "$A")]⟩

/-- The values are put in once, and a variable that the text does not refer to makes no difference. -/
theorem fileText_expands_tangled :
    let bytes := Text.encodeUtf8 tangled
    let text := Text.ofChars (Text.normalizeLineEnds tangled.toList)
    let expanded := "kind: $A$\x7bB\x7d$A\n# $A_$$\x7bA\n".toList
    let other : Environment := ⟨("C", "$A") :: crossed.vars⟩
    Text.decodeUtf8 bytes = some tangled.toList ∧ Expands crossed text expanded ∧ SweptTo crossed text expanded ∧
      (∀ name, Mentions name text → other.get? (String.ofList name) = crossed.get? (String.ofList name)) ∧
      Asset.fileText crossed bytes = .ok expanded ∧ Asset.fileText other bytes = .ok expanded := by
  intro bytes text expanded other
  have readable : Text.decodeUtf8 bytes = some tangled.toList := by decide +kernel
  have agree : ∀ name, Mentions name text →
      other.get? (String.ofList name) = crossed.get? (String.ofList name) := by
    intro name mentions
    obtain ⟨braced, mem⟩ := mentions_iff.mp mentions
    have unused : Piece.reference ['C'] braced ∉ Piece.ofText text := by
      cases braced <;> decide +kernel
    have ne : String.ofList name ≠ "C" := by
      intro same
      obtain rfl : name = ['C'] := by simpa using congrArg String.toList same
      exact unused mem
    rw [get?, List.lookup_cons, beq_false_of_ne ne]
    rfl
  have computed : crossed.expand text = expanded := by decide +kernel
  have expands : Expands crossed text expanded := expands_iff.mpr computed.symm
  obtain ⟨t, read, unique, swept, same⟩ := fileText_expands crossed readable
  have arrived : t = expanded := ((unique expanded).mp expands).symm
  rw [arrived] at read swept same
  exact ⟨readable, expands, swept, agree, read, (same other agree).1⟩

end InstallWatch.Environment
