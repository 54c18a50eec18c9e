import Mathlib
import InstallWatch.Schema.Record

/-!
Reading back what was written. A check restores what it makes of some data if it makes the same of what is written for
it. Scalars are restored whatever they were read from, since the lenient readings take what they give; lists, tables and
records are restored part by part. Data are taken as any reader builds them, without a key twice in one mapping.
-/

namespace InstallWatch

/-- Where an insertion that meets nothing of its kind goes to the end, insertions of different kinds follow one another. -/
theorem foldl_insert {α β : Type} (insert : β → List α → List α) (made : β → α) (apart : α → β → Prop)
    (new : ∀ b as, (∀ a ∈ as, apart a b) → insert b as = as ++ [made b]) {as : List α} {bs : List β}
    (before : ∀ a ∈ as, ∀ b ∈ bs, apart a b) (distinct : bs.Pairwise fun b c => apart (made b) c) :
    bs.foldl (fun as b => insert b as) as = as ++ bs.map made := by
  induction bs generalizing as with
  | nil => simp
  | cons b bs ih =>
    obtain ⟨first, distinct⟩ := List.pairwise_cons.mp distinct
    have behind : ∀ a ∈ as ++ [made b], ∀ c ∈ bs, apart a c := by
      intro a mem c hc
      rcases List.mem_append.mp mem with mem | mem
      · exact before a mem c (List.mem_cons_of_mem b hc)
      · exact List.mem_singleton.mp mem ▸ first c hc
    rw [List.foldl_cons, new b as fun a mem => before a mem b List.mem_cons_self, ih behind distinct, List.append_assoc]
    rfl

/-! ## Data without a key twice -/

namespace Data

mutual

/-- No mapping inside has a key twice. -/
def isProper : Data → Bool
  | .list items => areProper items
  | .set members => areProper members
  | .map entries => decide (entries.Pairwise fun a b => sameKey a.1 b.1 = false) && entriesAreProper entries
  | _ => true

def areProper : List Data → Bool
  | [] => true
  | d :: ds => d.isProper && areProper ds

def entriesAreProper : List (Data × Data) → Bool
  | [] => true
  | (k, v) :: es => k.isProper && v.isProper && entriesAreProper es

end

/-- What a datum holds one after the other: the items of a list or a set, and else the datum alone. -/
def items : Data → List Data
  | .list items | .set items => items
  | d => [d]

theorem isProper_of_mem_areProper {ds : List Data} (h : areProper ds = true) {d : Data} (mem : d ∈ ds) :
    d.isProper = true := by
  induction ds with
  | nil => cases mem
  | cons first ds ih =>
    simp only [areProper, Bool.and_eq_true] at h
    rcases List.mem_cons.mp mem with rfl | mem
    · exact h.1
    · exact ih h.2 mem

theorem isProper_value_of_mem {es : List (Data × Data)} (h : entriesAreProper es = true) {e : Data × Data} (mem : e ∈ es) :
    e.2.isProper = true := by
  induction es with
  | nil => cases mem
  | cons first es ih =>
    simp only [entriesAreProper, Bool.and_eq_true] at h
    rcases List.mem_cons.mp mem with rfl | mem
    · exact h.1.2
    · exact ih h.2 mem

theorem isProper_map_iff {es : List (Data × Data)} :
    (map es).isProper = true ↔ es.Pairwise (fun a b => sameKey a.1 b.1 = false) ∧ entriesAreProper es = true := by
  simp [isProper]

theorem isProper_of_mem_items {d x : Data} (h : d.isProper = true) (mem : x ∈ d.items) : x.isProper = true := by
  cases d with
  | list items =>
    rw [isProper] at h
    exact isProper_of_mem_areProper h mem
  | set members =>
    rw [isProper] at h
    exact isProper_of_mem_areProper h mem
  | _ => exact List.mem_singleton.mp mem ▸ h

theorem sameKey_text (s t : String) : sameKey (text s) (text t) = decide (s = t) := rfl

theorem put_of_new {k v : Data} {es : List (Data × Data)} (h : ∀ e ∈ es, sameKey e.1 k = false) :
    put k v es = es ++ [(k, v)] := by
  induction es with
  | nil => rfl
  | cons e es ih =>
    rw [put, h e List.mem_cons_self, if_neg (by simp), ih fun e mem => h e (List.mem_cons_of_mem _ mem), List.cons_append]

theorem entry?_cons_text (name s : String) (v : Data) (es : List (Data × Data)) :
    entry? name ((text s, v) :: es) = if s = name then some v else entry? name es := rfl

theorem entry?_cons_of_not_text {k : Data} (h : ∀ s, k ≠ text s) (name : String) (v : Data) (es : List (Data × Data)) :
    entry? name ((k, v) :: es) = entry? name es := by
  cases k with
  | text s => exact absurd rfl (h s)
  | _ => rfl

theorem mem_of_entry? {name : String} {es : List (Data × Data)} {d : Data} (h : entry? name es = some d) :
    (text name, d) ∈ es := by
  induction es with
  | nil => cases h
  | cons e es ih =>
    obtain ⟨k, v⟩ := e
    by_cases isText : ∃ s, k = text s
    · obtain ⟨s, rfl⟩ := isText
      rw [entry?_cons_text] at h
      split at h
      · cases h
        simp_all
      · exact List.mem_cons_of_mem _ (ih h)
    · rw [entry?_cons_of_not_text (not_exists.mp isText)] at h
      exact List.mem_cons_of_mem _ (ih h)

theorem isSome_entry?_of_mem {name : String} {es : List (Data × Data)} {d : Data} (mem : (text name, d) ∈ es) :
    (Data.entry? name es).isSome = true := by
  induction es with
  | nil => cases mem
  | cons e es ih =>
    obtain ⟨k, v⟩ := e
    by_cases isText : ∃ s, k = text s
    · obtain ⟨s, rfl⟩ := isText
      rw [entry?_cons_text]
      split
      · rfl
      · rename_i other
        rcases List.mem_cons.mp mem with same | mem
        · cases same
          exact absurd rfl other
        · exact ih mem
    · rw [entry?_cons_of_not_text (not_exists.mp isText)]
      rcases List.mem_cons.mp mem with same | mem
      · exact absurd ⟨name, (Prod.mk.inj same).1.symm⟩ isText
      · exact ih mem

end Data

namespace Schema

variable {α β : Type}

/-! ## What has been accepted -/

namespace Checked

theorem map_eq_accepted_iff {f : α → β} {x : Checked α} {b : β} :
    x.map f = accepted b ↔ ∃ a, x = accepted a ∧ f a = b := by
  cases x <;> simp [map]

theorem functor_map_eq_accepted_iff {f : α → β} {x : Checked α} {b : β} :
    f <$> x = accepted b ↔ ∃ a, x = accepted a ∧ f a = b := map_eq_accepted_iff

theorem seq_eq_accepted_iff {f : Checked (α → β)} {x : Checked α} {b : β} :
    f <*> x = accepted b ↔ ∃ g a, f = accepted g ∧ x = accepted a ∧ g a = b := ap_eq_accepted_iff

theorem andThen_eq_accepted_iff {x : Checked α} {f : α → Checked β} {b : β} :
    x.andThen f = accepted b ↔ ∃ a, x = accepted a ∧ f a = accepted b := by
  cases x <;> simp [andThen]

theorem under_eq_accepted_iff {step : String} {x : Checked α} {a : α} : x.under step = accepted a ↔ x = accepted a := by
  cases x <;> simp [under]

end Checked

theorem record_eq_accepted_iff {title : String} {read : Entries → Checked α} {d : Data} {a : α} :
    record title read d = .accepted a ↔ ∃ es, d = .map es ∧ read es = .accepted a := by
  cases d <;> simp [record, Checked.fault]

theorem keepingRecord_eq_accepted_iff {title : String} {read : Entries → Checked α} {d : Data} {a : α} :
    keepingRecord title read d = .accepted a ↔ ∃ es, d = .map es ∧ es.any hasBrokenKey = false ∧ read es = .accepted a := by
  cases d with
  | map es =>
    simp only [keepingRecord, Data.map.injEq, exists_eq_left']
    split
    · simp_all [Checked.fault]
    · simp_all
  | _ => simp [keepingRecord, Checked.fault]

/-! ## Scalars, lists and tables -/

/-- What the check makes of the data, it makes again of what is written for it. -/
def Restores (check : Data → Checked α) (write : α → Data) (d : Data) : Prop :=
  ∀ ⦃a⦄, check d = .accepted a → check (write a) = .accepted a

/-- A check of mappings restores what it restores of each item. -/
theorem restores_of_items {check : Data → Checked α} {write : α → Data} {d : Data}
    (mapping : ∀ a, check d = .accepted a → ∃ es, d = .map es) (h : ∀ x ∈ d.items, Restores check write x) :
    Restores check write d := by
  intro a read
  obtain ⟨es, rfl⟩ := mapping a read
  exact h _ List.mem_cons_self read

theorem text_restores (d : Data) : Restores text .text d := fun _ _ => rfl

theorem whole_restores (d : Data) : Restores whole .int d := fun _ _ => rfl

theorem flag_restores (d : Data) : Restores flag .bool d := fun _ _ => rfl

theorem above_eq_accepted_iff {bound : Nat} {d : Data} {x : Float} :
    above bound d = .accepted x ↔ number d = .accepted x ∧ Float.ofNat bound < x := by
  rw [above, Checked.andThen_eq_accepted_iff]
  constructor
  · rintro ⟨y, read, high⟩
    split at high
    · cases high
      exact ⟨read, ‹_›⟩
    · cases high
  · rintro ⟨read, high⟩
    exact ⟨x, read, if_pos high⟩

theorem atLeast_eq_accepted_iff {bound : Nat} {d : Data} {n : Int} :
    atLeast bound d = .accepted n ↔ whole d = .accepted n ∧ (bound : Int) ≤ n := by
  rw [atLeast, Checked.andThen_eq_accepted_iff]
  constructor
  · rintro ⟨m, read, high⟩
    split at high
    · cases high
      exact ⟨read, ‹_›⟩
    · cases high
  · rintro ⟨read, high⟩
    exact ⟨n, read, if_pos high⟩

theorem above_restores (bound : Nat) (d : Data) : Restores (above bound) .float d := fun _ read =>
  above_eq_accepted_iff.mpr ⟨rfl, (above_eq_accepted_iff.mp read).2⟩

theorem atLeast_restores (bound : Nat) (d : Data) : Restores (atLeast bound) .int d := fun _ read =>
  atLeast_eq_accepted_iff.mpr ⟨rfl, (atLeast_eq_accepted_iff.mp read).2⟩

theorem optional_of_ne_null {check : Data → Checked α} {d : Data} (h : d ≠ .null) :
    optional check d = (check d).map some := by
  cases d with
  | null => exact absurd rfl h
  | _ => rfl

theorem optional_restores {check : Data → Checked α} {write : α → Data} (something : ∀ a, write a ≠ .null) {d : Data}
    (h : Restores check write d) : Restores (optional check) (writtenOption write) d := by
  intro a read
  by_cases null : d = .null
  · subst null
    cases read
    rfl
  · rw [optional_of_ne_null null, Checked.map_eq_accepted_iff] at read
    obtain ⟨b, read, rfl⟩ := read
    show optional check (write b) = _
    rw [optional_of_ne_null (something b), h read]
    rfl

theorem optional_text_restores (d : Data) : Restores (optional text) (writtenOption .text) d :=
  optional_restores (by simp) (text_restores d)

theorem optional_whole_restores (d : Data) : Restores (optional whole) (writtenOption .int) d :=
  optional_restores (by simp) (whole_restores d)

theorem optional_flag_restores (d : Data) : Restores (optional flag) (writtenOption .bool) d :=
  optional_restores (by simp) (flag_restores d)

theorem list_eq_accepted_iff {check : Data → Checked α} {items : List Data} {as : List α} :
    list check (.list items) = .accepted as ↔ items.map check = as.map .accepted := by
  -- Positions are told only in faults, so it does not matter where they start.
  have steps : ∀ n : Nat, (items.zipIdx n).map (fun item => (check item.1).under (toString item.2)) = as.map .accepted ↔
      items.map check = as.map .accepted := by
    induction items generalizing as with
    | nil => simp
    | cons d ds ih =>
      intro n
      cases as with
      | nil => simp
      | cons a as =>
        simp only [List.zipIdx_cons, List.map_cons, List.cons.injEq, Checked.under_eq_accepted_iff, ih (n + 1)]
  rw [list, Checked.all_eq_accepted_iff]
  exact steps 0

theorem list_restores {check : Data → Checked α} {write : α → Data} {d : Data}
    (h : ∀ x ∈ d.items, Restores check write x) : Restores (list check) (fun as => .list (as.map write)) d := by
  intro as read
  have each : ∀ items : List Data, (∀ x ∈ items, Restores check write x) → list check (.list items) = .accepted as →
      list check (.list (as.map write)) = .accepted as := by
    intro items restores read
    rw [list_eq_accepted_iff] at read ⊢
    rw [List.map_map, List.map_inj_left]
    intro a mem
    have accepted : Checked.accepted a ∈ items.map check := read ▸ List.mem_map_of_mem mem
    obtain ⟨x, mem, accepted⟩ := List.mem_map.mp accepted
    exact restores x mem accepted
  cases d with
  | list items => exact each items h read
  | set members => exact each members h read
  | _ => cases read

theorem optional_list_restores {check : Data → Checked α} {write : α → Data} {d : Data}
    (h : ∀ x ∈ d.items, Restores check write x) :
    Restores (optional (list check)) (writtenOption fun as => .list (as.map write)) d :=
  optional_restores (by simp) (list_restores h)

theorem putText_of_new {k v : String} {kvs : List (String × String)} (h : ∀ kv ∈ kvs, kv.1 ≠ k) :
    putText k v kvs = kvs ++ [(k, v)] := by
  induction kvs with
  | nil => rfl
  | cons kv kvs ih =>
    rw [putText, if_neg (h kv List.mem_cons_self), ih fun kv mem => h kv (List.mem_cons_of_mem _ mem), List.cons_append]

theorem map_fst_putText (k v : String) (kvs : List (String × String)) :
    (putText k v kvs).map (·.1) = if k ∈ kvs.map (·.1) then kvs.map (·.1) else kvs.map (·.1) ++ [k] := by
  induction kvs with
  | nil => rfl
  | cons kv kvs ih =>
    unfold putText
    by_cases same : kv.1 = k
    · simp [same]
    · rw [if_neg same, List.map_cons, ih]
      simp only [List.map_cons, List.mem_cons, Ne.symm same, false_or]
      split <;> rfl

/-- Texts are put under keys of which no two are the same. -/
theorem nodup_foldl_putText (acc kvs : List (String × String)) (h : (acc.map (·.1)).Nodup) :
    ((kvs.foldl (fun acc kv => putText kv.1 kv.2 acc) acc).map (·.1)).Nodup := by
  induction kvs generalizing acc with
  | nil => exact h
  | cons kv kvs ih =>
    refine ih _ ?_
    rw [map_fst_putText]
    split
    · exact h
    · rename_i new
      exact List.nodup_append.mpr ⟨h, List.nodup_singleton _, by simpa using fun k v mem same => new (by simp_all)⟩

theorem table_restores (d : Data) : Restores table writtenTable d := by
  intro kvs read
  have distinct : (kvs.map (·.1)).Nodup := by
    cases d with
    | map es =>
      obtain ⟨read, _, rfl⟩ := Checked.map_eq_accepted_iff.mp read
      exact nodup_foldl_putText [] _ List.nodup_nil
    | _ => cases read
  have entries : (kvs.map fun kv => (Data.text kv.1, Data.text kv.2)).map textEntry = kvs.map .accepted := by
    rw [List.map_map]
    rfl
  have inserted : kvs.foldl (fun acc kv => putText kv.1 kv.2 acc) [] = kvs.map id :=
    foldl_insert (fun kv => putText kv.1 kv.2) id (fun kv kv' => kv.1 ≠ kv'.1) (fun _ _ => putText_of_new) (by simp)
      (List.pairwise_map.mp distinct)
  rw [writtenTable, table, entries, Checked.all_eq_accepted_iff.mpr rfl]
  exact congrArg Checked.accepted (inserted.trans (List.map_id kvs))

/-! ## Fields -/

theorem mem_of_given? {names : List String} {es : Entries} {name : String} {d : Data}
    (h : given? names es = some (name, d)) : name ∈ names ∧ (Data.text name, d) ∈ es := by
  obtain ⟨name', mem, found⟩ := List.exists_of_findSome?_eq_some h
  obtain ⟨d', there, same⟩ := Option.map_eq_some_iff.mp found
  cases same
  exact ⟨mem, Data.mem_of_entry? there⟩

/-- A field is restored under any name if what it was read from is, and what stands for its absence. -/
theorem field_restores {es es' : Entries} {names names' : List String} {name : String} {absent absent' a : α}
    {check : Data → Checked α} {write : α → Data} (read : field es names absent check = .accepted a)
    (restores : ∀ name d, given? names es = some (name, d) → Restores check write d)
    (default : check (write absent) = .accepted absent) (written : given? names' es' = some (name, write a)) :
    field es' names' absent' check = .accepted a := by
  have again : check (write a) = .accepted a := by
    unfold field at read
    split at read
    · rename_i given
      exact restores _ _ given (Checked.under_eq_accepted_iff.mp read)
    · cases read
      exact default
  simp only [field, written, again, Checked.under]

/-- So is a field that has to be there. -/
theorem required_restores {es es' : Entries} {names names' : List String} {name : String} {a : α}
    {check : Data → Checked α} {write : α → Data} (read : required es names check = .accepted a)
    (restores : ∀ name d, given? names es = some (name, d) → Restores check write d)
    (written : given? names' es' = some (name, write a)) : required es' names' check = .accepted a := by
  have again : check (write a) = .accepted a := by
    unfold required at read
    split at read
    · rename_i given
      exact restores _ _ given (Checked.under_eq_accepted_iff.mp read)
    · cases read
  simp only [required, written, again, Checked.under]

/-! ## Entries that are kept -/

/-- The entry that a name and its value make. -/
def entryOf (kv : String × Data) : Data × Data := (.text kv.1, kv.2)

/-- The key is one of the names. -/
def isName (fields : List (List String)) : Data → Bool
  | .text s => fields.any (·.contains s)
  | _ => false

/-- Of each field's names at most one is given. -/
def GivenByOne (fields : List (List String)) (es : Entries) : Prop :=
  ∀ names ∈ fields, ∀ a ∈ names, ∀ b ∈ names, (Data.entry? a es).isSome = true → (Data.entry? b es).isSome = true → a = b

/-- The names under which fields are given. -/
def usedNames (fields : List (List String)) (es : Entries) : List String :=
  fields.filterMap fun names => (given? names es).map (·.1)

/-- What an entry comes to beside fields given under these names. -/
def keptOf (used : List String) (e : Data × Data) : Option (Checked (String × Data)) :=
  match e.1 with
  | .text s => if used.contains s then none else some (.accepted (s, e.2))
  | k => some ((Checked.fault .keyNotText).under (keyText k))

theorem extras_eq_accepted_iff {fields : List (List String)} {es : Entries} {kept : Extras} :
    extras fields es = .accepted kept ↔ es.filterMap (keptOf (usedNames fields es)) = kept.map .accepted :=
  Checked.all_eq_accepted_iff

theorem keptOf_of_mem {used : List String} (kv : String × Data) (h : kv.1 ∈ used) : keptOf used (entryOf kv) = none :=
  if_pos (List.contains_iff_mem.mpr h)

theorem keptOf_of_not_mem {used : List String} (kv : String × Data) (h : kv.1 ∉ used) :
    keptOf used (entryOf kv) = some (.accepted kv) :=
  if_neg (mt List.contains_iff_mem.mp h)

/-- They are all names of fields among the keys. -/
theorem mem_usedNames_iff {fields : List (List String)} {es : Entries} (once : GivenByOne fields es) {kv : String × Data}
    (mem : entryOf kv ∈ es) : kv.1 ∈ usedNames fields es ↔ isName fields (.text kv.1) = true := by
  have there := Data.isSome_entry?_of_mem mem
  simp only [usedNames, List.mem_filterMap, isName, List.any_eq_true, List.contains_iff_mem]
  refine exists_congr fun names => and_congr_right fun known => ?_
  constructor
  · intro used
    obtain ⟨⟨name, d⟩, given, same⟩ := Option.map_eq_some_iff.mp used
    exact same ▸ (mem_of_given? given).1
  · intro named
    have given : (given? names es).isSome = true := by
      rw [given?, List.findSome?_isSome_iff]
      exact ⟨kv.1, named, by simpa using there⟩
    obtain ⟨⟨name, d⟩, given⟩ := Option.isSome_iff_exists.mp given
    obtain ⟨mem', there'⟩ := mem_of_given? given
    obtain rfl : name = kv.1 := once names known name mem' kv.1 named (Data.isSome_entry?_of_mem there') there
    rw [given]
    rfl

theorem map_entryOf_of_filterMap {used : List String} {taken : Data × Data → Bool} {es : Entries} {kept : Extras}
    (each : ∀ kv, entryOf kv ∈ es → (kv.1 ∈ used ↔ taken (entryOf kv) = false))
    (h : es.filterMap (keptOf used) = kept.map .accepted) : kept.map entryOf = es.filter taken := by
  induction es generalizing kept with
  | nil =>
    cases kept with
    | nil => rfl
    | cons kv kept => cases h
  | cons e es ih =>
    have behind := fun kv mem => each kv (List.mem_cons_of_mem e mem)
    obtain ⟨k, v⟩ := e
    by_cases isText : ∃ s, k = .text s
    · obtain ⟨s, rfl⟩ := isText
      have here := each (s, v) List.mem_cons_self
      by_cases mem : s ∈ used
      · have passed : keptOf used (.text s, v) = none := keptOf_of_mem (s, v) mem
        rw [List.filterMap_cons_none passed] at h
        rw [List.filter_cons_of_neg (by simpa [entryOf] using here.mp mem), ih behind h]
      · have stays : keptOf used (.text s, v) = some (.accepted (s, v)) := keptOf_of_not_mem (s, v) mem
        rw [List.filterMap_cons_some stays] at h
        cases kept with
        | nil => cases h
        | cons kv kept =>
          obtain ⟨first, rest⟩ := List.cons.inj h
          cases first
          have taken : taken (.text s, v) = true := by simpa [entryOf] using mt here.mpr mem
          rw [List.filter_cons_of_pos taken, List.map_cons, ih behind rest]
          rfl
    · -- A key that is no text is a fault, which is not among what has been accepted.
      have refused : ∃ faults, keptOf used (k, v) = some (.refused faults) := by
        cases k with
        | text s => exact absurd ⟨s, rfl⟩ isText
        | _ => exact ⟨_, rfl⟩
      obtain ⟨faults, refused⟩ := refused
      rw [List.filterMap_cons_some refused] at h
      cases kept with
      | nil => cases h
      | cons kv kept => cases (List.cons.inj h).1

/-- What is kept are the entries under names of no field, as they are. -/
theorem map_entryOf_of_extras {fields : List (List String)} {es : Entries} (once : GivenByOne fields es) {kept : Extras}
    (h : extras fields es = .accepted kept) : kept.map entryOf = es.filter fun e => !isName fields e.1 := by
  refine map_entryOf_of_filterMap (fun kv mem => ?_) (extras_eq_accepted_iff.mp h)
  rw [mem_usedNames_iff once mem, Bool.not_eq_false']
  rfl

/-- Entries that a record can keep: none is a field's, no name comes twice, and every name is a proper text. -/
structure Keepable (fields : List (List String)) (kept : Extras) : Prop where
  apart : ∀ kv ∈ kept, isName fields (.text kv.1) = false
  distinct : (kept.map (·.1)).Nodup
  whole : (kept.map entryOf).any hasBrokenKey = false

theorem keepable_of_extras {fields : List (List String)} {es : Entries} {kept : Extras}
    (distinct : es.Pairwise fun a b => Data.sameKey a.1 b.1 = false) (whole : es.any hasBrokenKey = false)
    (once : GivenByOne fields es) (h : extras fields es = .accepted kept) : Keepable fields kept := by
  have same := map_entryOf_of_extras once h
  have mem : ∀ kv ∈ kept, entryOf kv ∈ es.filter fun e => !isName fields e.1 := fun kv mem =>
    same ▸ List.mem_map_of_mem mem
  constructor
  · intro kv hkv
    simpa [entryOf] using (List.mem_filter.mp (mem kv hkv)).2
  · have pairwise := distinct.sublist (List.filter_sublist (p := fun e => !isName fields e.1))
    rw [← same, List.pairwise_map] at pairwise
    rw [List.Nodup, List.pairwise_map]
    exact pairwise.imp fun apart => by simpa [entryOf, Data.sameKey_text] using apart
  · rw [same, List.any_eq_false] at *
    exact fun e he => whole e (List.mem_filter.mp he).1

/-- The names under which fields are written. -/
def lastNames (fields : List (List String)) : List String := fields.map (·.getLastD "")

/-- Fields that can be written: each under one of its names, and under a proper text. -/
structure Writable (fields : List (List String)) : Prop where
  known : ∀ name ∈ lastNames fields, isName fields (.text name) = true
  whole : ∀ name ∈ lastNames fields, (Text.chars? name.toList).isNone = false

namespace Keepable

variable {fields : List (List String)} {kept : Extras} {named : List (String × Data)}

/-- No field is found in what is kept. -/
theorem entry?_eq_none (h : Keepable fields kept) (name : String) (known : isName fields (.text name) = true) :
    Data.entry? name (kept.map entryOf) = none := by
  cases found : Data.entry? name (kept.map entryOf) with
  | none => rfl
  | some d =>
    obtain ⟨kv, mem, same⟩ := List.mem_map.mp (Data.mem_of_entry? found)
    cases same
    exact absurd known (by simp [h.apart kv mem])

section
variable (h : Keepable fields kept) (writable : Writable fields) (last : named.map (·.1) = lastNames fields)
include h writable last

theorem ne_of_mem {kv kv' : String × Data} (field : kv ∈ named) (extra : kv' ∈ kept) : kv.1 ≠ kv'.1 := by
  intro same
  have known := writable.known kv.1 (last ▸ List.mem_map_of_mem field)
  rw [same, h.apart kv' extra] at known
  cases known

/-- A record is written as its fields, with what it keeps behind them. -/
theorem written_eq : written named kept = .map (named.map entryOf ++ kept.map entryOf) := by
  refine congrArg Data.map (foldl_insert (fun kv => Data.put (.text kv.1) kv.2) entryOf
    (fun e kv => Data.sameKey e.1 (.text kv.1) = false) (fun _ _ => Data.put_of_new) ?_ ?_)
  · intro e mem kv extra
    obtain ⟨kv', field, rfl⟩ := List.mem_map.mp mem
    rw [Data.sameKey_text, decide_eq_false_iff_not]
    exact h.ne_of_mem writable last field extra
  · exact (List.pairwise_map.mp h.distinct).imp fun apart => decide_eq_false apart

theorem written_whole : (named.map entryOf ++ kept.map entryOf).any hasBrokenKey = false := by
  rw [List.any_append, h.whole, Bool.or_false, List.any_eq_false]
  intro e mem
  obtain ⟨kv, field, rfl⟩ := List.mem_map.mp mem
  exact Bool.not_eq_true _ ▸ writable.whole kv.1 (last ▸ List.mem_map_of_mem field)

/-- What is kept is kept again. -/
theorem extras_written (used : usedNames fields (named.map entryOf ++ kept.map entryOf) = named.map (·.1)) :
    extras fields (named.map entryOf ++ kept.map entryOf) = .accepted kept := by
  rw [extras_eq_accepted_iff, used, List.filterMap_append]
  have fieldsPass : (named.map entryOf).filterMap (keptOf (named.map (·.1))) = [] := by
    rw [List.filterMap_eq_nil_iff]
    intro e mem
    obtain ⟨kv, field, rfl⟩ := List.mem_map.mp mem
    exact keptOf_of_mem kv (List.mem_map_of_mem field)
  have othersStay : ∀ kv ∈ kept, keptOf (named.map (·.1)) (entryOf kv) = some (.accepted kv) := by
    intro kv extra
    apply keptOf_of_not_mem kv
    rw [List.mem_map]
    rintro ⟨kv', field, same⟩
    exact h.ne_of_mem writable last field extra same
  rw [fieldsPass, List.nil_append, List.filterMap_map]
  exact (List.filterMap_congr othersStay).trans (congrFun List.filterMap_eq_map' kept)

end

end Keepable

end Schema

end InstallWatch
