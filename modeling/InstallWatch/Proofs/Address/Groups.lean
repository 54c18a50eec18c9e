import Mathlib
import InstallWatch.Address.V6
import InstallWatch.Proofs.Text.Hex
import InstallWatch.Proofs.Text.Pieces

/-!
How the groups of an address can be written. An IPv4 address has one spelling. The groups of an IPv6 address are words
of up to four digits with colons between them: of either case, with as many zeros in front as fit, the last two groups
perhaps dotted, and a run of zero groups perhaps left out. What is read are exactly these.
-/

namespace InstallWatch.Address
open InstallWatch.Text InstallWatch.Results

namespace V4

theorem exists_digit {c : Char} (h : Decimal.isDigit c = true) : ∃ d : Fin 10, c = Nat.digitChar d := by
  have small : c.toNat < 58 := by
    simp only [Decimal.isDigit, Bool.and_eq_true, decide_eq_true_eq] at h
    exact Nat.lt_succ_of_le h.2
  obtain ⟨n, rfl⟩ := exists_ofNat_of_lt small
  have digit : ∀ n : Fin 58, Decimal.isDigit (Char.ofNat n) = true → ∃ d : Fin 10, Char.ofNat n = Nat.digitChar d := by
    decide +kernel
  exact digit n h

theorem octet?_octetText (n : Fin 256) : octet? (octetText n) = some n := by
  have all : ∀ n : Fin 256, octet? (octetText n) = some n := by decide +kernel
  exact all n

theorem octet?_eq_some_iff {s : List Char} {n : Fin 256} : octet? s = some n ↔ s = octetText n := by
  refine ⟨fun h => ?_, fun h => h ▸ octet?_octetText n⟩
  -- every text of up to three digits that is read is checked
  have one : ∀ a : Fin 10, ((octet? [Nat.digitChar a]).all fun n => [Nat.digitChar a] = octetText n) = true := by
    decide +kernel
  have two : ∀ a b : Fin 10, ((octet? [Nat.digitChar a, Nat.digitChar b]).all fun n =>
      [Nat.digitChar a, Nat.digitChar b] = octetText n) = true := by decide +kernel
  have three : ∀ a b c : Fin 10, ((octet? [Nat.digitChar a, Nat.digitChar b, Nat.digitChar c]).all fun n =>
      [Nat.digitChar a, Nat.digitChar b, Nat.digitChar c] = octetText n) = true := by decide +kernel
  have fits : ¬ (s = [] ∨ ¬ s.all Decimal.isDigit ∨ 3 < s.length ∨ (s ≠ ['0'] ∧ s.head? = some '0')) := by
    intro bad
    rw [octet?, if_pos bad] at h
    cases h
  simp only [not_or, not_not, List.all_eq_true] at fits
  obtain ⟨filled, digits, short, -⟩ := fits
  match s with
  | [] => exact absurd rfl filled
  | [a] =>
    obtain ⟨a, rfl⟩ := exists_digit (digits a (by simp))
    simpa [h] using one a
  | [a, b] =>
    obtain ⟨a, rfl⟩ := exists_digit (digits a (by simp))
    obtain ⟨b, rfl⟩ := exists_digit (digits b (by simp))
    simpa [h] using two a b
  | [a, b, c] =>
    obtain ⟨a, rfl⟩ := exists_digit (digits a (by simp))
    obtain ⟨b, rfl⟩ := exists_digit (digits b (by simp))
    obtain ⟨c, rfl⟩ := exists_digit (digits c (by simp))
    simpa [h] using three a b c
  | _ :: _ :: _ :: _ :: _ => simp at short

theorem isDigit_of_mem_octetText {n : Fin 256} {c : Char} (h : c ∈ octetText n) : Decimal.isDigit c = true := by
  have all : ∀ n : Fin 256, (octetText n).all Decimal.isDigit = true := by decide +kernel
  exact List.all_eq_true.mp (all n) c h

theorem text_eq_intercalate (x : V4) :
    x.text = ['.'].intercalate [octetText x.a, octetText x.b, octetText x.c, octetText x.d] := by
  simp [text, List.intercalate, List.intersperse]

theorem mem_text {x : V4} {c : Char} (h : c ∈ x.text) : c = '.' ∨ Decimal.isDigit c = true := by
  simp only [text, List.mem_append, List.mem_cons] at h
  rcases h with ((h | rfl | h) | rfl | h) | rfl | h
  all_goals first
    | exact .inl rfl
    | exact .inr (isDigit_of_mem_octetText h)

/-- An address in dotted form has one text. -/
theorem parse?_eq_some_iff {s : List Char} {x : V4} : parse? s = some x ↔ s = x.text := by
  have free : ∀ piece ∈ [octetText x.a, octetText x.b, octetText x.c, octetText x.d], '.' ∉ piece := by
    intro piece hpiece hdot
    have digit : Decimal.isDigit '.' = true := by
      simp only [List.mem_cons, List.not_mem_nil, or_false] at hpiece
      rcases hpiece with rfl | rfl | rfl | rfl <;> exact isDigit_of_mem_octetText hdot
    exact absurd digit (by decide)
  constructor
  · intro h
    unfold parse? at h
    split at h
    · rename_i a b c d pieces
      simp only [Option.bind_eq_bind, Option.bind_eq_some_iff, octet?_eq_some_iff] at h
      obtain ⟨a', rfl, b', rfl, c', rfl, d', rfl, rest⟩ := h
      cases rest
      rw [← intercalate_splitAt '.' s, pieces, text_eq_intercalate]
    · cases h
  · rintro rfl
    rw [text_eq_intercalate, parse?, splitAt_intercalate (by simp) free]
    simp [octet?_octetText]

end V4

namespace V6

/-- How one group is written: in digits of either case, with zeros in front or not. -/
structure Word (group : Nat) (w : List Char) : Prop where
  short : w.length ≤ 4
  digits : ∃ zeros, w.map Char.toLower = List.replicate zeros '0' ++ hexNumeral group

/-- How groups are written one after the other: each as a word, but the last two perhaps as an IPv4 address. -/
inductive Row : List Nat → List (List Char) → Prop where
  | words {groups : List Nat} {ws : List (List Char)} (each : List.Forall₂ Word groups ws) : Row groups ws
  | dotted {groups : List Nat} {ws : List (List Char)} (each : List.Forall₂ Word groups ws) (x : V4) :
    Row (groups ++ [x.halves.1, x.halves.2]) (ws ++ [x.text])

/-- How eight groups are written: all of them, or with two colons for zero groups that are left out. -/
inductive Written : List Nat → List Char → Prop where
  | whole {groups : List Nat} {ws : List (List Char)} (row : Row groups ws) (all : groups.length = 8) :
    Written groups (join [':'] ws)
  | gap {front back : List Nat} {us ws : List (List Char)} (before : List.Forall₂ Word front us) (after : Row back ws)
    (short : front.length + back.length ≤ 7) :
    Written (front ++ List.replicate (8 - (front.length + back.length)) 0 ++ back)
      (join [':'] us ++ [':', ':'] ++ join [':'] ws)

/-! ## Words -/

theorem group?_eq_some_iff {w : List Char} {g : Nat} : group? w = some g ↔ Word g w := by
  have value : group? w = some g ↔ (w ≠ [] ∧ w.length ≤ 4) ∧
      ∃ ds, ((∀ d ∈ ds, d < 16) ∧ w.map Char.toLower = ds.map hexChar) ∧ Numeral.valueOf 16 ds = g := by
    unfold group?
    split
    · rename_i bad
      refine iff_of_false (by simp) ?_
      rintro ⟨⟨filled, short⟩, -⟩
      exact bad.elim filled (not_lt_of_ge short)
    · rename_i fits
      simp only [not_or, not_lt] at fits
      simp only [Option.map_eq_some_iff, mapM_hexValue?_eq_some_iff, fits, ne_eq, not_false_eq_true, true_and]
      rfl
  rw [value]
  constructor
  · rintro ⟨⟨filled, short⟩, ds, ⟨digits, same⟩, rfl⟩
    have wide : w.length = ds.length := by simpa using congrArg List.length same
    have pos : 0 < ds.length := wide ▸ List.length_pos_iff.mpr filled
    refine ⟨short, ds.length - (hexNumeral (Numeral.valueOf 16 ds)).length, ?_⟩
    rw [same, ← hexDigits_valueOf digits, hexDigits_eq_hexNumeral pos (valueOf_lt digits)]
  · rintro ⟨short, zeros, same⟩
    have wide := hexDigits_add zeros (lt_pow_length_hexNumeral g)
    have fits : g < 16 ^ (zeros + (hexNumeral g).length) :=
      (lt_pow_length_hexNumeral g).trans_le (Nat.pow_le_pow_right (by decide) (by omega))
    obtain ⟨ds, hlength, digits, rfl⟩ := exists_digits fits
    rw [← hlength, hexDigits_valueOf digits] at wide
    have numeral : hexDigits (hexNumeral (Numeral.valueOf 16 ds)).length (Numeral.valueOf 16 ds) =
        hexNumeral (Numeral.valueOf 16 ds) := by
      rw [hexNumeral, length_hexDigits]
    rw [numeral, ← same] at wide
    refine ⟨⟨?_, short⟩, ds, ⟨digits, wide.symm⟩, rfl⟩
    rintro rfl
    simp [hexNumeral, hexDigits] at same

theorem mapM_group?_eq_some_iff {ws : List (List Char)} {groups : List Nat} :
    ws.mapM group? = some groups ↔ List.Forall₂ Word groups ws := by
  simp only [mapM_eq_some_iff, group?_eq_some_iff]
  exact ⟨fun each => each.flip, fun each => each.flip⟩

theorem Word.ne_nil {g : Nat} {w : List Char} (h : Word g w) : w ≠ [] := by
  rintro rfl
  rw [← group?_eq_some_iff] at h
  cases h

/-- Words are made of digits. -/
theorem Word.mem {g : Nat} {w : List Char} (h : Word g w) {c : Char} (hc : c ∈ w) : (hexValue? c).isSome = true := by
  obtain ⟨zeros, digits⟩ := h.digits
  have lower : c.toLower ∈ List.replicate zeros '0' ++ hexNumeral g := digits ▸ List.mem_map_of_mem hc
  obtain ⟨d, hd, same⟩ : ∃ d < 16, c.toLower = hexChar d := by
    rcases List.mem_append.mp lower with zero | digit
    · exact ⟨0, by decide, List.eq_of_mem_replicate zero⟩
    · exact exists_of_mem_hexDigits digit
  rw [hexValue?_eq_some_iff.mpr ⟨hd, same⟩]
  rfl

/-- The numeral of a group is a word for it. -/
theorem word_hexNumeral {g : Nat} (h : g < 65536) : Word g (hexNumeral g) where
  short := length_hexNumeral_le (by decide) h
  digits := by
    refine ⟨0, List.map_congr_left ?_ |>.trans (List.map_id _)⟩
    intro c hc
    obtain ⟨d, hd, rfl⟩ := exists_of_mem_hexDigits hc
    exact toLower_hexChar hd

theorem word_unique {g g' : Nat} {w : List Char} (h : Word g w) (h' : Word g' w) : g = g' := by
  rw [← group?_eq_some_iff] at h h'
  exact Option.some.inj (h.symm.trans h')

theorem word_halves (x : V4) :
    Word x.halves.1 (hexNumeral x.halves.1) ∧ Word x.halves.2 (hexNumeral x.halves.2) := by
  obtain ⟨a, b, c, d⟩ := x
  exact ⟨word_hexNumeral (by simp only [V4.halves]; omega), word_hexNumeral (by simp only [V4.halves]; omega)⟩

/-! ## Rows -/

theorem undot_concat (front : List (List Char)) (last : List Char) :
    undot (front ++ [last]) =
      if last.contains '.' then (V4.parse? last).map fun x => front ++ [hexNumeral x.halves.1, hexNumeral x.halves.2]
      else some (front ++ [last]) := by
  simp only [undot, List.getLast?_concat, List.dropLast_concat]
  cases V4.parse? last <;> rfl

theorem undot_append {front parts : List (List Char)} (some : parts ≠ []) :
    undot (front ++ parts) = (undot parts).map (front ++ ·) := by
  obtain ⟨init, last, rfl⟩ : ∃ init last, parts = init ++ [last] :=
    ⟨parts.dropLast, parts.getLast some, (List.dropLast_append_getLast some).symm⟩
  rw [← List.append_assoc, undot_concat, undot_concat]
  split
  · simp only [Option.map_map, Function.comp_def, List.append_assoc]
  · rw [Option.map_some, List.append_assoc]

theorem undot_eq_some_iff {parts parts' : List (List Char)} :
    undot parts = some parts' ↔ (parts' = parts ∧ ∀ last ∈ parts.getLast?, '.' ∉ last) ∨
      ∃ front x, parts = front ++ [V4.text x] ∧ parts' = front ++ [hexNumeral x.halves.1, hexNumeral x.halves.2] := by
  rcases parts.eq_nil_or_concat with rfl | ⟨front, last, rfl⟩
  · simp [undot, @eq_comm _ [] parts']
  · rw [List.concat_eq_append, undot_concat]
    split
    · rename_i dot
      rw [List.contains_iff_mem] at dot
      simp only [Option.map_eq_some_iff, V4.parse?_eq_some_iff]
      constructor
      · rintro ⟨x, rfl, rfl⟩
        exact .inr ⟨front, x, rfl, rfl⟩
      · rintro (⟨-, none⟩ | ⟨front', x, same, rfl⟩)
        · exact absurd dot (none last (by simp))
        · obtain ⟨rfl, rfl⟩ := List.append_singleton_inj.mp same
          exact ⟨x, rfl, rfl⟩
    · rename_i dot
      rw [List.contains_iff_mem] at dot
      rw [Option.some.injEq, eq_comm]
      refine ⟨fun h => .inl ⟨h, by simpa using dot⟩, ?_⟩
      rintro (⟨h, -⟩ | ⟨front', x, same, -⟩)
      · exact h
      · obtain ⟨-, rfl⟩ := List.append_singleton_inj.mp same
        exact absurd (by simp [V4.text]) dot

/-- Rows are the parts out of which words come once the dots are gone. -/
theorem row_iff {groups : List Nat} {ws : List (List Char)} :
    Row groups ws ↔ ∃ ws', undot ws = some ws' ∧ List.Forall₂ Word groups ws' := by
  constructor
  · rintro (each | ⟨each, x⟩)
    · refine ⟨ws, undot_eq_some_iff.mpr (.inl ⟨rfl, fun last hlast dot => ?_⟩), each⟩
      obtain ⟨g, -, word⟩ := exists_left_of_forall₂ each (List.mem_of_getLast? hlast)
      exact absurd (word.mem dot) (by decide)
    · rename_i groups ws
      refine ⟨_, undot_eq_some_iff.mpr (.inr ⟨ws, x, rfl, rfl⟩), List.rel_append each ?_⟩
      exact .cons (word_halves x).1 (.cons (word_halves x).2 .nil)
  · rintro ⟨ws', undotted, each⟩
    rcases undot_eq_some_iff.mp undotted with ⟨rfl, -⟩ | ⟨front, x, rfl, rfl⟩
    · exact .words each
    · have init := List.forall₂_take_append groups front _ each
      have ends := List.forall₂_drop_append groups front _ each
      rw [← List.take_append_drop front.length groups]
      obtain ⟨high, rest, first, last, split⟩ := List.forall₂_cons_right_iff.mp ends
      obtain ⟨low, rest, second, none, rfl⟩ := List.forall₂_cons_right_iff.mp last
      obtain rfl := List.forall₂_nil_right_iff.mp none
      rw [split, word_unique first (word_halves x).1, word_unique second (word_halves x).2]
      exact .dotted init x

/-! ## Gaps -/

theorem mem_gaps {parts : List (List Char)} {i : Nat} :
    i ∈ gaps parts ↔ 0 < i ∧ i + 1 < parts.length ∧ parts.getD i [] = [] := by
  simp only [gaps, List.mem_filter, List.mem_range, Bool.and_eq_true, decide_eq_true_eq, List.isEmpty_iff]
  constructor
  · rintro ⟨-, ⟨later, inside⟩, empty⟩
    exact ⟨later, inside, empty⟩
  · rintro ⟨later, inside, empty⟩
    exact ⟨by omega, ⟨later, inside⟩, empty⟩

theorem gaps_eq_singleton_iff {parts : List (List Char)} {i : Nat} :
    gaps parts = [i] ↔ ∀ j, j ∈ gaps parts ↔ j = i := by
  have once : (gaps parts).Nodup := List.nodup_range.filter _
  rw [← List.perm_singleton, List.perm_ext_iff_of_nodup once (List.nodup_singleton i)]
  simp only [List.mem_singleton]

theorem gaps_eq_nil {parts : List (List Char)} (filled : ∀ part ∈ parts, part ≠ []) : gaps parts = [] := by
  rw [List.eq_nil_iff_forall_not_mem]
  intro i hi
  obtain ⟨-, inside, empty⟩ := mem_gaps.mp hi
  rw [List.getD_eq_getElem _ _ (by omega)] at empty
  exact filled _ (List.getElem_mem _) empty

/-- The parts on one side of two colons: an empty one if nothing is written there. -/
def edge (ws : List (List Char)) : List (List Char) := if ws = [] then [[]] else ws

theorem edge_ne_nil (ws : List (List Char)) : edge ws ≠ [] := by
  unfold edge
  split <;> simp_all

theorem mem_edge {ws : List (List Char)} {w : List Char} (h : w ∈ edge ws) : w = [] ∨ w ∈ ws := by
  unfold edge at h
  split at h
  · exact .inl (List.mem_singleton.mp h)
  · exact .inr h

theorem join_edge (ws : List (List Char)) : join [':'] (edge ws) = join [':'] ws := by
  unfold edge
  split
  · subst ws
    rfl
  · rfl

theorem dropEdge_edge {ws : List (List Char)} (filled : ∀ w ∈ ws, w ≠ []) : dropEdge (edge ws) = ws := by
  unfold edge
  split
  · subst ws
    rfl
  · refine if_neg ?_
    rintro rfl
    exact filled [] List.mem_cons_self rfl

theorem join_dropEdge (ws : List (List Char)) : join [':'] (dropEdge ws) = join [':'] ws := by
  unfold dropEdge
  split
  · subst ws
    rfl
  · rfl

theorem join_gap {front back : List (List Char)} (some : front ≠ []) (more : back ≠ []) :
    join [':'] (front ++ [] :: back) = join [':'] front ++ [':', ':'] ++ join [':'] back := by
  have rest : join [':'] ([] :: back) = ':' :: join [':'] back := intercalate_append (List.cons_ne_nil [] []) more
  rw [join, intercalate_append some (List.cons_ne_nil [] back), ← join, ← join, rest, List.append_assoc]
  rfl

theorem empty_of_edge {ws : List (List Char)} (filled : ∀ w ∈ ws, w ≠ []) {i : Nat} (inside : i < (edge ws).length)
    (empty : (edge ws).getD i [] = []) : i = 0 ∧ (edge ws).length = 1 := by
  rw [List.getD_eq_getElem _ _ inside] at empty
  by_cases h : ws = []
  · subst ws
    exact ⟨Nat.lt_one_iff.mp inside, rfl⟩
  · simp only [edge, if_neg h] at empty
    exact absurd empty (filled _ (List.getElem_mem _))

/-- The two colons are the only gap. -/
theorem gaps_edge {us ws : List (List Char)} (before : ∀ u ∈ us, u ≠ []) (after : ∀ w ∈ ws, w ≠ []) :
    gaps (edge us ++ [] :: edge ws) = [(edge us).length] := by
  rw [gaps_eq_singleton_iff]
  intro j
  rw [mem_gaps, List.length_append, List.length_cons]
  have left := List.length_pos_iff.mpr (edge_ne_nil us)
  have right := List.length_pos_iff.mpr (edge_ne_nil ws)
  constructor
  · rintro ⟨later, inside, empty⟩
    -- an empty part on either side is the first or the last one, which does not count
    rcases lt_trichotomy j (edge us).length with h | h | h
    · rw [List.getD_append _ _ _ _ h] at empty
      have := empty_of_edge before h empty
      omega
    · exact h
    · obtain ⟨k, rfl⟩ : ∃ k, j = (edge us).length + (k + 1) := ⟨j - (edge us).length - 1, by omega⟩
      rw [List.getD_append_right _ _ _ _ (by omega), Nat.add_sub_cancel_left, List.getD_cons_succ] at empty
      have := empty_of_edge after (by omega) empty
      omega
  · rintro rfl
    refine ⟨left, by omega, ?_⟩
    rw [List.getD_append_right _ _ _ _ le_rfl, Nat.sub_self, List.getD_cons_zero]

/-! ## Texts -/

/-- What the parts of a text stand for once the dots are gone. -/
inductive Stand : List Nat → List (List Char) → Prop where
  | whole {groups : List Nat} {parts : List (List Char)} (none : gaps parts = []) (all : parts.length = 8)
    (each : List.Forall₂ Word groups parts) : Stand groups parts
  | gap {front back : List Nat} {parts : List (List Char)} {i : Nat} (one : gaps parts = [i])
    (before : List.Forall₂ Word front (dropEdge (parts.take i)))
    (after : List.Forall₂ Word back (dropEdge (parts.drop (i + 1)))) (short : front.length + back.length ≤ 7) :
    Stand (front ++ List.replicate (8 - (front.length + back.length)) 0 ++ back) parts

theorem groups?_eq_some_iff_stand {s : List Char} {groups : List Nat} :
    groups? s = some groups ↔
      3 ≤ (splitAt ':' s).length ∧ ∃ parts, undot (splitAt ':' s) = some parts ∧ Stand groups parts := by
  unfold groups?
  dsimp only
  split
  · rename_i few
    refine iff_of_false (by simp [bind]) ?_
    rintro ⟨enough, -⟩
    omega
  · rename_i enough
    rw [not_lt] at enough
    simp only [enough, true_and, Option.bind_eq_bind, Option.bind_eq_some_iff]
    refine exists_congr fun parts => and_congr_right fun _ => ?_
    split
    · rename_i none
      rw [Option.ite_none_right_eq_some, mapM_group?_eq_some_iff]
      constructor
      · rintro ⟨all, each⟩
        exact .whole none all each
      · rintro (⟨-, all, each⟩ | ⟨one, -, -, -⟩)
        · exact ⟨all, each⟩
        · rw [none] at one
          cases one
    · rename_i i one
      simp only [Option.ite_none_left_eq_some, Option.bind_eq_some_iff, mapM_group?_eq_some_iff, not_lt]
      constructor
      · rintro ⟨short, front, before, back, after, same⟩
        cases same
        rw [← before.length_eq, ← after.length_eq] at short
        exact .gap one before after short
      · rintro (⟨none, -, -⟩ | ⟨one', before, after, short⟩)
        · rw [none] at one
          cases one
        · obtain rfl := List.singleton_inj.mp (one.symm.trans one')
          exact ⟨by rwa [← before.length_eq, ← after.length_eq], _, before, _, after, rfl⟩
    · rename_i some several
      refine iff_of_false (by simp) ?_
      rintro (⟨none, -, -⟩ | ⟨one, -, -, -⟩)
      · exact some none
      · exact several _ one

theorem filled_of_words {groups : List Nat} {ws : List (List Char)} (each : List.Forall₂ Word groups ws) :
    ∀ w ∈ ws, w ≠ [] := by
  intro w hw
  obtain ⟨g, -, word⟩ := exists_left_of_forall₂ each hw
  exact word.ne_nil

/-- A character of an address but for the colons. -/
def InGroup (c : Char) : Prop := (hexValue? c).isSome = true ∨ c = '.'

theorem inGroup_of_words {groups : List Nat} {ws : List (List Char)} (each : List.Forall₂ Word groups ws) :
    ∀ w ∈ ws, ∀ c ∈ w, InGroup c := by
  intro w hw c hc
  obtain ⟨g, -, word⟩ := exists_left_of_forall₂ each hw
  exact .inl (word.mem hc)

theorem inGroup_of_mem_text {x : V4} {c : Char} (h : c ∈ x.text) : InGroup c := by
  rcases V4.mem_text h with rfl | digit
  · exact .inr rfl
  · obtain ⟨d, rfl⟩ := V4.exists_digit digit
    have all : ∀ d : Fin 10, (hexValue? (Nat.digitChar d)).isSome = true := by decide
    exact .inl (all d)

theorem Row.inGroup {groups : List Nat} {ws : List (List Char)} (row : Row groups ws) :
    ∀ w ∈ ws, ∀ c ∈ w, InGroup c := by
  rcases row with each | ⟨each, x⟩
  · exact inGroup_of_words each
  · rw [List.forall_mem_append, List.forall_mem_singleton]
    exact ⟨inGroup_of_words each, fun c hc => inGroup_of_mem_text hc⟩

theorem not_inGroup_colon : ¬ InGroup ':' := by
  unfold InGroup
  decide

theorem stand_of_edges {front back : List Nat} {us ws : List (List Char)} (before : List.Forall₂ Word front us)
    (after : List.Forall₂ Word back ws) (short : front.length + back.length ≤ 7) :
    Stand (front ++ List.replicate (8 - (front.length + back.length)) 0 ++ back) (edge us ++ [] :: edge ws) := by
  refine .gap (gaps_edge (filled_of_words before) (filled_of_words after)) ?_ ?_ short
  · rwa [List.take_left, dropEdge_edge (filled_of_words before)]
  · rwa [← List.drop_drop, List.drop_left, List.drop_one, List.tail_cons, dropEdge_edge (filled_of_words after)]

theorem undot_edge {ws ws' : List (List Char)} (h : undot ws = some ws') : undot (edge ws) = some (edge ws') := by
  by_cases none : ws = []
  · subst ws
    cases h
    rfl
  · have some : ws' ≠ [] := by
      rcases undot_eq_some_iff.mp h with ⟨rfl, -⟩ | ⟨front, x, -, rfl⟩
      · exact none
      · simp
    rwa [edge, edge, if_neg none, if_neg some]

/-- All that is written so is read. -/
theorem groups?_of_written {s : List Char} {groups : List Nat} (h : Written groups s) : groups? s = some groups := by
  rw [groups?_eq_some_iff_stand]
  rcases h with ⟨row, all⟩ | ⟨before, after, short⟩
  · rename_i ws
    obtain ⟨ws', undotted, each⟩ := row_iff.mp row
    have wide : 3 ≤ ws.length := by
      rcases row with words | ⟨words, x⟩
      · rw [← words.length_eq]
        omega
      · rw [List.length_append, List.length_cons] at all ⊢
        rw [← words.length_eq]
        simp at all
        omega
    have split : splitAt ':' (join [':'] ws) = ws := by
      refine splitAt_intercalate ?_ fun w hw colon => not_inGroup_colon (row.inGroup w hw _ colon)
      rintro rfl
      simp at wide
    rw [split]
    exact ⟨wide, ws', undotted, .whole (gaps_eq_nil (filled_of_words each)) (each.length_eq ▸ all) each⟩
  · rename_i front back us ws
    obtain ⟨ws', undotted, each⟩ := row_iff.mp after
    have split : splitAt ':' (join [':'] us ++ [':', ':'] ++ join [':'] ws) = edge us ++ [] :: edge ws := by
      rw [← join_edge us, ← join_edge ws, ← join_gap (edge_ne_nil us) (edge_ne_nil ws)]
      refine splitAt_intercalate (by simp) fun w hw colon => ?_
      rw [List.mem_append, List.mem_cons] at hw
      rcases hw with hw | rfl | hw
      · rcases mem_edge hw with rfl | hw
        · cases colon
        · exact not_inGroup_colon (inGroup_of_words before w hw _ colon)
      · cases colon
      · rcases mem_edge hw with rfl | hw
        · cases colon
        · exact not_inGroup_colon (after.inGroup w hw _ colon)
    rw [split]
    refine ⟨?_, edge us ++ [] :: edge ws', ?_, stand_of_edges before each short⟩
    · have left := List.length_pos_iff.mpr (edge_ne_nil us)
      have right := List.length_pos_iff.mpr (edge_ne_nil ws)
      rw [List.length_append, List.length_cons]
      omega
    · have tail : undot ([[]] ++ edge ws) = some ([[]] ++ edge ws') := by
        rw [undot_append (edge_ne_nil ws), undot_edge undotted]
        rfl
      rw [undot_append (List.cons_ne_nil [] _), ← List.singleton_append, tail]
      rfl

theorem undot_dropEdge {ws ws' : List (List Char)} (h : undot ws = some ws') :
    undot (dropEdge ws) = some (dropEdge ws') := by
  by_cases lone : ws = [[]]
  · subst ws
    cases h
    rfl
  · have more : ws' ≠ [[]] := by
      rcases undot_eq_some_iff.mp h with ⟨rfl, -⟩ | ⟨front, x, -, rfl⟩
      · exact lone
      · intro same
        simpa using congrArg List.length same
    rwa [dropEdge, dropEdge, if_neg lone, if_neg more]

/-- An empty part inside was there before the dots went. -/
theorem exists_of_undot {parts front back : List (List Char)} (h : undot parts = some (front ++ [] :: back))
    (more : back ≠ []) : ∃ back', parts = front ++ [] :: back' ∧ undot back' = some back ∧ back' ≠ [] := by
  rcases undot_eq_some_iff.mp h with ⟨rfl, dotless⟩ | ⟨init, x, rfl, same⟩
  · refine ⟨back, rfl, undot_eq_some_iff.mpr (.inl ⟨rfl, fun last hlast => dotless last ?_⟩), more⟩
    rw [List.append_cons, List.getLast?_append, hlast]
    rfl
  · -- the words that stand for the dots are not empty, so the empty part is before them
    have digits := (word_halves x).1.ne_nil
    rcases List.append_eq_append_iff.mp same with ⟨rest, rfl, ends⟩ | ⟨rest, -, ends⟩
    · cases rest with
      | nil => exact absurd (List.cons.inj ends).1.symm digits
      | cons empty rest =>
        cases ends
        exact ⟨rest ++ [x.text], by simp, undot_eq_some_iff.mpr (.inr ⟨rest, x, rfl, rfl⟩), by simp⟩
    · have few := congrArg List.length ends
      have pos := List.length_pos_iff.mpr more
      simp only [List.length_append, List.length_cons, List.length_nil] at few
      obtain rfl : rest = [] := List.eq_nil_of_length_eq_zero (by omega)
      exact absurd (List.cons.inj ends).1 digits

/-- What is read is written so. -/
theorem written_of_groups? {s : List Char} {groups : List Nat} (h : groups? s = some groups) : Written groups s := by
  obtain ⟨wide, parts, undotted, stand⟩ := groups?_eq_some_iff_stand.mp h
  rcases stand with ⟨none, all, each⟩ | ⟨one, before, after, short⟩
  · have written := Written.whole (row_iff.mpr ⟨parts, undotted, each⟩) (each.length_eq.trans all)
    rwa [join, intercalate_splitAt] at written
  · rename_i front back i
    obtain ⟨later, inside, empty⟩ := mem_gaps.mp ((gaps_eq_singleton_iff.mp one i).mpr rfl)
    have split : parts = parts.take i ++ [] :: parts.drop (i + 1) := by
      rw [List.getD_eq_getElem _ _ (by omega)] at empty
      rw [← empty, List.getElem_cons_drop, List.take_append_drop]
    have some : parts.take i ≠ [] := List.ne_nil_of_length_pos (by rw [List.length_take]; omega)
    have more : parts.drop (i + 1) ≠ [] := List.ne_nil_of_length_pos (by rw [List.length_drop]; omega)
    rw [split] at undotted
    obtain ⟨back', parts', undotted', more'⟩ := exists_of_undot undotted more
    have row : Row back (dropEdge back') := row_iff.mpr ⟨_, undot_dropEdge undotted', after⟩
    have written := Written.gap before row short
    rwa [join_dropEdge, join_dropEdge, ← join_gap some more', ← parts', join, intercalate_splitAt] at written

theorem groups?_eq_some_iff {s : List Char} {groups : List Nat} : groups? s = some groups ↔ Written groups s :=
  ⟨written_of_groups?, groups?_of_written⟩

end V6

end InstallWatch.Address
