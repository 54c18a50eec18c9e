import Mathlib
import InstallWatch.Proofs.Yaml.Stray

/-!
Plain scalars as the lexer cuts them end in a word, and so without a line break.
-/

namespace InstallWatch.Yaml
open Cursor

/-- A token that is no plain scalar with a line feed at its end. -/
def Token.Unbroken : Token → Prop
  | .scalar s true => s.toList.getLast? ≠ some '\n'
  | _ => True

/-! ## Words -/

theorem getLast?_ofChars (s : List Char) : (Text.ofChars s).getLast? = s.getLast? := by
  rcases List.eq_nil_or_concat s with rfl | ⟨init, c, rfl⟩
  · rfl
  · have last : (Text.genuine c).getLast? = some c := by
      unfold Text.genuine
      split <;> rfl
    simp [Text.ofChars, List.flatMap_append, last]

theorem ne_break_of_not_endsPlain {inFlow : Bool} {c next : Char} (h : endsPlain inFlow c next = false) :
    c ≠ '\n' := by
  intro same
  subst same
  simp [endsPlain, isBlankOrEnd, isSpaceOrEnd, isBreakOrEnd, isBreak] at h

/-- The characters of a word are no line feeds. -/
theorem ne_break_of_mem_word {inFlow : Bool} {s : List Char} {c : Char}
    (mem : c ∈ s.take (plainLength inFlow s)) : c ≠ '\n' := by
  induction s with
  | nil => cases mem
  | cons d s ih =>
    unfold plainLength at mem
    split at mem
    · cases mem
    · rename_i goesOn
      rw [List.take_succ_cons] at mem
      rcases List.mem_cons.mp mem with rfl | mem
      · exact ne_break_of_not_endsPlain (by simpa using goesOn)
      · exact ih mem

/-- Behind a word, what has been read does not end in a line feed. -/
theorem head?_word {inFlow : Bool} {s : List Char} (some : plainLength inFlow s ≠ 0) (before : List Char) :
    ((s.take (plainLength inFlow s)).reverse ++ before).head? ≠ .some '\n' := by
  intro ends
  have filled : s ≠ [] := by
    intro empty
    subst empty
    exact some rfl
  have word : s.take (plainLength inFlow s) ≠ [] := by simp [filled, some]
  rw [List.head?_append_of_ne_nil _ (by simpa using word), List.head?_reverse] at ends
  exact ne_break_of_mem_word (List.mem_of_getLast? ends) rfl

theorem plainWords_unbroken {inFlow : Bool} {indent : Int} {fuel : Nat} {c : Cursor} {done gap : List Char}
    {broken : Bool} (h : done.head? ≠ some '\n') :
    (plainWords inFlow indent fuel c done gap broken).1.getLast? ≠ some '\n' := by
  induction fuel generalizing c done gap broken with
  | zero =>
    unfold plainWords
    rw [List.getLast?_reverse]
    exact h
  | succ fuel ih =>
    unfold plainWords
    dsimp only
    split
    · rw [if_pos rfl, List.getLast?_reverse]
      exact h
    · split
      · rw [List.getLast?_reverse]
        exact h
      · rename_i some
        have next := head?_word some (gap.reverse ++ done)
        split
        · rw [List.getLast?_reverse]
          exact next
        · split
          · rw [List.getLast?_reverse]
            exact next
          · exact ih next

theorem unbroken_plain {inFlow : Bool} {indent : Int} {fuel : Nat} {c : Cursor} {broken : Bool} :
    (Token.scalar (String.ofList (Text.ofChars (plainWords inFlow indent fuel c [] [] broken).1)) true).Unbroken := by
  show (String.ofList _).toList.getLast? ≠ _
  rw [String.toList_ofList, getLast?_ofChars]
  exact plainWords_unbroken nofun

/-! ## Steps of the lexer -/

namespace Lexer

/-- All tokens so far are unbroken. -/
def Unbroken (l : Lexer) : Prop := ∀ t ∈ l.tokens, t.Unbroken

/-- A step after which all tokens are unbroken. -/
def EndsUnbroken (r : Except Stop Lexer) : Prop := ∀ l, r = .ok l → l.Unbroken

theorem endsUnbroken_error (stop : Stop) : EndsUnbroken (.error stop) := nofun

theorem endsUnbroken_ok {l : Lexer} (h : l.Unbroken) : EndsUnbroken (.ok l) := by
  intro l' same
  cases same
  exact h

theorem EndsUnbroken.bind {α : Type} {Q : α → Prop} {r : Except Stop α} {f : α → Except Stop Lexer}
    (hr : ∀ a, r = .ok a → Q a) (hf : ∀ a, Q a → EndsUnbroken (f a)) : EndsUnbroken (r >>= f) := by
  intro l same
  obtain ⟨a, ha, same⟩ := Results.bind_eq_ok_iff.mp same
  exact hf a (hr a ha) l same

section
variable {l : Lexer}

theorem Unbroken.of_tokens {l' : Lexer} (h : l.Unbroken) (same : l'.tokens = l.tokens) : l'.Unbroken := by
  intro t mem
  exact h t (same ▸ mem)

theorem Unbroken.push (h : l.Unbroken) {t : Token} (unbroken : t.Unbroken) : (l.push t).Unbroken := by
  intro t' mem
  rcases List.mem_cons.mp mem with rfl | mem
  · exact unbroken
  · exact h t' mem

theorem Unbroken.insert (h : l.Unbroken) (position : Nat) {t : Token} (unbroken : t.Unbroken) :
    (l.insert position t).Unbroken := by
  intro t' mem
  rcases List.mem_append.mp mem with mem | mem
  · exact h t' (List.mem_of_mem_take mem)
  · rcases List.mem_cons.mp mem with rfl | mem
    · exact unbroken
    · exact h t' (List.mem_of_mem_drop mem)

theorem Unbroken.unwind (h : l.Unbroken) (column : Int) : (l.unwind column).Unbroken := by
  unfold Lexer.unwind
  split
  · exact h
  · dsimp only
    split
    · intro t mem
      rcases List.mem_append.mp mem with mem | mem
      · rw [(List.mem_replicate.mp mem).2]
        trivial
      · exact h t mem
    · exact h

theorem tokens_skipToToken (fuel : Nat) (l : Lexer) : (skipToToken fuel l).tokens = l.tokens := by
  induction fuel generalizing l with
  | zero => rfl
  | succ fuel ih =>
    unfold skipToToken
    dsimp only
    split
    · rw [ih]
      split <;> rfl
    · rfl

theorem tokens_indentTo (l : Lexer) (column : Int) : (l.indentTo column).1.tokens = l.tokens := by
  unfold indentTo
  split <;> rfl

theorem dropKey_unbroken (h : l.Unbroken) : EndsUnbroken l.dropKey := by
  unfold dropKey
  split
  · exact endsUnbroken_ok h
  · split
    · exact endsUnbroken_error _
    · exact endsUnbroken_ok (h.of_tokens rfl)

theorem markKey_unbroken (h : l.Unbroken) : EndsUnbroken l.markKey := by
  unfold markKey
  split
  · exact .bind (dropKey_unbroken h) fun l' h => endsUnbroken_ok (h.of_tokens rfl)
  · exact endsUnbroken_ok h

theorem dropStale_unbroken (h : l.Unbroken) : EndsUnbroken l.dropStale := by
  unfold dropStale
  split
  · exact endsUnbroken_error _
  · exact endsUnbroken_ok (h.of_tokens rfl)

theorem closeAll_unbroken (h : l.Unbroken) : EndsUnbroken l.closeAll :=
  .bind (dropKey_unbroken (h.unwind (-1))) fun _ h => endsUnbroken_ok (h.of_tokens rfl)

theorem marker_unbroken (h : l.Unbroken) {t : Token} (unbroken : t.Unbroken) : EndsUnbroken (l.marker t) :=
  .bind (closeAll_unbroken h) fun _ h => endsUnbroken_ok (.push (h.of_tokens rfl) unbroken)

theorem flowStart_unbroken (h : l.Unbroken) {t : Token} (unbroken : t.Unbroken) : EndsUnbroken (l.flowStart t) :=
  .bind (markKey_unbroken h) fun _ h => endsUnbroken_ok (.push (h.of_tokens rfl) unbroken)

theorem flowEnd_unbroken (h : l.Unbroken) {t : Token} (unbroken : t.Unbroken) : EndsUnbroken (l.flowEnd t) :=
  .bind (dropKey_unbroken h) fun _ h => endsUnbroken_ok (.push (h.of_tokens rfl) unbroken)

/-- A mark of which a simple key that may start here is given up. -/
theorem mark_unbroken (h : l.Unbroken) (allowed : Bool) {t : Token} (unbroken : t.Unbroken) :
    EndsUnbroken (do
      let l ← (l.allow allowed).dropKey
      return (l.goto l.cursor.step).push t) :=
  .bind (dropKey_unbroken (h.of_tokens rfl)) fun _ h => endsUnbroken_ok (.push (h.of_tokens rfl) unbroken)

theorem openBlock_unbroken (h : l.Unbroken) {t : Token} (unbroken : t.Unbroken) : EndsUnbroken (l.openBlock t) := by
  unfold openBlock
  split
  · exact endsUnbroken_ok h
  · split
    · exact endsUnbroken_error _
    · have opened := h.of_tokens (tokens_indentTo l l.cursor.column)
      split
      · rename_i l' indented
        rw [indented] at opened
        exact endsUnbroken_ok (opened.push unbroken)
      · rename_i l' indented
        rw [indented] at opened
        exact endsUnbroken_ok opened

theorem blockEntry_unbroken (h : l.Unbroken) : EndsUnbroken l.blockEntry :=
  .bind (openBlock_unbroken h trivial) fun _ h => mark_unbroken h true trivial

theorem explicitKey_unbroken (h : l.Unbroken) : EndsUnbroken l.explicitKey :=
  .bind (openBlock_unbroken h trivial) fun _ h => mark_unbroken h _ trivial

theorem value_unbroken (h : l.Unbroken) : EndsUnbroken l.value := by
  unfold value
  split
  · rename_i k _
    dsimp only
    refine endsUnbroken_ok (.push (Unbroken.of_tokens ?_ rfl) trivial)
    have keyed : Unbroken (insert { l with keys := l.keys.filter fun e => e.1 ≠ l.flow } k.position .key) :=
      Unbroken.insert (h.of_tokens rfl) k.position trivial
    split
    · exact keyed
    · have opened := keyed.of_tokens (tokens_indentTo _ k.column)
      split
      · rename_i l' indented
        rw [indented] at opened
        exact opened.insert k.position trivial
      · rename_i l' indented
        rw [indented] at opened
        exact opened
  · exact .bind (openBlock_unbroken h trivial) fun l' h => mark_unbroken h _ trivial

theorem word_unbroken (h : l.Unbroken) {read : Cursor → Except Stop (Token × Cursor)}
    (reads : ∀ c r, read c = .ok r → r.1.Unbroken) : EndsUnbroken (l.word read) := by
  refine .bind (markKey_unbroken h) fun l' h => .bind (reads l'.cursor) fun r unbroken => ?_
  exact endsUnbroken_ok (.push (h.of_tokens rfl) unbroken)

/-- A token that is read is of the kind that is asked for. -/
theorem word_map_unbroken (h : l.Unbroken) {α : Type} {f : α → Token} (unbroken : ∀ a, (f a).Unbroken)
    {read : Cursor → Except Stop (α × Cursor)} :
    EndsUnbroken (l.word fun c => (read c).map fun (a, c) => (f a, c)) := by
  refine word_unbroken h fun c r hr => ?_
  cases hc : read c with
  | error stop => simp [hc, Except.map] at hr
  | ok found =>
    rw [hc] at hr
    cases hr
    exact unbroken found.1

theorem plain_unbroken (h : l.Unbroken) : EndsUnbroken l.plain :=
  .bind (markKey_unbroken h) fun _ h => endsUnbroken_ok (.push (h.of_tokens rfl) unbroken_plain)

theorem block_unbroken (h : l.Unbroken) : EndsUnbroken l.block := by
  refine .bind (dropKey_unbroken (h.of_tokens rfl)) fun l' h => ?_
  refine EndsUnbroken.bind (fun _ _ => trivial) fun r (_ : True) => ?_
  exact endsUnbroken_ok (.push (h.of_tokens rfl) trivial)

theorem token_unbroken (h : l.Unbroken) : EndsUnbroken l.token := by
  unfold token
  dsimp only
  split
  · refine .bind (closeAll_unbroken h) fun l' h => ?_
    refine EndsUnbroken.bind (fun _ _ => trivial) fun r (_ : True) => ?_
    exact endsUnbroken_ok (.push (h.of_tokens rfl) trivial)
  split
  · refine marker_unbroken h ?_
    split <;> trivial
  split
  · exact flowStart_unbroken h trivial
  · exact flowStart_unbroken h trivial
  · exact flowEnd_unbroken h trivial
  · exact flowEnd_unbroken h trivial
  · exact mark_unbroken h true trivial
  · exact word_map_unbroken (f := Token.alias) h fun _ => trivial
  · exact word_map_unbroken (f := Token.anchor) h fun _ => trivial
  · exact word_map_unbroken (f := Token.tag) h fun _ => trivial
  · exact word_map_unbroken (f := (.scalar · false)) h fun _ => trivial
  · exact word_map_unbroken (f := (.scalar · false)) h fun _ => trivial
  · split
    · exact blockEntry_unbroken h
    split
    · exact explicitKey_unbroken h
    split
    · exact value_unbroken h
    split
    · exact block_unbroken h
    split
    · exact plain_unbroken h
    · exact endsUnbroken_error _

theorem fetch_unbroken (h : l.Unbroken) {r : Lexer × Bool} (fetched : l.fetch = .ok r) : r.1.Unbroken := by
  obtain ⟨l', stale, fetched⟩ := Results.bind_eq_ok_iff.mp fetched
  have h := dropStale_unbroken (h.of_tokens (tokens_skipToToken l.bound l)) l' stale
  have h := h.unwind l'.cursor.column
  dsimp only at fetched
  split at fetched
  · obtain ⟨l'', closed, fetched⟩ := Results.bind_eq_ok_iff.mp fetched
    cases fetched
    exact .push (closeAll_unbroken h l'' closed) trivial
  · obtain ⟨l'', token, fetched⟩ := Results.bind_eq_ok_iff.mp fetched
    cases fetched
    exact token_unbroken h l'' token

theorem settled_unbroken (h : l.Unbroken) : ∀ t ∈ l.settled, t.Unbroken := by
  intro t mem
  exact h t (List.mem_reverse.mp (List.mem_of_mem_take mem))

theorem run_unbroken {fuel : Nat} (h : l.Unbroken) : ∀ t ∈ (l.run fuel).1, t.Unbroken := by
  induction fuel generalizing l with
  | zero => exact settled_unbroken h
  | succ fuel ih =>
    unfold run
    split
    · exact settled_unbroken h
    · rename_i l' fetched
      intro t mem
      exact fetch_unbroken h fetched t (List.mem_reverse.mp mem)
    · rename_i l' fetched
      exact ih (fetch_unbroken h fetched)

end

theorem ofText_unbroken (s : List Char) : (Lexer.ofText s).Unbroken := by
  unfold ofText
  split <;> exact nofun

end Lexer

/-- No plain scalar of a text ends in a line feed. -/
theorem tokenize_unbroken (text : List Char) : ∀ t ∈ (tokenize text).1, t.Unbroken := by
  unfold tokenize tokensOf
  split
  · split
    · exact Lexer.run_unbroken (Lexer.ofText_unbroken _)
    · exact nofun
  · exact nofun

end InstallWatch.Yaml
