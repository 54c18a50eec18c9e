import Mathlib
import InstallWatch.Proofs.Yaml.Building
import InstallWatch.Proofs.Yaml.Lexer
import InstallWatch.Proofs.Yaml.Look

/-!
Texts without tags. Every node of their documents has the tag of its look or of its kind, so nothing but a number in
sixties does not fit.
-/

namespace InstallWatch.Yaml
open Scalar Composing

/-- A token that is no tag, and no plain scalar with a line feed at its end. -/
structure Token.Natural (t : Token) : Prop where
  untagged : ∀ tag, t ≠ .tag tag
  unbroken : t.Unbroken

/-- A node with a tag that nobody has written. -/
inductive Node.Natural : Node → Prop where
  | plain (s : String) (unbroken : s.toList.getLast? ≠ some '\n') : Natural (.scalar (Look.tagOf s) s)
  | quoted (s : String) : Natural (.scalar Tag.str s)
  | sequence (items : List NodeId) : Natural (.sequence Tag.seq items)
  | mapping (es : List NodeEntry) : Natural (.mapping Tag.map es)

theorem Node.natural_missing : Node.missing.Natural := .plain "" nofun

def Graph.Natural (g : Graph) : Prop := ∀ id, (g.node id).Natural

namespace Graph

theorem natural_empty : Graph.empty.Natural := fun _ => Node.natural_missing

theorem Natural.push {g : Graph} (h : g.Natural) {n : Node} (natural : n.Natural) : (g.push n).Natural := by
  intro id
  rcases Nat.lt_trichotomy id g.size with lt | rfl | gt
  · rw [node_push_of_lt lt]
    exact h id
  · rw [node_push_self]
    exact natural
  · have behind : g.nodes.size < id := gt
    have missing : (g.push n).node id = .missing := by
      simp [Graph.push, node, Array.getD, Nat.not_le_of_lt behind]
    rw [missing]
    exact Node.natural_missing

theorem Natural.set {g : Graph} (h : g.Natural) (id : NodeId) {n : Node} (natural : n.Natural) :
    (g.set id n).Natural := by
  intro other
  have either : (g.set id n).node other = n ∨ (g.set id n).node other = g.node other := by
    simp only [Graph.set, node, Array.getD_eq_getD_getElem?, Array.getElem?_setIfInBounds]
    split
    · split
      · exact .inl rfl
      · rename_i same out
        subst same
        exact .inr (by simp [Nat.le_of_not_lt out])
    · exact .inr rfl
  rcases either with same | same
  · rw [same]
    exact natural
  · rw [same]
    exact h other

end Graph

/-- Nothing of a document that is read so far, and nothing of what is left, has a tag that is written. -/
structure Progress.Natural (p : Progress) : Prop where
  tokens : ∀ t ∈ p.tokens, t.Natural
  graph : p.graph.Natural

/-- Where no tags are written, a step leaves it so, and its result is of a kind. -/
def Leaves {α : Type} (x : Composing α) (Q : α → Prop) : Prop :=
  ∀ p a p', p.Natural → x.run p = .ok (a, p') → p'.Natural ∧ Q a

namespace Leaves

variable {α β : Type} {Q : α → Prop} {R : β → Prop}

theorem pure {a : α} (h : Q a) : Leaves (Pure.pure a) Q := by
  intro p b p' natural run
  cases run
  exact ⟨natural, h⟩

theorem throw (stop : Stop) : Leaves (MonadExcept.throw stop : Composing α) Q := by
  intro p b p' _ run
  cases run

theorem refuse : Leaves (Composing.refuse : Composing α) Q := throw .malformed

theorem bind {x : Composing α} {f : α → Composing β} (hx : Leaves x Q) (hf : ∀ a, Q a → Leaves (f a) R) :
    Leaves (x >>= f) R := by
  intro p b p' natural run
  rw [StateT.run_bind] at run
  obtain ⟨⟨a, q⟩, hq, run⟩ := Results.bind_eq_ok_iff.mp run
  obtain ⟨between, ha⟩ := hx p a q natural hq
  exact hf a ha q b p' between run

theorem get : Leaves (MonadState.get : Composing Progress) Progress.Natural := by
  intro p a p' natural run
  cases run
  exact ⟨natural, natural⟩

theorem change {f : Progress → Progress} (h : ∀ p, p.Natural → (f p).Natural) :
    Leaves (modify f : Composing Unit) fun _ => True := by
  intro p a p' natural run
  cases run
  exact ⟨h p natural, trivial⟩

theorem peek : Leaves Composing.peek Token.Natural := by
  refine get.bind fun p natural => ?_
  split
  · rename_i t more tokens
    refine pure (natural.tokens t ?_)
    rw [tokens]
    exact List.mem_cons_self
  · exact throw _

theorem skip : Leaves Composing.skip fun _ => True :=
  change fun _ natural => ⟨fun t mem => natural.tokens t (List.mem_of_mem_tail mem), natural.graph⟩

theorem expect (t : Token) : Leaves (Composing.expect t) fun _ => True := by
  refine peek.bind fun next _ => ?_
  split
  · exact skip
  · exact refuse

theorem skipIf (t : Token) : Leaves (Composing.skipIf t) fun _ => True := by
  refine peek.bind fun next _ => ?_
  split
  · exact skip.bind fun _ _ => pure trivial
  · exact pure trivial

theorem add (anchor : Option String) {n : Node} (natural : n.Natural) :
    Leaves (Composing.add anchor n) fun _ => True := by
  have put : ∀ p : Progress, p.Natural → Leaves (do
      set { p with graph := p.graph.push n, anchors := (anchor.map (·, p.graph.size)).toList ++ p.anchors }
      return p.graph.size : Composing NodeId) fun _ => True := by
    intro p kept q a q' _ run
    cases run
    exact ⟨⟨kept.tokens, kept.graph.push natural⟩, trivial⟩
  refine get.bind fun p kept => ?_
  split
  · exact (refuse (Q := fun _ => True)).bind fun _ _ => put p kept
  · exact put p kept

theorem settle (id : NodeId) {n : Node} (natural : n.Natural) : Leaves (Composing.settle id n) fun _ => True :=
  change fun _ kept => ⟨kept.tokens, kept.graph.set id natural⟩

end Leaves

theorem missingNode_leaves : Leaves missingNode fun _ => True := .add none Node.natural_missing

theorem properties_leaves : Leaves properties fun r => r.2 = none := by
  refine .bind .peek fun t natural => ?_
  split
  · refine .bind .skip fun _ _ => .bind .peek fun t' natural' => ?_
    split
    · exact absurd rfl (natural'.untagged _)
    · exact .pure rfl
  · exact absurd rfl (natural.untagged _)
  · exact .pure rfl

theorem resolveTag_leaves (handles : Handles) : Leaves (resolveTag handles none) fun t => t = none := .pure rfl

theorem natural_scalar {s : String} {plain : Bool} (unbroken : (Token.scalar s plain).Unbroken) :
    (Node.scalar (scalarTag s plain none) s).Natural := by
  cases plain with
  | true => exact .plain s unbroken
  | false => exact .quoted s

/-- What the readers of nodes do when so many calls may be inside each other. -/
structure AllLeave (handles : Handles) (fuel : Nat) : Prop where
  node : ∀ room place, Leaves (node handles fuel room place) fun _ => True
  nodeUnless : ∀ room place enders, Leaves (nodeUnless handles fuel room place enders) fun _ => True
  blockItems : ∀ room done, Leaves (blockItems handles fuel room done) fun _ => True
  indentless : ∀ room done, Leaves (indentless handles fuel room done) fun _ => True
  blockEntries : ∀ room done, Leaves (blockEntries handles fuel room done) fun _ => True
  blockValue : ∀ room, Leaves (blockValue handles fuel room) fun _ => True
  flowItems : ∀ room first done, Leaves (flowItems handles fuel room first done) fun _ => True
  pairMapping : ∀ room, Leaves (pairMapping handles fuel room) fun _ => True
  flowEntries : ∀ room first done, Leaves (flowEntries handles fuel room first done) fun _ => True
  flowValue : ∀ room enders, Leaves (flowValue handles fuel room enders) fun _ => True

section
variable {handles : Handles} {fuel : Nat}

theorem allLeave_zero : AllLeave handles 0 := by
  constructor
  case node =>
    intros
    rw [Yaml.node]
    exact .refuse
  case nodeUnless =>
    intros
    rw [Yaml.nodeUnless]
    exact .refuse
  case blockItems =>
    intros
    rw [Yaml.blockItems]
    exact .refuse
  case indentless =>
    intros
    rw [Yaml.indentless]
    exact .refuse
  case blockEntries =>
    intros
    rw [Yaml.blockEntries]
    exact .refuse
  case blockValue =>
    intros
    rw [Yaml.blockValue]
    exact .refuse
  case flowItems =>
    intros
    rw [Yaml.flowItems]
    exact .refuse
  case pairMapping =>
    intros
    rw [Yaml.pairMapping]
    exact .refuse
  case flowEntries =>
    intros
    rw [Yaml.flowEntries]
    exact .refuse
  case flowValue =>
    intros
    rw [Yaml.flowValue]
    exact .refuse

theorem node_leaves (h : AllLeave handles fuel) (room : Nat) (place : Place) :
    Leaves (node handles (fuel + 1) room place) fun _ => True := by
  cases room with
  | zero =>
    rw [node]
    exact .throw _
  | succ room =>
    rw [node]
    refine .bind .peek fun t _ => ?_
    split
    · refine .bind .skip fun _ _ => .bind .get fun p _ => ?_
      split
      · exact .pure trivial
      · exact .refuse
    · refine properties_leaves.bind fun r written => ?_
      obtain ⟨anchor, tag⟩ := r
      subst written
      refine (resolveTag_leaves handles).bind fun tag none => ?_
      subst none
      have sequence (items : Composing (List NodeId)) (left : Leaves items fun _ => True) : Leaves (do
          let id ← add anchor (.sequence Tag.seq [])
          settle id (.sequence Tag.seq (← items))
          return id) fun _ => True := by
        refine (Leaves.add anchor (.sequence [])).bind fun id _ => left.bind fun ids _ => ?_
        exact (Leaves.settle id (.sequence ids)).bind fun _ _ => .pure trivial
      have mapping (entries : Composing (List NodeEntry)) (left : Leaves entries fun _ => True) : Leaves (do
          let id ← add anchor (.mapping Tag.map [])
          settle id (.mapping Tag.map (← entries))
          return id) fun _ => True := by
        refine (Leaves.add anchor (.mapping [])).bind fun id _ => left.bind fun es _ => ?_
        exact (Leaves.settle id (.mapping es)).bind fun _ _ => .pure trivial
      refine .bind .peek fun t natural => ?_
      split
      · exact sequence _ (h.indentless room [])
      · exact Leaves.skip.bind fun _ _ => .add anchor (natural_scalar natural.unbroken)
      · exact Leaves.skip.bind fun _ _ => sequence _ (h.flowItems room true [])
      · exact Leaves.skip.bind fun _ _ => mapping _ (h.flowEntries room true [])
      · exact Leaves.skip.bind fun _ _ => sequence _ (h.blockItems room [])
      · exact Leaves.skip.bind fun _ _ => sequence _ (h.blockItems room [])
      · exact Leaves.skip.bind fun _ _ => mapping _ (h.blockEntries room [])
      · exact Leaves.skip.bind fun _ _ => mapping _ (h.blockEntries room [])
      · dsimp only
        split
        · exact (Leaves.refuse (Q := fun _ => True)).bind fun _ _ => .add anchor Node.natural_missing
        · exact .add anchor Node.natural_missing

theorem nodeUnless_leaves (h : AllLeave handles fuel) (room : Nat) (place : Place) (enders : List Token) :
    Leaves (nodeUnless handles (fuel + 1) room place enders) fun _ => True := by
  rw [nodeUnless]
  refine .bind .peek fun t _ => ?_
  split
  · exact missingNode_leaves
  · exact h.node room place

theorem blockItems_leaves (h : AllLeave handles fuel) (room : Nat) (done : List NodeId) :
    Leaves (blockItems handles (fuel + 1) room done) fun _ => True := by
  rw [blockItems]
  refine .bind (.skipIf _) fun more _ => ?_
  split
  · exact (h.nodeUnless room _ _).bind fun n _ => h.blockItems room _
  · exact (Leaves.expect _).bind fun _ _ => .pure trivial

theorem indentless_leaves (h : AllLeave handles fuel) (room : Nat) (done : List NodeId) :
    Leaves (indentless handles (fuel + 1) room done) fun _ => True := by
  rw [indentless]
  refine .bind (.skipIf _) fun more _ => ?_
  split
  · exact (h.nodeUnless room _ _).bind fun n _ => h.indentless room _
  · exact .pure trivial

theorem blockEntries_leaves (h : AllLeave handles fuel) (room : Nat) (done : List NodeEntry) :
    Leaves (blockEntries handles (fuel + 1) room done) fun _ => True := by
  rw [blockEntries]
  refine .bind (.skipIf _) fun more _ => ?_
  split
  · refine (h.nodeUnless room _ _).bind fun k _ => ?_
    exact (h.blockValue room).bind fun v _ => h.blockEntries room _
  · exact (Leaves.expect _).bind fun _ _ => .pure trivial

theorem blockValue_leaves (h : AllLeave handles fuel) (room : Nat) :
    Leaves (blockValue handles (fuel + 1) room) fun _ => True := by
  rw [blockValue]
  refine .bind (.skipIf _) fun more _ => ?_
  split
  · exact h.nodeUnless room _ _
  · exact missingNode_leaves

theorem flowItems_leaves (h : AllLeave handles fuel) (room : Nat) (first : Bool) (done : List NodeId) :
    Leaves (flowItems handles (fuel + 1) room first done) fun _ => True := by
  have item : Leaves (do
      if ← skipIf .key then
        let id ← pairMapping handles fuel room
        flowItems handles fuel room false (id :: done)
      else if ← skipIf .flowSequenceEnd then return done.reverse
      else
        let n ← node handles fuel room .flow
        flowItems handles fuel room false (n :: done) : Composing (List NodeId)) fun _ => True := by
    refine .bind (.skipIf _) fun pair _ => ?_
    split
    · exact (h.pairMapping room).bind fun id _ => h.flowItems room false _
    · refine .bind (.skipIf _) fun ended _ => ?_
      split
      · exact .pure trivial
      · exact (h.node room .flow).bind fun n _ => h.flowItems room false _
  rw [flowItems]
  refine .bind (.skipIf _) fun ended _ => ?_
  split
  · exact .pure trivial
  · split
    · exact (Leaves.expect _).bind fun _ _ => item
    · exact item

theorem pairMapping_leaves (h : AllLeave handles fuel) (room : Nat) :
    Leaves (pairMapping handles (fuel + 1) room) fun _ => True := by
  cases room with
  | zero =>
    rw [pairMapping]
    exact .throw _
  | succ room =>
    rw [pairMapping]
    refine (Leaves.add none (.mapping [])).bind fun id _ => ?_
    refine (h.nodeUnless room _ _).bind fun k _ => ?_
    refine (h.flowValue room _).bind fun v _ => ?_
    exact (Leaves.settle id (.mapping _)).bind fun _ _ => .pure trivial

theorem flowEntries_leaves (h : AllLeave handles fuel) (room : Nat) (first : Bool) (done : List NodeEntry) :
    Leaves (flowEntries handles (fuel + 1) room first done) fun _ => True := by
  have entry : Leaves (do
      if ← skipIf .key then
        let k ← nodeUnless handles fuel room .flow [.value, .flowEntry, .flowMappingEnd]
        let v ← flowValue handles fuel room [.flowEntry, .flowMappingEnd]
        flowEntries handles fuel room false ((k, v) :: done)
      else if ← skipIf .flowMappingEnd then return done.reverse
      else
        let k ← node handles fuel room .flow
        let v ← missingNode
        flowEntries handles fuel room false ((k, v) :: done) : Composing (List NodeEntry)) fun _ => True := by
    refine .bind (.skipIf _) fun keyed _ => ?_
    split
    · refine (h.nodeUnless room _ _).bind fun k _ => ?_
      exact (h.flowValue room _).bind fun v _ => h.flowEntries room false _
    · refine .bind (.skipIf _) fun ended _ => ?_
      split
      · exact .pure trivial
      · refine (h.node room .flow).bind fun k _ => ?_
        exact missingNode_leaves.bind fun v _ => h.flowEntries room false _
  rw [flowEntries]
  refine .bind (.skipIf _) fun ended _ => ?_
  split
  · exact .pure trivial
  · split
    · exact (Leaves.expect _).bind fun _ _ => entry
    · exact entry

theorem flowValue_leaves (h : AllLeave handles fuel) (room : Nat) (enders : List Token) :
    Leaves (flowValue handles (fuel + 1) room enders) fun _ => True := by
  rw [flowValue]
  refine .bind (.skipIf _) fun more _ => ?_
  split
  · exact h.nodeUnless room _ enders
  · exact missingNode_leaves

theorem allLeave (fuel : Nat) : AllLeave handles fuel := by
  induction fuel with
  | zero => exact allLeave_zero
  | succ fuel ih =>
    exact ⟨node_leaves ih, nodeUnless_leaves ih, blockItems_leaves ih, indentless_leaves ih, blockEntries_leaves ih,
      blockValue_leaves ih, flowItems_leaves ih, pairMapping_leaves ih, flowEntries_leaves ih, flowValue_leaves ih⟩

end

/-! ## Documents -/

theorem directives_leaves (fuel : Nat) (versioned : Bool) (handles : Handles) :
    Leaves (directives fuel versioned handles) fun _ => True := by
  induction fuel generalizing versioned handles with
  | zero => exact .refuse
  | succ fuel ih =>
    rw [directives]
    refine .bind .peek fun t _ => ?_
    split
    · dsimp only
      split
      · exact (Leaves.refuse (Q := fun _ => True)).bind fun _ _ => Leaves.skip.bind fun _ _ => ih _ _
      · exact Leaves.skip.bind fun _ _ => ih _ _
    · dsimp only
      split
      · exact (Leaves.refuse (Q := fun _ => True)).bind fun _ _ => Leaves.skip.bind fun _ _ => ih _ _
      · exact Leaves.skip.bind fun _ _ => ih _ _
    · exact Leaves.skip.bind fun _ _ => ih _ _
    · exact .pure trivial

theorem inDocument_leaves {root : Composing NodeId} (h : Leaves root fun _ => True) :
    Leaves (inDocument root) fun d => d.graph.Natural := by
  have fresh : Leaves (modify fun p => { p with graph := .empty, anchors := [] } : Composing Unit) fun _ => True :=
    .change fun p natural => ⟨natural.tokens, Graph.natural_empty⟩
  refine fresh.bind fun _ _ => ?_
  exact h.bind fun id _ => Leaves.get.bind fun p natural => .pure natural.graph

theorem documentStart_leaves (fuel : Nat) : Leaves (documentStart fuel) fun _ => True :=
  (directives_leaves fuel false []).bind fun _ _ => (Leaves.expect _).bind fun _ _ => .pure trivial

theorem skipEnds_leaves (fuel : Nat) : Leaves (skipEnds fuel) fun _ => True := by
  induction fuel with
  | zero => exact .refuse
  | succ fuel ih =>
    refine .bind (.skipIf _) fun more _ => ?_
    split
    · exact ih
    · exact .pure trivial

/-- A document that is found has the tags of looks only. -/
def OnlyNatural (found : Option Document) : Prop := ∀ d ∈ found, d.graph.Natural

theorem onlyNatural_some {d : Document} (h : d.graph.Natural) : OnlyNatural (some d) := by
  intro d' mem
  cases mem
  exact h

/-- No tag is written in a text. -/
def Untagged (text : List Char) : Prop := ∀ t, .tag t ∉ (tokenize text).1

theorem natural_start {text : List Char} (h : Untagged text) : (Progress.start text).Natural where
  tokens t mem := by
    refine ⟨fun tag same => ?_, tokenize_unbroken text t mem⟩
    subst same
    exact h tag mem
  graph := Graph.natural_empty

/-- A node whose tag nobody has written does not fit only if it is a number in sixties with a huge place. -/
theorem Graph.Natural.hugePlace {g : Graph} (h : g.Natural) {id : NodeId} (misfit : g.MisfitAt id) :
    ∃ s, g.node id = .scalar (Look.tagOf s) s ∧ HugePlace s := by
  have natural := h id
  cases misfit with
  | scalar t s node misfit =>
    rw [node] at natural
    cases natural with
    | plain _ unbroken => exact ⟨s, node, hugePlace_of_look unbroken misfit⟩
    | quoted => exact absurd misfit (not_misfit_str s)
  | mapping t es node tag =>
    rw [node] at natural
    cases natural
    exact absurd tag (by decide +kernel)

variable [Room]

theorem bareDocument_leaves (fuel : Nat) : Leaves (bareDocument fuel) fun d => d.graph.Natural := by
  refine (inDocument_leaves ((allLeave fuel).node _ _)).bind fun d natural => ?_
  exact (Leaves.skipIf _).bind fun _ _ => .pure natural

theorem markedDocument_leaves (fuel : Nat) : Leaves (markedDocument fuel) fun d => d.graph.Natural := by
  refine (documentStart_leaves fuel).bind fun handles _ => ?_
  refine (inDocument_leaves ?_).bind fun d natural => (Leaves.skipIf _).bind fun _ _ => .pure natural
  refine .bind .peek fun t _ => ?_
  split
  · exact missingNode_leaves
  · exact missingNode_leaves
  · exact missingNode_leaves
  · exact missingNode_leaves
  · exact (allLeave fuel).node _ _

theorem firstDocument_leaves (fuel : Nat) : Leaves (firstDocument fuel) OnlyNatural := by
  refine .bind .peek fun t _ => ?_
  split
  · exact .pure nofun
  · exact (markedDocument_leaves fuel).bind fun d natural => .pure (onlyNatural_some natural)
  · exact (markedDocument_leaves fuel).bind fun d natural => .pure (onlyNatural_some natural)
  · exact (bareDocument_leaves fuel).bind fun d natural => .pure (onlyNatural_some natural)

theorem nextDocument_leaves (fuel : Nat) : Leaves (nextDocument fuel) OnlyNatural := by
  refine (skipEnds_leaves fuel).bind fun _ _ => .bind .peek fun t _ => ?_
  split
  · exact .pure nofun
  · exact (markedDocument_leaves fuel).bind fun d natural => .pure (onlyNatural_some natural)

theorem soleDocument_leaves (fuel : Nat) : Leaves (soleDocument fuel) OnlyNatural := by
  refine (firstDocument_leaves fuel).bind fun found natural => ?_
  split
  · exact .pure nofun
  · refine (skipEnds_leaves fuel).bind fun _ _ => .bind .peek fun t _ => ?_
    split
    · exact .pure natural
    · exact (documentStart_leaves fuel).bind fun _ _ => .refuse

theorem documentsFrom_natural {bound fuel : Nat} {next : Composing (Option Document)} {p : Progress}
    (h : Leaves next OnlyNatural) (kept : p.Natural) :
    ∀ d ∈ (documentsFrom bound fuel next p).1, d.graph.Natural := by
  induction fuel generalizing next p with
  | zero => exact nofun
  | succ fuel ih =>
    unfold documentsFrom
    cases hr : next.run p with
    | error stop => exact nofun
    | ok r =>
      obtain ⟨found, q⟩ := r
      obtain ⟨left, natural⟩ := h p found q kept hr
      cases found with
      | none => exact nofun
      | some d =>
        intro d' mem
        rcases List.mem_cons.mp mem with rfl | mem
        · exact natural _ rfl
        · exact ih (nextDocument_leaves bound) left d' mem

theorem documentsOf_natural {text : List Char} (h : Untagged text) :
    ∀ d ∈ (documentsOf text).1, d.graph.Natural :=
  documentsFrom_natural (firstDocument_leaves _) (natural_start h)

theorem soleDocuments_natural {text : List Char} (h : Untagged text) :
    ∀ d ∈ (soleDocuments text).1, d.graph.Natural := by
  unfold soleDocuments documentOf
  dsimp only
  cases hr : (soleDocument (callBound (Progress.start text).tokens)).run (Progress.start text) with
  | error stop => exact nofun
  | ok r =>
    obtain ⟨found, q⟩ := r
    obtain ⟨_, natural⟩ := soleDocument_leaves _ _ found q (natural_start h) hr
    intro d mem
    exact natural d (Option.mem_toList.mp mem)

/-- Documents without tags that are too much: nested too deep, with a chain of merges for which there is no room, or with
a character or a number out of bounds. -/
inductive Excessive (documents : List Document) (stop : Option Stop) : Prop where
  | hugeCharacter (huge : stop = some .hugeCharacter)
  | tooDeep (deep : stop = some .tooDeep)
  | chain (d : Document) (mem : d ∈ documents) (id : NodeId) (on : d.graph.MergesOn Room.merges id)
  | hugePlace (d : Document) (mem : d ∈ documents) (id : NodeId) (s : String)
      (node : d.graph.node id = .scalar (Look.tagOf s) s) (huge : HugePlace s)

theorem Astray.excessive {documents : List Document} {stop : Option Stop}
    (natural : ∀ d ∈ documents, d.graph.Natural) (h : Astray documents stop) : Excessive documents stop := by
  cases h with
  | hugeCharacter huge => exact .hugeCharacter huge
  | tooDeep deep => exact .tooDeep deep
  | strays d mem strays =>
    cases strays with
    | misfit id misfit =>
      obtain ⟨s, node, huge⟩ := (natural d mem).hugePlace misfit
      exact .hugePlace d mem id s node huge
    | chain id on => exact .chain d mem id on

end InstallWatch.Yaml
