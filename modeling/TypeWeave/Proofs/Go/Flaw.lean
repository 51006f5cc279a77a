import TypeWeave.Proofs.Go.Base

/-!
# The first flaw of a tree

The search for the first flaw goes down along the first child that is marked as flawed, until it is
at a flaw. In a tree whose marks are right no flaw is passed over on the way, and the way ends at a
flaw whenever there is one. Main statements: `search_root_iff`, by which the search ends with one
answer in any tree, and `firstFlaw_spec`, by which the answer is the first flaw in pre-order.
-/

namespace TypeWeave.Go.Node

/-- Whether a node is itself a flaw: text that does not follow the grammar, or a token that had to
be supplied. -/
def isFlaw (n : Node) : Bool := n.isError || n.isMissing

mutual

/-- The nodes of a tree in pre-order. -/
def preorder : Node → List Node
  | n@⟨_, _, _, _, _, _, _, _, _, children⟩ => n :: preorderAll children

/-- The nodes of some trees, one tree after the other. -/
def preorderAll : List Node → List Node
  | [] => []
  | n :: ns => preorder n ++ preorderAll ns

end

theorem preorderAll_eq (ns : List Node) : preorderAll ns = ns.flatMap preorder := by
  induction ns with
  | nil => rfl
  | cons n ns ih => rw [preorderAll, ih, List.flatMap_cons]

/-- A node stands before the nodes below it. -/
theorem preorder_eq (n : Node) : n.preorder = n :: n.children.flatMap preorder := by
  obtain ⟨⟩ := n
  rw [preorder, preorderAll_eq]

theorem self_mem_preorder (n : Node) : n ∈ n.preorder := by
  rw [preorder_eq]
  exact List.mem_cons_self

/-- The nodes below a child are below the node. -/
theorem mem_preorder_of_mem_children {n c m : Node} (hc : c ∈ n.children) (hm : m ∈ c.preorder) :
    m ∈ n.preorder := by
  rw [preorder_eq]
  exact List.mem_cons_of_mem _ (List.mem_flatMap.2 ⟨c, hc, hm⟩)

/-- The search as it runs, with what it answers. It stops at a flaw, goes down to the first child
that is marked as flawed, and gives up where there is none: with no answer at the root, and else
with the node that it has come to. -/
inductive Search : Bool → Node → Option Node → Prop
  | flaw {isRoot : Bool} {n : Node} (hn : n.isFlaw = true) : Search isRoot n (some n)
  | down {isRoot : Bool} {n c : Node} {answer : Option Node} (hn : n.isFlaw = false)
    (hc : n.children.find? isFlawed = some c) (hanswer : Search false c answer) :
    Search isRoot n answer
  | nowhere {root : Node} (hn : root.isFlaw = false)
    (hnone : root.children.find? isFlawed = none) : Search true root none
  | stuck {n : Node} (hn : n.isFlaw = false) (hnone : n.children.find? isFlawed = none) :
    Search false n (some n)

/-- What is looked for among some nodes is looked for in the first that is marked. -/
theorem flawAmong_eq (ns : List Node) : flawAmong ns = (ns.find? isFlawed).map flawIn := by
  induction ns with
  | nil => rfl
  | cons n ns ih =>
    rw [flawAmong, List.find?_cons]
    cases hn : n.isFlawed with
    | true => rfl
    | false => simpa using ih

/-- One turn of the search, below the root. -/
theorem flawIn_eq (n : Node) : flawIn n =
    if n.isFlaw then n else ((n.children.find? isFlawed).map flawIn).getD n := by
  obtain ⟨⟩ := n
  rw [flawIn, flawAmong_eq]
  rfl

/-- The first turn of the search. -/
theorem firstFlaw_eq (root : Node) : root.firstFlaw =
    if root.isFlaw then some root else (root.children.find? isFlawed).map flawIn := by
  rw [firstFlaw, flawAmong_eq]
  rfl

/-- Below the root the search ends, with one answer. -/
theorem search_inner_iff {n : Node} {answer : Option Node} :
    Search false n answer ↔ answer = some (flawIn n) := by
  induction n using Node.induction_children generalizing answer with
  | step n ih =>
    rw [flawIn_eq]
    constructor
    · intro h
      cases h with
      | flaw hn => rw [if_pos hn]
      | down hn hc hanswer =>
        have hdown := (ih _ (List.mem_of_find?_eq_some hc)).1 hanswer
        rw [if_neg (by simp [hn]), hc, hdown]
        rfl
      | stuck hn hnone =>
        rw [if_neg (by simp [hn]), hnone]
        rfl
    · rintro rfl
      cases hn : n.isFlaw with
      | true => exact .flaw hn
      | false =>
        cases hc : n.children.find? isFlawed with
        | none => exact .stuck hn hc
        | some c => exact .down hn hc ((ih c (List.mem_of_find?_eq_some hc)).2 rfl)

/-- From the root the search ends, with one answer. -/
theorem search_root_iff {root : Node} {answer : Option Node} :
    Search true root answer ↔ answer = root.firstFlaw := by
  rw [firstFlaw_eq]
  constructor
  · intro h
    cases h with
    | flaw hn => rw [if_pos hn]
    | down hn hc hanswer =>
      rw [if_neg (by simp [hn]), hc, search_inner_iff.1 hanswer]
      rfl
    | nowhere hn hnone =>
      rw [if_neg (by simp [hn]), hnone]
      rfl
  · rintro rfl
    cases hn : root.isFlaw with
    | true => exact .flaw hn
    | false =>
      cases hc : root.children.find? isFlawed with
      | none => exact .nowhere hn hc
      | some c => exact .down hn hc (search_inner_iff.2 rfl)

/-- A tree each node of which is marked when there is a flaw at or below it, and only then. -/
def IsMarked (root : Node) : Prop :=
  ∀ n ∈ root.preorder, n.hasError = true ↔ ∃ m ∈ n.preorder, m.isError = true ∨ m.isMissing = true

instance : DecidablePred IsMarked := fun root =>
  inferInstanceAs (Decidable (∀ n ∈ root.preorder, _ ↔ _))

namespace IsMarked

variable {n : Node} (h : n.IsMarked)
include h

/-- The marks below a child are right too. -/
theorem child {c : Node} (hc : c ∈ n.children) : c.IsMarked :=
  fun m hm => h m (mem_preorder_of_mem_children hc hm)

/-- A node counts as flawed when there is a flaw at or below it. -/
theorem isFlawed_iff : n.isFlawed = true ↔ ∃ m ∈ n.preorder, m.isFlaw = true := by
  have hmark : n.hasError = true ↔ ∃ m ∈ n.preorder, m.isFlaw = true := by
    simpa only [isFlaw, Bool.or_eq_true] using h n n.self_mem_preorder
  have hself : n.isFlaw = true → n.hasError = true :=
    fun hn => hmark.2 ⟨n, n.self_mem_preorder, hn⟩
  rw [← hmark]
  unfold isFlawed
  rw [Bool.or_eq_true]
  exact ⟨fun hn => hn.elim hself id, Or.inr⟩

/-- Where no node counts as flawed there is no flaw. -/
theorem find?_preorder_eq_none (hn : n.isFlawed = false) : n.preorder.find? isFlaw = none := by
  rw [List.find?_eq_none]
  intro m hm hflaw
  have := h.isFlawed_iff.2 ⟨m, hm, hflaw⟩
  rw [hn] at this
  cases this

end IsMarked

/-- The first flaw of some trees is that of the first tree that counts as flawed, since there is
none in those before it. -/
theorem find?_flatMap_preorder {ns : List Node} (hmarked : ∀ n ∈ ns, n.IsMarked)
    (hfirst : ∀ n ∈ ns, n.isFlawed = true → n.preorder.find? isFlaw = some (flawIn n)) :
    (ns.flatMap preorder).find? isFlaw = (ns.find? isFlawed).map flawIn := by
  induction ns with
  | nil => rfl
  | cons n ns ih =>
    obtain ⟨hn, hns⟩ := List.forall_mem_cons.1 hmarked
    obtain ⟨hfirst, hothers⟩ := List.forall_mem_cons.1 hfirst
    rw [List.flatMap_cons, List.find?_append, List.find?_cons]
    cases hflawed : n.isFlawed with
    | true =>
      rw [hfirst hflawed]
      rfl
    | false =>
      rw [hn.find?_preorder_eq_none hflawed, Option.none_or]
      exact ih hns hothers

/-- From a node that counts as flawed the search comes to the first flaw. -/
theorem IsMarked.find?_preorder {n : Node} (h : n.IsMarked) (hn : n.isFlawed = true) :
    n.preorder.find? isFlaw = some (flawIn n) := by
  induction n using Node.induction_children with
  | step n ih =>
    have hchildren := find?_flatMap_preorder (fun c hc => h.child hc)
      fun c hc => ih c hc (h.child hc)
    rw [preorder_eq, List.find?_cons, hchildren, flawIn_eq]
    cases hflaw : n.isFlaw with
    | true => rfl
    | false =>
      obtain ⟨m, hm, hmflaw⟩ := h.isFlawed_iff.1 hn
      rw [preorder_eq, List.mem_cons] at hm
      rcases hm with rfl | hm
      · rw [hflaw] at hmflaw
        cases hmflaw
      · obtain ⟨c, hc, hm⟩ := List.mem_flatMap.1 hm
        have hcflawed := (h.child hc).isFlawed_iff.2 ⟨m, hm, hmflaw⟩
        have hsome : (n.children.find? isFlawed).isSome = true :=
          List.find?_isSome.2 ⟨c, hc, hcflawed⟩
        obtain ⟨c', hc'⟩ := Option.isSome_iff_exists.1 hsome
        simp [hc']

/-- The search finds the first flaw. -/
theorem IsMarked.firstFlaw_eq_find? {root : Node} (h : root.IsMarked) :
    root.firstFlaw = root.preorder.find? isFlaw := by
  have hchildren := find?_flatMap_preorder (fun c hc => h.child hc)
    fun c hc => (h.child hc).find?_preorder
  rw [firstFlaw_eq, preorder_eq, List.find?_cons, hchildren]
  cases root.isFlaw <;> rfl

/-- What the search comes to in a tree whose marks are right: it ends with one answer, the first
flaw in pre-order, and has none exactly when there is no flaw. The place that is told is that of the
first flaw, or the start of the file; a file whose tree is marked is refused at the place of its
first flaw. -/
theorem firstFlaw_spec {root : Node} (h : root.IsMarked) :
    (∀ answer, Search true root answer ↔ answer = root.firstFlaw) ∧
      (∀ n, root.firstFlaw = some n ↔ (n.isError = true ∨ n.isMissing = true) ∧
        ∃ before after, root.preorder = before ++ n :: after ∧
          ∀ m ∈ before, m.isError = false ∧ m.isMissing = false) ∧
      (root.firstFlaw = none ↔ ∀ n ∈ root.preorder, n.isError = false ∧ n.isMissing = false) ∧
      (∀ n, root.firstFlaw = some n → root.flawPosition = (n.row + 1, n.column + 1)) ∧
      (root.firstFlaw = none → root.flawPosition = (1, 1)) ∧
      ∀ file, root.hasError = true → ∃ n, root.firstFlaw = some n ∧
        Extraction.contents root file =
          .error (.source file (n.row + 1) (n.column + 1) "syntax error") := by
  have hclean (n : Node) : n.isFlaw = false ↔ n.isError = false ∧ n.isMissing = false :=
    Bool.or_eq_false_iff
  have hfound (n : Node) (hn : root.firstFlaw = some n) :
      root.flawPosition = (n.row + 1, n.column + 1) := by
    rw [flawPosition, hn]
    rfl
  refine ⟨fun answer => search_root_iff, fun n => ?_, ?_, hfound, fun hnone => ?_,
    fun file hmark => ?_⟩
  · rw [h.firstFlaw_eq_find?, List.find?_eq_some_iff_append]
    simp [isFlaw]
  · rw [h.firstFlaw_eq_find?, List.find?_eq_none]
    simp [hclean]
  · rw [flawPosition, hnone]
    rfl
  · obtain ⟨n, hn⟩ : ∃ n, root.firstFlaw = some n := by
      have hflawed : root.isFlawed = true := by simp [isFlawed, hmark]
      exact ⟨flawIn root, by rw [h.firstFlaw_eq_find?, h.find?_preorder hflawed]⟩
    refine ⟨n, hn, ?_⟩
    rw [Extraction.contents, if_pos hmark, hfound n hn]
    rfl

/-- A tree with a token that had to be supplied inside its second child and an error behind it. -/
def flawedTree : Node where
  kind := "source_file"
  hasError := true
  children := [
    { kind := "package_clause", children := [{ kind := "package", isNamed := false }] },
    { kind := "type_declaration", row := 2, hasError := true, children := [
      { kind := "type_spec", row := 2, column := 5 },
      { kind := "\x7d", row := 4, column := 7, isMissing := true, hasError := true,
        isNamed := false }] },
    { kind := "ERROR", row := 6, isError := true, hasError := true }]

/-- The token that had to be supplied comes before the error, though it is further down. -/
theorem firstFlaw_spec_flawedTree : flawedTree.IsMarked ∧ flawedTree.hasError = true ∧
    flawedTree.flawPosition = (5, 8) ∧ ∀ file, Extraction.contents flawedTree file =
      .error (.source file 5 8 "syntax error") := by
  have hmarked : flawedTree.IsMarked := by decide
  obtain ⟨-, -, -, hposition, -, hcontents⟩ := firstFlaw_spec hmarked
  have hfound : ∃ n, flawedTree.firstFlaw = some n ∧ n.row = 4 ∧ n.column = 7 := ⟨_, rfl, rfl, rfl⟩
  obtain ⟨n, hn, hrow, hcolumn⟩ := hfound
  refine ⟨hmarked, rfl, by rw [hposition n hn, hrow, hcolumn]; rfl, fun file => ?_⟩
  obtain ⟨m, hm, hrefused⟩ := hcontents file rfl
  obtain rfl := Option.some.inj (hn.symm.trans hm)
  rw [hrefused, hrow, hcolumn]
  rfl

end TypeWeave.Go.Node
