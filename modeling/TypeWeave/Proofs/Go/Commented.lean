import TypeWeave.Proofs.Go.Extraction

/-!
# Comments in syntax trees

A comment may stand among the children of any node of a tree. What is picked by its role or its kind
is picked from a tree with more comments too. The base of a pointer or a generic type is another
matter: without a role of its own it is the first child, and a comment in front of it hides it.
Main statements: `embeddedName_eq_iff` and `nesting_le_of_commented`.
-/

namespace TypeWeave.Go

open Abstract

/-- A comment, as a child of another node. -/
structure Node.IsComment (n : Node) : Prop where
  kind : n.kind = "comment"
  isNamed : n.isNamed = true
  field : n.field = none
  children : n.children = []

/-- A tree, and the tree with comments put among the children of its nodes. -/
inductive Commented : Node → Node → Prop
  | intro {n : Node} {children : List Node}
      (h : Interleaved Node.IsComment Commented n.children children) :
      Commented n { n with children := children }

namespace Commented

variable {n n' : Node}

/-- Comments change nothing of a node but its children. -/
theorem eq (h : Commented n n') : n' = { n with children := n'.children } := by
  cases h
  rfl

theorem kind (h : Commented n n') : n'.kind = n.kind := by rw [h.eq]
theorem text (h : Commented n n') : n'.text = n.text := by rw [h.eq]
theorem isNamed (h : Commented n n') : n'.isNamed = n.isNamed := by rw [h.eq]
theorem field (h : Commented n n') : n'.field = n.field := by rw [h.eq]
theorem hasError (h : Commented n n') : n'.hasError = n.hasError := by rw [h.eq]
theorem position (h : Commented n n') : n'.position = n.position := by rw [h.eq]; rfl

/-- The children of a tree with comments are those of the tree, and comments between them. -/
theorem children (h : Commented n n') :
    Interleaved Node.IsComment Commented n.children n'.children := by
  cases h
  assumption

/-- A tree is itself with no comments. -/
theorem refl (n : Node) : Commented n n := by
  induction n using Node.induction_children with
  | step n ih =>
    have hchildren : ∀ cs : List Node, (∀ c ∈ cs, Commented c c) →
        Interleaved Node.IsComment Commented cs cs := by
      intro cs hcs
      induction cs with
      | nil => exact .nil
      | cons c cs ih =>
        obtain ⟨hc, hcs⟩ := List.forall_mem_cons.1 hcs
        exact .cons hc (ih hcs)
    obtain ⟨⟩ := n
    exact .intro (hchildren _ ih)

/-- Nodes that are picked by what comments do not change, and that are no comments, are picked from
a tree with comments too. -/
theorem forall₂_filter (h : Commented n n') {p : Node → Bool}
    (hT : ∀ c, c.IsComment → p c = false) (hS : ∀ c c', Commented c c' → p c' = p c) :
    List.Forall₂ Commented (n.children.filter p) (n'.children.filter p) :=
  h.children.filter hT fun c _ c' hc => hS c c' hc

/-- The children in a role stay. -/
theorem forall₂_inRole (h : Commented n n') (role : String) :
    List.Forall₂ Commented (n.inRole role) (n'.inRole role) :=
  h.forall₂_filter (fun c hc => by simp [hc.field]) fun c c' hc => by rw [hc.field]

/-- The child in a role stays. -/
theorem role? (h : Commented n n') (role : String) :
    (n.role? role = none ∧ n'.role? role = none) ∨
      ∃ c c', n.role? role = some c ∧ n'.role? role = some c' ∧ Commented c c' := by
  have hall := h.forall₂_inRole role
  unfold Node.role?
  generalize n.inRole role = ns at hall ⊢
  generalize n'.inRole role = ns' at hall ⊢
  cases hall with
  | nil => exact .inl ⟨rfl, rfl⟩
  | cons hc _ => exact .inr ⟨_, _, rfl, rfl, hc⟩

/-- The text in a role stays. -/
theorem map_text_role? (h : Commented n n') (role : String) :
    (n'.role? role).map (·.text) = (n.role? role).map (·.text) := by
  rcases h.role? role with ⟨hn, hn'⟩ | ⟨c, c', hn, hn', hc⟩
  · rw [hn, hn']
  · rw [hn, hn', Option.map_some, Option.map_some, hc.text]

/-- The texts in a role stay. -/
theorem map_text_inRole (h : Commented n n') (role : String) :
    (n'.inRole role).map (·.text) = (n.inRole role).map (·.text) := by
  have hall := h.forall₂_inRole role
  generalize n.inRole role = ns at hall ⊢
  generalize n'.inRole role = ns' at hall ⊢
  induction hall with
  | nil => rfl
  | cons hc _ ih => rw [List.map_cons, List.map_cons, hc.text, ih]

/-- The children that are picked by their kind stay, if comments are not. -/
theorem forall₂_named (h : Commented n n') {p : Node → Bool}
    (hp : ∀ c : Node, c.kind = "comment" → p c = false)
    (hkind : ∀ c c' : Node, c'.kind = c.kind → p c' = p c) :
    List.Forall₂ Commented (n.named.filter p) (n'.named.filter p) := by
  rw [filter_named, filter_named]
  exact h.forall₂_filter (fun c hc => by simp [hp c hc.kind]) fun c c' hc => by
    rw [hkind c c' hc.kind, hc.isNamed]

/-- The children of one kind stay, if it is another one. -/
theorem forall₂_of_kind (h : Commented n n') {kind : String} (hkind : kind ≠ "comment") :
    List.Forall₂ Commented (n.named.filter (·.kind == kind)) (n'.named.filter (·.kind == kind)) :=
  h.forall₂_named (fun c hc => by simpa [hc] using hkind.symm) fun c c' hc => by rw [hc]

/-- The children that are neither punctuation nor comments stay. -/
theorem forall₂_of_kind_ne (h : Commented n n') :
    List.Forall₂ Commented (n.named.filter (·.kind != "comment"))
      (n'.named.filter (·.kind != "comment")) :=
  h.forall₂_named (fun c hc => by simp [hc]) fun c c' hc => by rw [hc]

/-- The first child that is more than punctuation stays the first, or a comment is before it. -/
theorem find?_isNamed {ns ns' : List Node} (h : Interleaved Node.IsComment Commented ns ns')
    {c' : Node} (hc' : ns'.find? (·.isNamed) = some c') (hkind : c'.kind ≠ "comment") :
    ∃ c, ns.find? (·.isNamed) = some c ∧ Commented c c' := by
  induction h with
  | nil => cases hc'
  | skip hn _ ih =>
    rw [List.find?_cons_of_pos hn.isNamed] at hc'
    obtain rfl := Option.some.inj hc'
    exact absurd hn.kind hkind
  | @cons c ns n ns' hn _ ih =>
    cases hnamed : c.isNamed with
    | true =>
      rw [List.find?_cons_of_pos (hn.isNamed.trans hnamed)] at hc'
      obtain rfl := Option.some.inj hc'
      exact ⟨c, List.find?_cons_of_pos hnamed, hn⟩
    | false =>
      rw [List.find?_cons_of_neg (by simp [hn.isNamed, hnamed])] at hc'
      rw [List.find?_cons_of_neg (by simp [hnamed])]
      exact ih hc'

/-- Where a tree with comments has nothing but punctuation, the tree has nothing else either. -/
theorem find?_isNamed_eq_none {ns ns' : List Node}
    (h : Interleaved Node.IsComment Commented ns ns') (hnone : ns'.find? (·.isNamed) = none) :
    ns.find? (·.isNamed) = none := by
  rw [List.find?_eq_none] at hnone ⊢
  induction h with
  | nil => exact hnone
  | skip hn _ ih => exact ih (List.forall_mem_cons.1 hnone).2
  | cons hn _ ih =>
    obtain ⟨hhead, htail⟩ := List.forall_mem_cons.1 hnone
    exact List.forall_mem_cons.2 ⟨by rwa [hn.isNamed] at hhead, ih htail⟩

end Commented

namespace Extraction

section Names

/-- A pointer or a generic type with a comment where its base should be, or around one. -/
inductive Hidden : Node → Prop
  | comment {n c : Node} (hbase : base? n = some c) (hc : c.kind = "comment") : Hidden n
  | within {n c : Node} (hbase : base? n = some c) (hc : Hidden c) : Hidden n

variable {n n' : Node}

/-- A hidden type is not embedded. -/
theorem Hidden.embeddedName_eq_none (h : Hidden n) : embeddedName n = none := by
  induction h with
  | comment hbase hc =>
    rw [embeddedName_of_kind (kind_of_base? hbase), hbase, Option.bind_some, embeddedName_eq,
      base?_eq_none (by simp [hc])]
    simp [hc]
  | within hbase _ ih =>
    rw [embeddedName_of_kind (kind_of_base? hbase), hbase, Option.bind_some, ih]

/-- The base is the same among comments, if it is not one. -/
theorem base?_of_commented (h : Commented n n')
    (hn : ∀ c', base? n' = some c' → c'.kind ≠ "comment") :
    (base? n = none ∧ base? n' = none) ∨
      ∃ c c', base? n = some c ∧ base? n' = some c' ∧ Commented c c' := by
  unfold base? at hn ⊢
  rw [h.kind] at hn ⊢
  split at hn
  case isFalse hkind => exact .inl ⟨if_neg hkind, if_neg hkind⟩
  case isTrue hkind =>
    simp only [if_pos hkind]
    rcases h.role? "type" with ⟨hr, hr'⟩ | ⟨c, c', hr, hr', hc⟩
    · rw [hr'] at hn
      rw [hr, hr']
      simp only [Option.none_or] at hn ⊢
      cases hfind : n'.children.find? (·.isNamed) with
      | none => exact .inl ⟨Commented.find?_isNamed_eq_none h.children hfind, rfl⟩
      | some c' =>
        obtain ⟨c, hc, hcc⟩ := Commented.find?_isNamed h.children hfind (hn c' hfind)
        exact .inr ⟨c, c', hc, rfl, hcc⟩
    · exact .inr ⟨c, c', by rw [hr]; rfl, by rw [hr']; rfl, hc⟩

/-- Comments do not change the name of a type that they do not hide. -/
theorem embeddedName_of_commented (h : Commented n n') (hn : ¬Hidden n') :
    embeddedName n' = embeddedName n := by
  induction n using Node.induction_children generalizing n' with
  | step n ih =>
    by_cases hkind : n.kind = "pointer_type" ∨ n.kind = "generic_type"
    · rw [embeddedName_of_kind hkind, embeddedName_of_kind (h.kind ▸ hkind)]
      rcases base?_of_commented h fun c' hbase hc => hn (.comment hbase hc) with
        ⟨hb, hb'⟩ | ⟨c, c', hb, hb', hc⟩
      · rw [hb, hb']
      · rw [hb, hb', Option.bind_some, Option.bind_some]
        exact ih c (mem_children_of_base? hb) hc fun hhidden => hn (.within hb' hhidden)
    · rw [embeddedName_eq n, embeddedName_eq n', h.kind, h.text, h.map_text_role? "name",
        base?_eq_none hkind, base?_eq_none (h.kind ▸ hkind)]

/-- Comments do not change the nesting of a type that they do not hide. -/
theorem nesting_of_commented (h : Commented n n') (hn : ¬Hidden n') : nesting n' = nesting n := by
  induction n using Node.induction_children generalizing n' with
  | step n ih =>
    by_cases hkind : n.kind = "pointer_type" ∨ n.kind = "generic_type"
    · rw [nesting_of_kind hkind, nesting_of_kind (h.kind ▸ hkind)]
      rcases base?_of_commented h fun c' hbase hc => hn (.comment hbase hc) with
        ⟨hb, hb'⟩ | ⟨c, c', hb, hb', hc⟩
      · rw [hb, hb']
      · rw [hb, hb', Option.elim_some, Option.elim_some,
          ih c (mem_children_of_base? hb) hc fun hhidden => hn (.within hb' hhidden)]
    · rw [nesting_eq_one hkind, nesting_eq_one (h.kind ▸ hkind)]

/-- Comments make no type nested deeper. -/
theorem nesting_le_of_commented (h : Commented n n') : nesting n' ≤ nesting n := by
  induction n using Node.induction_children generalizing n' with
  | step n ih =>
    by_cases hkind : n.kind = "pointer_type" ∨ n.kind = "generic_type"
    · rw [nesting_of_kind hkind, nesting_of_kind (h.kind ▸ hkind)]
      refine Nat.succ_le_succ ?_
      by_cases hcomment : ∃ c', base? n' = some c' ∧ c'.kind = "comment"
      · obtain ⟨c', hb', hc'⟩ := hcomment
        rw [hb', Option.elim_some, nesting_eq_one (by simp [hc'])]
        cases base? n with
        | none => exact Nat.le_refl _
        | some c => exact one_le_nesting c
      · rcases base?_of_commented h fun c' hb' hc' => hcomment ⟨c', hb', hc'⟩ with
          ⟨hb, hb'⟩ | ⟨c, c', hb, hb', hc⟩
        · exact Nat.le_of_eq (by rw [hb, hb'])
        · rw [hb, hb']
          exact ih c (mem_children_of_base? hb) hc
    · exact Nat.le_of_eq ((nesting_eq_one (h.kind ▸ hkind)).trans (nesting_eq_one hkind).symm)

/-- A type among comments has its name or is hidden. -/
theorem embeddedName_eq_or_eq_none (h : Commented n n') :
    embeddedName n' = embeddedName n ∨ embeddedName n' = none := by
  by_cases hn : Hidden n'
  · exact .inr hn.embeddedName_eq_none
  · exact .inl (embeddedName_of_commented h hn)

/-- Comments keep the name of a type exactly if they do not hide one that has a name. -/
theorem embeddedName_eq_iff (h : Commented n n') : embeddedName n' = embeddedName n ↔
    ((embeddedName n).isSome = true → ¬Hidden n') := by
  constructor
  · intro heq hsome hn
    rw [← heq, hn.embeddedName_eq_none] at hsome
    cases hsome
  · intro himp
    by_cases hn : Hidden n'
    · rw [hn.embeddedName_eq_none]
      cases hname : embeddedName n with
      | none => rfl
      | some s => exact absurd hn (himp (by rw [hname]; rfl))
    · exact embeddedName_of_commented h hn

end Names

end Extraction

end TypeWeave.Go
