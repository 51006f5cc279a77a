import TypeWeave.Proofs.Go.Abstract
import TypeWeave.Proofs.Go.Embedded
import Mathlib.Data.List.Forall2

/-!
# Extraction is exact

What is extracted from a node is what the part of a source file declares that the node stands for.
Each function of the extraction meets its counterpart on the source file, one lemma for each, by way
of two facts about interleaved nodes: picking nodes keeps those that stand for what is picked, and
nodes without meaning give nothing. Main statements: `embeddedName_of_spells` and
`filterMap_typeSpecs_of_spells`.
-/

namespace TypeWeave.Go

open Extraction

namespace Abstract

section Interleaving

variable {α : Type} {T : Node → Prop} {S : α → Node → Prop} {as : List α} {ns : List Node}

/-- Nodes that are picked from others with no meaning stand for what is picked. -/
theorem Interleaved.filter (h : Interleaved T S as ns) {p : Node → Bool} {q : α → Bool}
    (hT : ∀ n, T n → p n = false) (hS : ∀ a ∈ as, ∀ n, S a n → p n = q a) :
    List.Forall₂ S (as.filter q) (ns.filter p) := by
  induction h with
  | nil => exact .nil
  | skip hn _ ih =>
    rw [List.filter_cons_of_neg (by simp [hT _ hn])]
    exact ih hS
  | @cons a as n ns hn _ ih =>
    obtain ⟨ha, has⟩ := List.forall_mem_cons.1 hS
    rw [List.filter_cons, List.filter_cons, ha n hn]
    split
    · exact .cons hn (ih has)
    · exact ih has

/-- When only nodes with a meaning are picked, all of them stand for all things. -/
theorem Interleaved.filter_all (h : Interleaved T S as ns) {p : Node → Bool}
    (hT : ∀ n, T n → p n = false) (hS : ∀ a ∈ as, ∀ n, S a n → p n = true) :
    List.Forall₂ S as (ns.filter p) := by
  simpa using h.filter (q := fun _ => true) hT hS

/-- The first node that is picked is that of the first thing, if it is one of those. -/
theorem Interleaved.find?_cons {a : α} (h : Interleaved T S (a :: as) ns) {p : Node → Bool}
    (hT : ∀ n, T n → p n = false) (hS : ∀ n, S a n → p n = true) :
    ∃ n, ns.find? p = some n ∧ S a n := by
  generalize hbs : a :: as = bs at h
  induction h with
  | nil => cases hbs
  | skip hn _ ih =>
    rw [List.find?_cons_of_neg (by simp [hT _ hn])]
    exact ih hbs
  | @cons b bs n ns hn _ ih =>
    obtain ⟨rfl, rfl⟩ := List.cons.inj hbs
    exact ⟨n, List.find?_cons_of_pos (hS n hn), hn⟩

/-- What holds of nodes without meaning and of those for some things holds of all. -/
theorem Interleaved.forall_mem (h : Interleaved T S as ns) {P : Node → Prop} (hT : ∀ n, T n → P n)
    (hS : ∀ a ∈ as, ∀ n, S a n → P n) : ∀ n ∈ ns, P n := by
  induction h with
  | nil => simp
  | skip hn _ ih => exact List.forall_mem_cons.2 ⟨hT _ hn, ih hS⟩
  | cons hn _ ih =>
    obtain ⟨ha, has⟩ := List.forall_mem_cons.1 hS
    exact List.forall_mem_cons.2 ⟨ha _ hn, ih has⟩

/-- What nodes give, if they are picked, is related to what the things give that they stand for, if
nodes without meaning give nothing. -/
theorem Interleaved.forall₂_flatMap {β γ : Type} {R : β → γ → Prop} (h : Interleaved T S as ns)
    {p : Node → Bool} {f : Node → List γ} {g : α → List β} (hT : ∀ n, T n → p n = true → f n = [])
    (hS : ∀ a n, S a n → List.Forall₂ R (g a) (if p n then f n else [])) :
    List.Forall₂ R (as.flatMap g) ((ns.filter p).flatMap f) := by
  induction h with
  | nil => exact .nil
  | @skip as n ns hn _ ih =>
    cases hp : p n with
    | false => rwa [List.filter_cons_of_neg (by simp [hp])]
    | true => rwa [List.filter_cons_of_pos hp, List.flatMap_cons, hT n hn hp, List.nil_append]
  | @cons a as n ns hn _ ih =>
    have hfirst := hS a n hn
    rw [List.flatMap_cons]
    cases hp : p n with
    | false =>
      rw [hp, if_neg Bool.false_ne_true, List.forall₂_nil_right_iff] at hfirst
      rwa [List.filter_cons_of_neg (by simp [hp]), hfirst, List.nil_append]
    | true =>
      rw [hp, if_pos rfl] at hfirst
      rw [List.filter_cons_of_pos hp, List.flatMap_cons]
      exact List.rel_append hfirst ih

/-- Nodes that give the same as what they stand for one by one give the same together. -/
theorem flatMap_eq_of_forall₂ {β : Type} {f : Node → List β} {g : α → List β}
    (h : List.Forall₂ S as ns) (hS : ∀ a n, S a n → f n = g a) : ns.flatMap f = as.flatMap g := by
  induction h with
  | nil => rfl
  | cons hn _ ih => rw [List.flatMap_cons, List.flatMap_cons, hS _ _ hn, ih]

/-- What nodes give, if they are picked, is what the things they stand for give, if nodes without
meaning give nothing. -/
theorem Interleaved.filter_flatMap {β : Type} (h : Interleaved T S as ns) {p : Node → Bool}
    {f : Node → List β} {g : α → List β} (hT : ∀ n, T n → p n = true → f n = [])
    (hS : ∀ a n, S a n → (if p n then f n else []) = g a) :
    (ns.filter p).flatMap f = as.flatMap g := by
  have hall := h.forall₂_flatMap (R := Eq) hT fun a n hn => by
    rw [List.forall₂_eq_eq_eq, hS a n hn]
  rw [List.forall₂_eq_eq_eq] at hall
  exact hall.symm

/-- Parts of nodes that are picked are those of the things they stand for. -/
theorem Interleaved.concat_eq (h : Interleaved T S as ns) {p : Node → Bool} {parts : Node → Parts}
    {members : α → List Member} {embedded : α → List String}
    (hT : ∀ n, T n → p n = true → parts n = {})
    (hS : ∀ a n, S a n → p n = true ∧ parts n = ⟨members a, embedded a⟩) :
    Parts.concat ((ns.filter p).map parts) = ⟨as.flatMap members, as.flatMap embedded⟩ := by
  rw [Extraction.concat_eq, List.flatMap_map, List.flatMap_map]
  congr 1
  · refine h.filter_flatMap (fun n hn hp => by rw [hT n hn hp]) fun a n hn => ?_
    obtain ⟨hp, hparts⟩ := hS a n hn
    rw [hp, hparts, if_pos rfl]
  · refine h.filter_flatMap (fun n hn hp => by rw [hT n hn hp]) fun a n hn => ?_
    obtain ⟨hp, hparts⟩ := hS a n hn
    rw [hp, hparts, if_pos rfl]

end Interleaving

section Roles

variable {slots : List Slot} {n : Node}

/-- The children in a role are those for it. -/
theorem forall₂_inRole (h : Interleaved IsTrivia Slot.Fills slots n.children) (role : String) :
    List.Forall₂ Slot.Fills (slots.filter fun s => s.role == some role) (n.inRole role) :=
  h.filter (fun c hc => by simp [hc.1]) fun s _ c hc => by rw [hc.1]

/-- The child in a role is like what it is said to be. -/
theorem exists_role? (h : Interleaved IsTrivia Slot.Fills slots n.children) (role : String)
    (P : Node → Prop)
    (hslots : (slots.filter fun s => s.role == some role) = [⟨some role, P⟩]) :
    ∃ c, n.role? role = some c ∧ P c := by
  have hall := forall₂_inRole h role
  rw [hslots, List.forall₂_cons_left_iff] at hall
  obtain ⟨c, cs, hc, -, hcs⟩ := hall
  exact ⟨c, by rw [Node.role?, hcs]; rfl, hc.2⟩

/-- The slots of some texts are those of their role. -/
theorem filter_textSlots (r role : String) (texts : List String) :
    (textSlots r texts).filter (fun s => s.role == some role) =
      if r = role then textSlots r texts else [] := by
  induction texts with
  | nil => simp [textSlots]
  | cons text texts ih => by_cases h : r = role <;> simp [textSlots, h]

/-- The texts of the children in a role. -/
theorem map_text_inRole (h : Interleaved IsTrivia Slot.Fills slots n.children) (role : String)
    (texts : List String)
    (hslots : (slots.filter fun s => s.role == some role) = textSlots role texts) :
    (n.inRole role).map (·.text) = texts := by
  have hall := forall₂_inRole h role
  rw [hslots] at hall
  generalize n.inRole role = ns at hall
  clear hslots
  induction texts generalizing ns with
  | nil =>
    cases hall
    rfl
  | cons text texts ih =>
    cases hall with
    | cons hc hcs => rw [List.map_cons, hc.2, ih _ hcs]

/-- The text of the child in a role, if there is one. -/
theorem map_text_role? (h : Interleaved IsTrivia Slot.Fills slots n.children) (role : String)
    (text : Option String)
    (hslots : (slots.filter fun s => s.role == some role) = textSlots role text.toList) :
    (n.role? role).map (·.text) = text := by
  have htexts := map_text_inRole h role _ hslots
  rw [Node.role?, ← List.head?_map, htexts]
  cases text <;> rfl

end Roles

section Types

variable {n : Node} {P : Node → Prop} {slots : List Slot}

/-- The base of a type is what stands in the role of its type. -/
theorem base?_of_role (hkind : n.kind = "pointer_type" ∨ n.kind = "generic_type")
    (h : Interleaved IsTrivia Slot.Fills (⟨some "type", P⟩ :: slots) n.children) :
    ∃ c, base? n = some c ∧ P c := by
  obtain ⟨c, hfind, hc⟩ := h.find?_cons (p := (·.field == some "type"))
    (fun c hc => by simp [hc.1]) fun c hc => by simp [hc.1]
  have hrole : n.role? "type" = some c := by rw [Node.role?, Node.inRole, List.head?_filter, hfind]
  exact ⟨c, by rw [base?_of_kind hkind, hrole]; rfl, hc.2⟩

/-- Where no child has a role, it is the first child. -/
theorem base?_of_first (hkind : n.kind = "pointer_type" ∨ n.kind = "generic_type")
    (hP : ∀ c, P c → c.isNamed = true) (hslots : ∀ s ∈ slots, s.role = none)
    (h : Interleaved IsToken Slot.Fills (⟨none, P⟩ :: slots) n.children) :
    ∃ c, base? n = some c ∧ P c := by
  obtain ⟨c, hfind, hc⟩ := h.find?_cons (p := (·.isNamed))
    (fun c hc => hc.2) fun c hc => hP c hc.2
  have hnone : ∀ c ∈ n.children, c.field = none := by
    refine h.forall_mem (fun c hc => hc.1) (List.forall_mem_cons.2 ⟨fun c hc => hc.1, ?_⟩)
    exact fun s hs c hc => hc.1.trans (hslots s hs)
  have hrole : n.role? "type" = none := by
    rw [Node.role?, Node.inRole, List.head?_eq_none_iff, List.filter_eq_nil_iff]
    exact fun c hc => by simp [hnone c hc]
  exact ⟨c, by rw [base?_of_kind hkind, hrole, hfind]; rfl, hc.2⟩

/-- The node of a type is more than punctuation. -/
theorem TypeForm.Spells.isNamed {t : TypeForm} (h : t.Spells n) : n.isNamed = true := by
  cases t <;> exact h.1

/-- The node of a type is no comment. -/
theorem TypeForm.Spells.kind_ne {t : TypeForm} (h : t.Spells n) : n.kind ≠ "comment" := by
  cases t with
  | named name => rcases h.2.1 with hk | hk <;> simp [hk]
  | qualified package name => rcases h.2 with ⟨hk, -⟩ | ⟨⟨hk, -⟩ | hk, -⟩ <;> simp [hk]
  | pointer base => simp [h.2.1]
  | generic base arguments => simp [h.2.1]
  | approximation base => simp [h.2.1]
  | other kind hkind =>
    rintro hk
    rw [h.2] at hk
    simp [hk, ownKinds] at hkind

/-- The base of the node of a type is the node of its base. -/
theorem exists_base? {t base : TypeForm} (hbase : t.base? = some base) (h : t.Spells n) :
    ∃ c, base? n = some c ∧ base.Spells c := by
  cases t with
  | pointer b =>
    obtain rfl := Option.some.inj hbase
    obtain ⟨-, hkind, hchildren | hchildren⟩ := h
    · exact base?_of_role (.inl hkind) hchildren
    · exact base?_of_first (.inl hkind) (fun c hc => hc.isNamed) (by simp) hchildren
  | generic b arguments =>
    obtain rfl := Option.some.inj hbase
    obtain ⟨-, hkind, hchildren | hchildren⟩ := h
    · exact base?_of_role (.inr hkind) hchildren
    · exact base?_of_first (.inr hkind) (fun c hc => hc.isNamed) (by simp) hchildren
  | named | qualified | approximation | other => cases hbase

/-- The node of a type without a base is of another kind. -/
theorem kind_of_base?_eq_none {t : TypeForm} (hbase : t.base? = none) (h : t.Spells n) :
    ¬(n.kind = "pointer_type" ∨ n.kind = "generic_type") := by
  cases t with
  | pointer | generic => cases hbase
  | named name => rcases h.2.1 with hk | hk <;> simp [hk]
  | qualified package name => rcases h.2 with ⟨hk, -⟩ | ⟨⟨hk, -⟩ | hk, -⟩ <;> simp [hk]
  | approximation base => simp [h.2.1]
  | other kind hkind =>
    obtain ⟨-, rfl⟩ := h
    simp only [ownKinds, List.mem_cons, List.not_mem_nil, or_false, not_or] at hkind
    simp [hkind]

/-- A type is embedded under its implicit name. -/
theorem embeddedName_of_spells {t : TypeForm} (h : t.Spells n) :
    embeddedName n = t.implicitName := by
  induction t generalizing n with
  | named name =>
    obtain ⟨-, hkind, htext⟩ := h
    rcases hkind with hkind | hkind <;>
      simp [embeddedName_eq n, hkind, htext, lastPart_of_isName name.isName,
        TypeForm.implicitName]
  | qualified package name =>
    obtain ⟨-, ⟨hkind, hchildren⟩ | ⟨⟨hkind, hchildren⟩ | hkind, htext⟩⟩ := h
    · obtain ⟨c, hc, htext⟩ := exists_role? hchildren "name" _ rfl
      simp [embeddedName_eq n, hkind, hc, htext, TypeForm.implicitName]
    · have hnone : n.role? "name" = none := by simp [Node.role?, Node.inRole, hchildren]
      simp [embeddedName_eq n, hkind, hnone, htext, lastPart_append name.isName,
        TypeForm.implicitName]
    · simp [embeddedName_eq n, hkind, htext, lastPart_append name.isName, TypeForm.implicitName]
  | pointer base ih =>
    obtain ⟨c, hc, hspells⟩ := exists_base? rfl h
    rw [embeddedName_of_kind (kind_of_base? hc), hc, Option.bind_some, ih hspells,
      TypeForm.implicitName]
  | generic base arguments ih =>
    obtain ⟨c, hc, hspells⟩ := exists_base? rfl h
    rw [embeddedName_of_kind (kind_of_base? hc), hc, Option.bind_some, ih hspells,
      TypeForm.implicitName]
  | approximation base =>
    have hnone := base?_eq_none (kind_of_base?_eq_none rfl h)
    simp [embeddedName_eq n, h.2.1, hnone, TypeForm.implicitName]
  | other kind hkind =>
    have hnone := base?_eq_none (kind_of_base?_eq_none rfl h)
    obtain ⟨-, rfl⟩ := h
    simp only [ownKinds, List.mem_cons, List.not_mem_nil, or_false, not_or] at hkind
    simp [embeddedName_eq n, hkind, hnone, TypeForm.implicitName]

/-- The node of a type is nested as the type. -/
theorem nesting_of_spells {t : TypeForm} (h : t.Spells n) : nesting n = t.nesting := by
  induction t generalizing n with
  | pointer base ih =>
    obtain ⟨c, hc, hspells⟩ := exists_base? rfl h
    rw [nesting_of_kind (kind_of_base? hc), hc, Option.elim_some, ih hspells, TypeForm.nesting]
  | generic base arguments ih =>
    obtain ⟨c, hc, hspells⟩ := exists_base? rfl h
    rw [nesting_of_kind (kind_of_base? hc), hc, Option.elim_some, ih hspells, TypeForm.nesting]
  | named | qualified | approximation | other =>
    exact nesting_eq_one (kind_of_base?_eq_none rfl h)

end Types

section Parts

variable {n : Node}

/-- What is extracted from a field is what the field declares. -/
theorem fieldParts_of_spells {f : Field} (h : f.Spells n) :
    fieldParts n = ⟨f.members, f.embedded⟩ := by
  cases f with
  | named first more type tag line =>
    obtain ⟨-, -, hline, hchildren⟩ := h
    have htype := map_text_role? hchildren "type" (some type) (by simp [filter_textSlots])
    have htag := map_text_role? hchildren "tag" tag (by simp [filter_textSlots])
    have hnames := map_text_inRole hchildren "name" (first.text :: more.map (·.text))
      (by simp [filter_textSlots])
    obtain ⟨c, hc, rfl⟩ := Option.map_eq_some_iff.1 htype
    obtain ⟨m, ms, hinRole, -, -⟩ := List.map_eq_cons_iff.1 hnames
    have hunquoted : (n.role? "tag").map (fun t => Tag.unquote t.text) = tag.map Tag.unquote := by
      rw [← htag, Option.map_map]
      rfl
    have hmembers : (n.inRole "name").map
        (fun name => (⟨name.text, c.text, tag.map Tag.unquote, line⟩ : Member)) =
          Field.members (.named first more c.text tag line) := by
      have := congrArg (List.map fun x => (⟨x, c.text, tag.map Tag.unquote, line⟩ : Member)) hnames
      simpa [Field.members, Function.comp_def] using this
    unfold fieldParts
    rw [hinRole] at hmembers ⊢
    simp only [hc, hunquoted, Node.position, hline, hmembers]
    rfl
  | unnamed type tag =>
    obtain ⟨-, -, hchildren⟩ := h
    obtain ⟨base, himplicit, hchildren⟩ : ∃ base : TypeForm,
        type.implicitName = base.implicitName ∧ Interleaved IsTrivia Slot.Fills
          (⟨some "type", base.Spells⟩ :: textSlots "tag" tag.toList) n.children := by
      rcases hchildren with hchildren | ⟨base, rfl, -, hchildren⟩
      · exact ⟨type, rfl, hchildren⟩
      · exact ⟨base, rfl, hchildren⟩
    obtain ⟨c, hc, hspells⟩ := exists_role? hchildren "type" base.Spells
      (by simp [filter_textSlots])
    have hnames := map_text_inRole hchildren "name" [] (by simp [textSlots])
    unfold fieldParts
    rw [List.map_eq_nil_iff.1 hnames]
    simp only [hc, embedding, embeddedName_of_spells hspells, ← himplicit]
    rfl

/-- Nodes of a kind among the children of a node that are more than punctuation. -/
theorem filter_named (n : Node) (p : Node → Bool) :
    n.named.filter p = n.children.filter fun c => p c && c.isNamed := List.filter_filter ..

/-- Punctuation and comments are of no kind that is sought. -/
theorem IsTrivia.kind_and_isNamed (h : IsTrivia n) (kind : String) (hkind : kind ≠ "comment") :
    (n.kind == kind && n.isNamed) = false := by
  rcases h.2 with hn | hn
  · simp [hn]
  · simp [hn, Ne.symm hkind]

/-- The fields of a struct. -/
theorem forall₂_structFields_of_spells {fields : List Field} (h : (Body.struct fields).Spells n) :
    List.Forall₂ Field.Spells fields (structFields n) := by
  obtain ⟨-, hchildren⟩ := h
  have hlists := hchildren.filter_all
    (p := fun c => c.kind == "field_declaration_list" && c.isNamed)
    (fun c hc => hc.kind_and_isNamed _ (by decide)) (by
      rintro s hs c hc
      obtain rfl := List.mem_singleton.1 hs
      simp [hc.2.1, hc.2.2.1])
  obtain ⟨list, lists, ⟨-, -, -, hfields⟩, hnil, hlist⟩ := List.forall₂_cons_left_iff.1 hlists
  cases hnil
  unfold structFields
  rw [filter_named, hlist, List.flatMap_singleton, filter_named]
  refine hfields.filter_all (fun c hc => hc.kind_and_isNamed _ (by decide)) fun f _ c hc => ?_
  cases f <;> simp [hc.1, hc.2.1]

/-- What is extracted from a struct is what its fields declare. -/
theorem structParts_of_spells {fields : List Field} (h : (Body.struct fields).Spells n) :
    structParts n = ⟨fields.flatMap Field.members, fields.flatMap Field.embedded⟩ := by
  have hfields := forall₂_structFields_of_spells h
  rw [structParts, Extraction.concat_eq, List.flatMap_map, List.flatMap_map]
  congr 1
  · exact flatMap_eq_of_forall₂ hfields fun f c hc => by rw [fieldParts_of_spells hc]
  · exact flatMap_eq_of_forall₂ hfields fun f c hc => by rw [fieldParts_of_spells hc]

/-- The types of an element. -/
theorem forall₂_types {types : List TypeForm}
    (h : Interleaved IsTrivia TypeForm.Spells types n.children) :
    List.Forall₂ TypeForm.Spells types (n.named.filter (·.kind != "comment")) := by
  rw [filter_named]
  refine h.filter_all (fun c hc => ?_) fun t _ c hc => by simp [hc.isNamed, hc.kind_ne]
  rcases hc.2 with hc | hc <;> simp [hc]

/-- An element that holds types is no method. -/
theorem not_method_of_kind
    (hkind : n.kind ∈ ["type_elem", "constraint_elem", "interface_type_name"]) :
    ¬(n.kind == "method_elem" || n.kind == "method_spec") = true := by
  simp only [List.mem_cons, List.not_mem_nil, or_false] at hkind
  rcases hkind with hkind | hkind | hkind <;> simp [hkind]

/-- An element that holds types is embedded as its only one, or as itself. -/
theorem elementParts_of_kind
    (hkind : n.kind ∈ ["type_elem", "constraint_elem", "interface_type_name"]) :
    elementParts n = match n.named.filter (·.kind != "comment") with
      | [] => embedding n
      | [type] => embedding type
      | _ => {} :=
  (if_neg (not_method_of_kind hkind)).trans (if_pos (List.contains_iff_mem.2 hkind))

/-- It embeds that one. -/
theorem elementTypes_of_kind
    (hkind : n.kind ∈ ["type_elem", "constraint_elem", "interface_type_name"]) :
    elementTypes n = match n.named.filter (·.kind != "comment") with
      | [] => [n]
      | [type] => [type]
      | _ => [] :=
  (if_neg (not_method_of_kind hkind)).trans (if_pos (List.contains_iff_mem.2 hkind))

/-- A node with nothing but punctuation and comments holds no type. -/
theorem filter_named_eq_nil (h : ∀ c ∈ n.children, IsTrivia c) :
    n.named.filter (·.kind != "comment") = [] := by
  rw [filter_named, List.filter_eq_nil_iff]
  intro c hc
  rcases (h c hc).2 with hn | hn <;> simp [hn]

/-- What is extracted from an element is what the element declares. -/
theorem elementParts_of_spells {e : Element} (h : e.Spells n) :
    elementParts n = ⟨e.members, e.embedded⟩ := by
  cases e with
  | method name parameters result line =>
    obtain ⟨-, hkind, hline, hchildren⟩ := h
    have hname := map_text_role? hchildren "name" (some name.text) (by simp [filter_textSlots])
    have hparameters := map_text_role? hchildren "parameters" (some parameters)
      (by simp [filter_textSlots])
    have hresult := map_text_role? hchildren "result" result (by simp [filter_textSlots])
    obtain ⟨c, hc, htext⟩ := Option.map_eq_some_iff.1 hname
    have hsignature : signature n =
        "func" ++ parameters ++ (result.map (" " ++ ·)).getD "" := by
      rw [signature, hparameters, ← hresult, Option.map_map]
      rfl
    unfold elementParts
    rw [if_pos (by simpa using hkind), hc]
    simp only [htext, hsignature, Node.position, hline]
    rfl
  | single type =>
    obtain ⟨-, ⟨hkind, hchildren⟩ | ⟨hkind, hchildren, hspells⟩⟩ := h
    · obtain ⟨c, cs, hc, hnil, hcs⟩ := List.forall₂_cons_left_iff.1 (forall₂_types hchildren)
      cases hnil
      rw [elementParts_of_kind hkind, hcs]
      simp only [embedding, embeddedName_of_spells hc]
      rfl
    · rw [elementParts_of_kind (by simp [hkind]), filter_named_eq_nil hchildren]
      simp only [embedding, embeddedName_of_spells hspells]
      rfl
  | union first second more =>
    obtain ⟨-, hkind, hchildren⟩ := h
    obtain ⟨c, cs, -, hsecond, hcs⟩ := List.forall₂_cons_left_iff.1 (forall₂_types hchildren)
    obtain ⟨d, ds, -, -, rfl⟩ := List.forall₂_cons_left_iff.1 hsecond
    rw [elementParts_of_kind (by rcases hkind with hkind | hkind <;> simp [hkind]), hcs]
    rfl

/-- What is extracted from an interface is what its elements declare. -/
theorem interfaceParts_of_spells {elements : List Element}
    (h : (Body.interface elements).Spells n) : interfaceParts n =
      ⟨elements.flatMap Element.members, elements.flatMap Element.embedded⟩ := by
  obtain ⟨-, hchildren⟩ := h
  refine hchildren.concat_eq (fun c hc hp => ?_) fun e c hc => ⟨?_, elementParts_of_spells hc⟩
  · have hkind : c.kind = "comment" := hc.2.resolve_left (by simp [hp])
    simp [elementParts, hkind]
  · cases e <;> exact hc.1

/-- What is extracted from the definition of a type is what it declares. -/
theorem declaration?_of_spells {t : TypeSpec} (h : (TypeEntry.spec t).Spells n) (package : String)
    (file : File.Path) :
    Extraction.declaration? package file n = t.declaration? package file := by
  obtain ⟨-, -, hline, hchildren⟩ := h
  have hname := map_text_role? hchildren "name" (some t.name.text) (by simp [filter_textSlots])
  obtain ⟨c, hc, htext⟩ := Option.map_eq_some_iff.1 hname
  obtain ⟨d, hd, hbody⟩ := exists_role? hchildren "type" t.body.Spells
    (by simp [filter_textSlots])
  have hposition : n.position.1 = t.line := hline
  unfold Extraction.declaration? TypeSpec.declaration?
  simp only [hc, hd, htext, hposition, Option.bind_eq_bind, Option.bind_some]
  cases hform : t.body with
  | struct fields =>
    rw [hform] at hbody
    simp [hbody.1, structParts_of_spells hbody]
  | interface elements =>
    rw [hform] at hbody
    simp [hbody.1, interfaceParts_of_spells hbody]
  | other kind hkind =>
    rw [hform] at hbody
    obtain rfl : d.kind = kind := hbody
    simp [hkind.1, hkind.2]

/-- The definitions in a type declaration. -/
theorem forall₂_filter_of_spells {entries : List TypeEntry} (h : SpellsTypes entries n) :
    List.Forall₂ (fun s c => (TypeEntry.spec s).Spells c) (entries.filterMap TypeEntry.spec?)
      (n.named.filter (·.kind == "type_spec")) := by
  obtain ⟨-, -, hchildren⟩ := h
  rw [filter_named, List.filterMap_eq_flatMap_toList, ← List.flatMap_singleton' (List.filter _ _)]
  refine hchildren.forall₂_flatMap (fun c hc hp => ?_) fun e c hc => ?_
  · rw [hc.kind_and_isNamed _ (by decide)] at hp
    cases hp
  · cases e with
    | spec t =>
      rw [if_pos (by simp [hc.1, hc.2.1])]
      exact .cons hc .nil
    | synonym name body =>
      rw [if_neg (by simp [hc.2.1])]
      exact .nil

/-- The package of a source file. -/
theorem packageName?_of_spells {f : SourceFile} (h : f.Spells n) :
    packageName? n = some f.package.text := by
  obtain ⟨before, clause, after, hchildren, hbefore, ⟨hnamed, hkind, hclause⟩, hafter⟩ := h.children
  have htrivia {c : Node} (hc : IsTrivia c) :
      ¬(c.kind == "package_clause" && c.isNamed) = true := by
    rw [hc.kind_and_isNamed _ (by decide)]
    nofun
  have hlast : after.filter (fun c => c.kind == "package_clause" && c.isNamed) = [] := by
    refine List.filter_eq_nil_iff.2 (hafter.forall_mem (fun c => htrivia) fun i _ c hc => ?_)
    cases i with
    | types entries => simp [hc.2.1]
    | function inside => rcases hc.2.1 with hk | hk <;> simp [hk]
    | other kind hkind =>
      obtain rfl : c.kind = kind := hc
      simp [hkind.2]
  have hclauses : packageClauses n = [clause] := by
    rw [packageClauses, filter_named, hchildren, List.filter_append,
      List.filter_eq_nil_iff.2 fun c hc => htrivia (hbefore c hc), List.nil_append,
      List.filter_cons_of_pos (by simp [hnamed, hkind]), hlast]
  obtain ⟨c, hc, -, -, -, htext⟩ := hclause.find?_cons
    (p := fun c => c.kind == "package_identifier" && c.isNamed)
    (fun c hc => hc.kind_and_isNamed _ (by decide)) fun c hc => by simp [hc.2.1, hc.2.2.1]
  rw [packageName?, hclauses, List.flatMap_singleton, ← List.head?_filter, filter_named,
    List.head?_filter, hc, Option.map_some, htext]

/-- The definitions of types at the top level of a source file. -/
theorem forall₂_typeSpecs_of_spells {f : SourceFile} (h : f.Spells n) :
    List.Forall₂ (fun s c => (TypeEntry.spec s).Spells c) f.typeSpecs (typeSpecs n) := by
  obtain ⟨before, clause, after, hchildren, hbefore, ⟨-, hkind, -⟩, hafter⟩ := h.children
  have htrivia {c : Node} (hc : IsTrivia c) :
      ¬(c.kind == "type_declaration" && c.isNamed) = true := by
    rw [hc.kind_and_isNamed _ (by decide)]
    nofun
  unfold typeSpecs
  rw [filter_named, hchildren, List.filter_append,
    List.filter_eq_nil_iff.2 fun c hc => htrivia (hbefore c hc), List.nil_append,
    List.filter_cons_of_neg (by simp [hkind])]
  refine hafter.forall₂_flatMap (fun c hc hp => absurd hp (htrivia hc)) fun i c hc => ?_
  cases i with
  | types entries =>
    rw [if_pos (by simp [hc.1, hc.2.1])]
    exact forall₂_filter_of_spells hc
  | function inside =>
    rw [if_neg (by rcases hc.2.1 with hk | hk <;> simp [hk])]
    exact .nil
  | other kind hkind =>
    obtain rfl : c.kind = kind := hc
    rw [if_neg (by simp [hkind.1])]
    exact .nil

/-- What a source file declares are the structs and interfaces among its definitions. -/
theorem SourceFile.declarations_eq (f : SourceFile) (file : File.Path) :
    f.declarations file = f.typeSpecs.filterMap (TypeSpec.declaration? f.package.text file) := by
  have hitem (i : Item) : i.declarations f.package.text file =
      i.typeSpecs.filterMap (TypeSpec.declaration? f.package.text file) := by
    cases i with
    | types entries =>
      rw [Item.declarations, Item.typeSpecs, List.filterMap_filterMap]
      congr 1
      funext e
      cases e <;> rfl
    | function | other => rfl
  rw [SourceFile.declarations, SourceFile.typeSpecs, List.filterMap_flatMap]
  exact List.flatMap_congr fun i _ => hitem i

/-- The definitions of types at the top level of a source file give what the file declares. -/
theorem filterMap_typeSpecs_of_spells {f : SourceFile} (h : f.Spells n) (file : File.Path) :
    (typeSpecs n).filterMap (Extraction.declaration? f.package.text file) =
      f.declarations file := by
  rw [f.declarations_eq, List.filterMap_eq_flatMap_toList, List.filterMap_eq_flatMap_toList]
  exact flatMap_eq_of_forall₂ (forall₂_typeSpecs_of_spells h) fun s c hc => by
    rw [declaration?_of_spells hc]

end Parts

end Abstract

end TypeWeave.Go
