import TypeWeave.Proofs.Go.Extraction

/-!
# Extraction is exact up to a depth

From a tree of a source file come the package of the file and what the file declares, unless the
file embeds a type that is nested deeper than is followed. Then the reading of the file fails. The
tree embeds the types that the file embeds, `forall₂_embeddedTypes_of_spells`; but the star of a
pointer type may stand beside the node of its base, so that the node is less deep by one than the
type. Main statement: `contents_of_spells`.
-/

namespace TypeWeave.Go

open Extraction

namespace Abstract

section Nesting

variable {n : Node}

/-- A node that a type is embedded by: that of the type or, where the star of a pointer stands
beside it, that of its base. -/
def TypeForm.Stands (t : TypeForm) (n : Node) : Prop :=
  t.Spells n ∨ ∃ base, t = .pointer base ∧ base.Spells n

/-- The nesting of a type is that of its node, but for a star beside it. -/
theorem TypeForm.Stands.nesting_le {t : TypeForm} (h : t.Stands n) :
    Extraction.nesting n ≤ t.nesting ∧ t.nesting ≤ Extraction.nesting n + 1 := by
  rcases h with h | ⟨base, rfl, h⟩
  · rw [nesting_of_spells h]
    omega
  · rw [nesting_of_spells h, nesting]
    omega

/-- A field embeds the type that it is declared by alone. -/
theorem forall₂_fieldTypes_of_spells {f : Field} (h : f.Spells n) :
    List.Forall₂ TypeForm.Stands f.embeddedTypes (fieldTypes n) := by
  cases f with
  | named first more type tag line =>
    obtain ⟨-, -, -, hchildren⟩ := h
    have hnames := map_text_inRole hchildren "name" (first.text :: more.map (·.text))
      (by simp [filter_textSlots])
    obtain ⟨m, ms, hinRole, -, -⟩ := List.map_eq_cons_iff.1 hnames
    rw [fieldTypes, hinRole]
    exact .nil
  | unnamed type tag =>
    obtain ⟨-, -, hchildren⟩ := h
    obtain ⟨base, hstands, hchildren⟩ : ∃ base : TypeForm,
        (∀ c, base.Spells c → type.Stands c) ∧ Interleaved IsTrivia Slot.Fills
          (⟨some "type", base.Spells⟩ :: textSlots "tag" tag.toList) n.children := by
      rcases hchildren with hchildren | ⟨base, rfl, -, hchildren⟩
      · exact ⟨type, fun c hc => .inl hc, hchildren⟩
      · exact ⟨base, fun c hc => .inr ⟨base, rfl, hc⟩, hchildren⟩
    obtain ⟨c, hc, hspells⟩ := exists_role? hchildren "type" base.Spells
      (by simp [filter_textSlots])
    have hnames := map_text_inRole hchildren "name" [] (by simp [textSlots])
    rw [fieldTypes, List.map_eq_nil_iff.1 hnames, hc]
    exact .cons (hstands c hspells) .nil

/-- A struct embeds the types that its fields embed. -/
theorem forall₂_structTypes_of_spells {fields : List Field} (h : (Body.struct fields).Spells n) :
    List.Forall₂ TypeForm.Stands (fields.flatMap Field.embeddedTypes) (structTypes n) := by
  exact List.rel_flatMap (forall₂_structFields_of_spells h) fun _ _ hc =>
    forall₂_fieldTypes_of_spells hc

/-- An element embeds the type that it holds alone. -/
theorem forall₂_elementTypes_of_spells {e : Element} (h : e.Spells n) :
    List.Forall₂ TypeForm.Stands e.embeddedTypes (elementTypes n) := by
  cases e with
  | method name parameters result line =>
    rw [elementTypes, if_pos (by simpa using h.2.1)]
    exact .nil
  | single type =>
    obtain ⟨-, ⟨hkind, hchildren⟩ | ⟨hkind, hchildren, hspells⟩⟩ := h
    · obtain ⟨c, cs, hc, hnil, hcs⟩ := List.forall₂_cons_left_iff.1 (forall₂_types hchildren)
      cases hnil
      rw [elementTypes_of_kind hkind, hcs]
      exact .cons (.inl hc) .nil
    · rw [elementTypes_of_kind (by simp [hkind]), filter_named_eq_nil hchildren]
      exact .cons (.inl hspells) .nil
  | union first second more =>
    obtain ⟨-, hkind, hchildren⟩ := h
    obtain ⟨c, cs, -, hsecond, hcs⟩ := List.forall₂_cons_left_iff.1 (forall₂_types hchildren)
    obtain ⟨d, ds, -, -, rfl⟩ := List.forall₂_cons_left_iff.1 hsecond
    rw [elementTypes_of_kind (by rcases hkind with hkind | hkind <;> simp [hkind]), hcs]
    exact .nil

/-- An interface embeds the types that its elements embed. -/
theorem forall₂_interfaceTypes_of_spells {elements : List Element}
    (h : (Body.interface elements).Spells n) :
    List.Forall₂ TypeForm.Stands (elements.flatMap Element.embeddedTypes) (interfaceTypes n) := by
  obtain ⟨-, hchildren⟩ := h
  refine hchildren.forall₂_flatMap (fun c hc hp => ?_) fun e c hc => ?_
  · have hkind : c.kind = "comment" := hc.2.resolve_left (by simp [hp])
    simp [elementTypes, hkind]
  · rw [if_pos (by cases e <;> exact hc.1)]
    exact forall₂_elementTypes_of_spells hc

/-- A definition embeds what the struct or the interface does that it defines. -/
theorem forall₂_specTypes_of_spells {t : TypeSpec} (h : (TypeEntry.spec t).Spells n) :
    List.Forall₂ TypeForm.Stands t.body.embeddedTypes (specTypes n) := by
  obtain ⟨-, -, -, hchildren⟩ := h
  have hname := map_text_role? hchildren "name" (some t.name.text) (by simp [filter_textSlots])
  obtain ⟨c, hc, -⟩ := Option.map_eq_some_iff.1 hname
  obtain ⟨d, hd, hbody⟩ := exists_role? hchildren "type" t.body.Spells
    (by simp [filter_textSlots])
  unfold specTypes
  simp only [hc, hd]
  cases hform : t.body with
  | struct fields =>
    rw [hform] at hbody
    rw [if_pos (by simp [hbody.1])]
    exact forall₂_structTypes_of_spells hbody
  | interface elements =>
    rw [hform] at hbody
    rw [if_neg (by simp [hbody.1]), if_pos (by simp [hbody.1])]
    exact forall₂_interfaceTypes_of_spells hbody
  | other kind hkind =>
    rw [hform] at hbody
    obtain rfl : d.kind = kind := hbody
    rw [if_neg (by simpa using hkind.1), if_neg (by simpa using hkind.2)]
    exact .nil

/-- A tree of a source file embeds the types that the file embeds. -/
theorem forall₂_embeddedTypes_of_spells {f : SourceFile} (h : f.Spells n) :
    List.Forall₂ TypeForm.Stands f.embeddedTypes (embeddedTypes n) := by
  exact List.rel_flatMap (forall₂_typeSpecs_of_spells h) fun _ _ hc =>
    forall₂_specTypes_of_spells hc

/-- A tree nests no type too deep if the file does not, and some type if the file nests one deeper
still by one. -/
theorem nestsTooDeep_of_spells {f : SourceFile} (h : f.Spells n) :
    ((∀ t ∈ f.embeddedTypes, t.nesting ≤ maxNesting) → nestsTooDeep n = false) ∧
      ((∃ t ∈ f.embeddedTypes, maxNesting + 1 < t.nesting) → nestsTooDeep n = true) := by
  have htypes := forall₂_embeddedTypes_of_spells h
  rw [nestsTooDeep_eq_false_iff, nestsTooDeep_eq_true_iff]
  generalize f.embeddedTypes = ts at htypes ⊢
  generalize embeddedTypes n = ns at htypes ⊢
  induction htypes with
  | nil => simp
  | @cons t c ts ns ht _ ih =>
    obtain ⟨hle, hge⟩ := ht.nesting_le
    refine ⟨fun hall => ?_, fun ⟨u, hu, hdeep⟩ => ?_⟩
    · obtain ⟨hhead, htail⟩ := List.forall_mem_cons.1 hall
      exact List.forall_mem_cons.2 ⟨Nat.le_trans hle hhead, ih.1 htail⟩
    · rcases List.mem_cons.1 hu with rfl | hu
      · exact ⟨c, List.mem_cons_self, by omega⟩
      · obtain ⟨d, hd, hdeep⟩ := ih.2 ⟨u, hu, hdeep⟩
        exact ⟨d, List.mem_cons_of_mem _ hd, hdeep⟩

end Nesting

/-- Extraction is exact unless the tree nests a type too deep: then come the package of the file and
what the file declares, in order. Otherwise the reading fails. The nesting of the types of the file
tells which it is, where a star beside the node of its base makes no difference. -/
theorem contents_of_spells {f : SourceFile} {root : Node} (h : f.Spells root) (file : File.Path) :
    contents root file =
        (if nestsTooDeep root then .error tooDeep
          else .ok ⟨f.package.text, f.declarations file⟩) ∧
      ((∀ t ∈ f.embeddedTypes, t.nesting ≤ maxNesting) → nestsTooDeep root = false) ∧
      ((∃ t ∈ f.embeddedTypes, maxNesting + 1 < t.nesting) → nestsTooDeep root = true) := by
  refine ⟨?_, nestsTooDeep_of_spells h⟩
  unfold contents
  rw [if_neg (by simp [h.hasError]), packageName?_of_spells h]
  simp only [filterMap_typeSpecs_of_spells h]

/-- A source file with a struct and an interface, and with types that do not count: one inside a
function and another name for a type. -/
def sampleFile : SourceFile where
  package := ⟨"p", by decide +kernel⟩
  items := [
    .types [.spec {
      name := ⟨"A", by decide +kernel⟩
      body := .struct [
        .named ⟨"X", by decide +kernel⟩ [⟨"Y", by decide +kernel⟩] "int"
          (some "\"json:\\\"x\\\"\"") 4,
        .unnamed (.pointer (.generic (.qualified ⟨"q", by decide +kernel⟩ ⟨"T", by decide +kernel⟩)
          "[int]")) none]
      line := 3 }],
    .function [[.spec { name := ⟨"L", by decide +kernel⟩, body := .struct [], line := 9 }]],
    .types [
      .synonym ⟨"S", by decide +kernel⟩ (.struct []),
      .spec {
        name := ⟨"I", by decide +kernel⟩
        body := .interface [
          .method ⟨"Len", by decide +kernel⟩ "()" (some "int") 15,
          .single (.named ⟨"U", by decide +kernel⟩),
          .single (.approximation (.named ⟨"V", by decide +kernel⟩)),
          .union (.named ⟨"V", by decide +kernel⟩) (.named ⟨"W", by decide +kernel⟩) []]
        line := 14 }]]

/-- What is extracted from a tree of the sample. -/
theorem contents_of_spells_sampleFile :
    let file : File.Path := ⟨.relative, ["a.go"]⟩
    sampleFile.Spells sampleFile.tree ∧ contents sampleFile.tree file = .ok ⟨"p", [
      ⟨"A", "p", "struct", [⟨"X", "int", some "json:\"x\"", 4⟩, ⟨"Y", "int", some "json:\"x\"", 4⟩],
        ["T"], file, 3⟩,
      ⟨"I", "p", "interface", [⟨"Len", "func() int", none, 15⟩], ["U"], file, 14⟩]⟩ := by
  intro file
  have h := sampleFile.spells_tree
  obtain ⟨hcontents, hshallow, -⟩ := contents_of_spells h file
  refine ⟨h, ?_⟩
  rw [hcontents, hshallow (by decide +kernel)]
  decide +kernel

/-- A type behind stars. -/
def TypeForm.starred (t : TypeForm) : Nat → TypeForm
  | 0 => t
  | k + 1 => .pointer (t.starred k)

/-- Each star nests a type one deeper. -/
theorem TypeForm.nesting_starred (t : TypeForm) (k : Nat) :
    (t.starred k).nesting = t.nesting + k := by
  induction k with
  | zero => rfl
  | succ k ih => rw [starred, nesting, ih, Nat.add_assoc]

/-- Stars do not change the implicit name. -/
theorem TypeForm.implicitName_starred (t : TypeForm) (k : Nat) :
    (t.starred k).implicitName = t.implicitName := by
  induction k with
  | zero => rfl
  | succ k ih => rw [starred, implicitName, ih]

/-- A source file with an interface that embeds a type behind stars. -/
def starredFile (k : Nat) : SourceFile where
  package := ⟨"p", by decide +kernel⟩
  items := [.types [.spec {
    name := ⟨"I", by decide +kernel⟩
    body := .interface [.single ((TypeForm.named ⟨"Foo", by decide +kernel⟩).starred k)]
    line := 3 }]]

/-- Behind 1200 stars a type is not embedded any more: the reading of its file fails. -/
theorem contents_starredFile_eq_error :
    let file : File.Path := ⟨.relative, ["a.go"]⟩
    (starredFile 1200).Spells (starredFile 1200).tree ∧
      (starredFile 1200).declarations file = [⟨"I", "p", "interface", [], ["Foo"], file, 3⟩] ∧
      contents (starredFile 1200).tree file = .error tooDeep := by
  intro file
  have h := (starredFile 1200).spells_tree
  refine ⟨h, ?_, ?_⟩
  · simp [SourceFile.declarations, starredFile, Item.declarations, TypeEntry.declaration?,
      TypeSpec.declaration?, Element.members, Element.embedded, TypeForm.implicitName_starred,
      TypeForm.implicitName, Declaration.interfaceKind]
  · have hdeep : ∃ t ∈ (starredFile 1200).embeddedTypes, maxNesting + 1 < t.nesting :=
      ⟨_, List.mem_singleton_self _, by rw [TypeForm.nesting_starred]; decide⟩
    unfold contents
    rw [if_neg (by simp [h.hasError]), packageName?_of_spells h]
    exact if_pos ((nestsTooDeep_of_spells h).2 hdeep)

end Abstract

end TypeWeave.Go
