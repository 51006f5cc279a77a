import TypeWeave.Go.Extraction
import Mathlib.Data.List.Basic

/-!
# The base of a type

A pointer or a generic type is embedded under the name of its base. The base is one of the children
of its node, so that what depends on the bases alone is told by one equation: the embedded name,
`embeddedName_eq`, and how deep types stand one inside the other, `nesting_eq`. What a file embeds
are the names of its embedded types, `flatMap_embedded`.
-/

namespace TypeWeave.Go

/-- What holds of a node when it holds of its children holds of every node. -/
@[elab_as_elim]
theorem Node.induction_children {motive : Node → Prop}
    (step : ∀ n : Node, (∀ c ∈ n.children, motive c) → motive n) (n : Node) : motive n :=
  step n fun c hc =>
    have : sizeOf c < sizeOf n := by
      obtain ⟨⟩ := n
      have := List.sizeOf_lt_of_mem hc
      simp only [Node.mk.sizeOf_spec] at this ⊢
      omega
    induction_children step c
termination_by sizeOf n

namespace Extraction

variable {n : Node}

/-- A child in a role is a child. -/
theorem mem_children_of_role? {c : Node} {role : String} (h : n.role? role = some c) :
    c ∈ n.children :=
  (List.mem_filter.1 (List.mem_of_mem_head? h)).1

/-- A child that is more than punctuation is a child. -/
theorem mem_children_of_mem_named {c : Node} (h : c ∈ n.named) : c ∈ n.children :=
  (List.mem_filter.1 h).1

section Bases

/-- The node that the embedded name of a pointer or a generic type is taken from: the one in the
role of its type or, if there is none, the first that is more than punctuation. -/
def base? (n : Node) : Option Node :=
  if n.kind == "pointer_type" || n.kind == "generic_type" then
    (n.role? "type").or (n.children.find? (·.isNamed))
  else none

/-- The base is a child. -/
theorem mem_children_of_base? {c : Node} (h : base? n = some c) : c ∈ n.children := by
  unfold base? at h
  split at h
  · rcases Option.or_eq_some_iff.1 h with hc | ⟨-, hc⟩
    · exact mem_children_of_role? hc
    · exact List.mem_of_find?_eq_some hc
  · cases h

/-- Only pointers and generic types have a base. -/
theorem kind_of_base? {c : Node} (h : base? n = some c) :
    n.kind = "pointer_type" ∨ n.kind = "generic_type" := by
  unfold base? at h
  split at h
  case isTrue hkind => simpa using hkind
  case isFalse => cases h

/-- The base of a pointer or a generic type. -/
theorem base?_of_kind (h : n.kind = "pointer_type" ∨ n.kind = "generic_type") :
    base? n = (n.role? "type").or (n.children.find? (·.isNamed)) := by
  rcases h with h | h <;> simp [base?, h]

/-- Other types have none. -/
theorem base?_eq_none (h : ¬(n.kind = "pointer_type" ∨ n.kind = "generic_type")) :
    base? n = none :=
  if_neg (by simpa using h)

/-- The embedded name of the first node in the role of the base. -/
theorem embeddedBase_eq (ns : List Node) :
    embeddedBase ns = (ns.find? (·.field == some "type")).bind embeddedName := by
  induction ns with
  | nil => rfl
  | cons n ns ih =>
    rw [embeddedBase, List.find?_cons, ih]
    cases n.field == some "type" <;> rfl

/-- The embedded name of the first node that is more than punctuation. -/
theorem embeddedFirst_eq (ns : List Node) :
    embeddedFirst ns = (ns.find? (·.isNamed)).bind embeddedName := by
  induction ns with
  | nil => rfl
  | cons n ns ih =>
    rw [embeddedFirst, List.find?_cons, ih]
    cases n.isNamed <;> rfl

/-- The nesting of the first node in the role of the base. -/
theorem nestingBase_eq (ns : List Node) :
    nestingBase ns = (ns.find? (·.field == some "type")).elim 1 nesting := by
  induction ns with
  | nil => rfl
  | cons n ns ih =>
    rw [nestingBase, List.find?_cons, ih]
    cases n.field == some "type" <;> rfl

/-- The nesting of the first node that is more than punctuation. -/
theorem nestingFirst_eq (ns : List Node) :
    nestingFirst ns = (ns.find? (·.isNamed)).elim 1 nesting := by
  induction ns with
  | nil => rfl
  | cons n ns ih =>
    rw [nestingFirst, List.find?_cons, ih]
    cases n.isNamed <;> rfl

/-- A child has the role of the base exactly if there is a first one that has it. -/
theorem any_field_eq (ns : List Node) (role : String) :
    ns.any (·.field == some role) = (ns.find? (·.field == some role)).isSome := by
  rw [Bool.eq_iff_iff, List.find?_isSome, List.any_eq_true]

/-- The embedded name of a node: that of a name, or that of its base. -/
theorem embeddedName_eq (n : Node) : embeddedName n =
    if n.kind == "type_identifier" || n.kind == "interface_type_name" then some (lastPart n.text)
    else if n.kind == "qualified_type" then
      some (((n.role? "name").map (·.text)).getD (lastPart n.text))
    else (base? n).bind embeddedName := by
  have hrole (role : String) : n.role? role = n.children.find? (·.field == some role) := by
    rw [Node.role?, Node.inRole, List.head?_filter]
  rw [base?, hrole, hrole]
  obtain ⟨kind, text, _, _, _, _, _, _, _, children⟩ := n
  rw [embeddedName, embeddedBase_eq, embeddedFirst_eq, any_field_eq]
  dsimp only
  split
  · rfl
  · split
    · cases children.find? (·.field == some "name") <;> rfl
    · split
      · cases children.find? (·.field == some "type") <;> rfl
      · rfl

/-- A pointer or a generic type is embedded as its base. -/
theorem embeddedName_of_kind (h : n.kind = "pointer_type" ∨ n.kind = "generic_type") :
    embeddedName n = (base? n).bind embeddedName := by
  rw [embeddedName_eq n]
  rcases h with h | h <;> simp [h]

/-- The nesting of a node: that of the base in a pointer or a generic type. -/
theorem nesting_eq (n : Node) : nesting n =
    if n.kind == "pointer_type" || n.kind == "generic_type" then (base? n).elim 1 nesting + 1
    else 1 := by
  have hrole : n.role? "type" = n.children.find? (·.field == some "type") := by
    rw [Node.role?, Node.inRole, List.head?_filter]
  rw [base?, hrole]
  obtain ⟨kind, _, _, _, _, _, _, _, _, children⟩ := n
  rw [nesting, nestingBase_eq, nestingFirst_eq, any_field_eq]
  dsimp only
  split
  · cases children.find? (·.field == some "type") <;> rfl
  · rfl

/-- The nesting of a pointer or a generic type is one more than that of its base. -/
theorem nesting_of_kind (h : n.kind = "pointer_type" ∨ n.kind = "generic_type") :
    nesting n = (base? n).elim 1 nesting + 1 := by
  rw [nesting_eq n]
  rcases h with h | h <;> simp [h]

/-- Nothing stands inside any other type. -/
theorem nesting_eq_one (h : ¬(n.kind = "pointer_type" ∨ n.kind = "generic_type")) :
    nesting n = 1 := by
  rw [nesting_eq n, if_neg (by simpa using h)]

theorem one_le_nesting (n : Node) : 1 ≤ nesting n := by
  rw [nesting_eq]
  split <;> omega

theorem nestsTooDeep_eq_false_iff {root : Node} :
    nestsTooDeep root = false ↔ ∀ t ∈ embeddedTypes root, nesting t ≤ maxNesting := by
  simp [nestsTooDeep]

theorem nestsTooDeep_eq_true_iff {root : Node} :
    nestsTooDeep root = true ↔ ∃ t ∈ embeddedTypes root, maxNesting < nesting t := by
  simp [nestsTooDeep]

end Bases

section Types

/-- Parts have their members and embedded names in order. -/
theorem concat_eq (ps : List Parts) :
    Parts.concat ps = ⟨ps.flatMap (·.members), ps.flatMap (·.embedded)⟩ := by
  have haux (a : Parts) : ps.foldl Parts.append a =
      a.append ⟨ps.flatMap (·.members), ps.flatMap (·.embedded)⟩ := by
    induction ps generalizing a with
    | nil => simp [Parts.append]
    | cons p ps ih => simp [ih, Parts.append]
  exact haux {}

theorem embedded_fieldParts (n : Node) :
    (fieldParts n).embedded = (fieldTypes n).filterMap embeddedName := by
  unfold fieldParts fieldTypes
  cases n.role? "type" with
  | none => cases n.inRole "name" <;> rfl
  | some type =>
    cases n.inRole "name" with
    | nil => cases h : embeddedName type <;> simp [embedding, h]
    | cons name names => rfl

theorem embedded_structParts (n : Node) :
    (structParts n).embedded = (structTypes n).filterMap embeddedName := by
  simp only [structParts, structTypes, concat_eq, List.flatMap_map, List.filterMap_flatMap,
    embedded_fieldParts]

theorem embedded_elementParts (n : Node) :
    (elementParts n).embedded = (elementTypes n).filterMap embeddedName := by
  have hembedding (c : Node) : (embedding c).embedded = [c].filterMap embeddedName := by
    cases h : embeddedName c <;> simp [embedding, h]
  unfold elementParts elementTypes
  split
  · split <;> rfl
  · split
    · generalize n.named.filter (·.kind != "comment") = types
      rcases types with _ | ⟨type, _ | _⟩
      · exact hembedding n
      · exact hembedding type
      · rfl
    · rfl

theorem embedded_interfaceParts (n : Node) :
    (interfaceParts n).embedded = (interfaceTypes n).filterMap embeddedName := by
  simp only [interfaceParts, interfaceTypes, concat_eq, List.flatMap_map,
    List.filterMap_flatMap, embedded_elementParts]

/-- What a declaration embeds are the names of the types that it embeds. -/
theorem embedded_declaration? (package : String) (file : File.Path) (spec : Node) :
    (declaration? package file spec).toList.flatMap (·.embedded) =
      (specTypes spec).filterMap embeddedName := by
  unfold declaration? specTypes
  cases spec.role? "name" with
  | none => rfl
  | some name =>
    cases spec.role? "type" with
    | none => rfl
    | some type =>
      simp only [Option.bind_eq_bind, Option.bind_some]
      split
      · simp [embedded_structParts]
      · split
        · simp [embedded_interfaceParts]
        · rfl

/-- What the declarations of a file embed are the names of the types that they embed. -/
theorem flatMap_embedded (package : String) (file : File.Path) (root : Node) :
    ((typeSpecs root).filterMap (declaration? package file)).flatMap (·.embedded) =
      (embeddedTypes root).filterMap embeddedName := by
  unfold embeddedTypes
  rw [List.filterMap_flatMap, List.filterMap_eq_flatMap_toList, List.flatMap_assoc]
  simp only [embedded_declaration?]

end Types

end Extraction

end TypeWeave.Go
