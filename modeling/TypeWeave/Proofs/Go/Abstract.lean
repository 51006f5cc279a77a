import TypeWeave.Go.Declaration
import TypeWeave.Go.Lexeme
import TypeWeave.Go.SyntaxTree

/-!
# Source files without their trees

What a source file says about types, without the nodes of its tree: its package and its top level,
with the fields of structs and the elements of interfaces. What it declares is read off directly.
`SourceFile.Spells` says which trees stand for such a file. Punctuation may stand anywhere between
what a node holds, and so may comments, but for the nodes of a pointer or a generic type whose base
has no role. Kinds of nodes may be those of any release of the grammar.
-/

namespace TypeWeave.Go.Abstract

/-- A name. -/
structure Identifier where
  text : String
  isName : Lexeme.isName text.toList = true

/-- The kinds of nodes that are not those of any other type: types with a name, the types around
another one, and comments. -/
def ownKinds : List String :=
  ["type_identifier", "interface_type_name", "qualified_type", "pointer_type", "generic_type",
    "negated_type", "comment"]

/-- Types, as far as embedding tells them apart. -/
inductive TypeForm where
  | named (name : Identifier)
  | qualified (package name : Identifier)
  | pointer (base : TypeForm)
  | generic (base : TypeForm) (arguments : String)
  /-- All types with the given one as base. -/
  | approximation (base : TypeForm)
  | other (kind : String) (h : kind ∉ ownKinds)

/-- The name of a field that is declared by its type alone. -/
def TypeForm.implicitName : TypeForm → Option String
  | .named name => some name.text
  | .qualified _ name => some name.text
  | .pointer base => base.implicitName
  | .generic base _ => base.implicitName
  | .approximation _ => none
  | .other _ _ => none

/-- The type that a pointer points to, or that a generic type is an instance of. -/
def TypeForm.base? : TypeForm → Option TypeForm
  | .pointer base => some base
  | .generic base _ => some base
  | _ => none

/-- How many types stand one inside the other from a type down to the one with its name. -/
def TypeForm.nesting : TypeForm → Nat
  | .pointer base => base.nesting + 1
  | .generic base _ => base.nesting + 1
  | _ => 1

/-- A declaration in a struct: one or more names of a type, or a type alone. -/
inductive Field where
  | named (first : Identifier) (more : List Identifier) (type : String) (tag : Option String)
    (line : Int)
  | unnamed (type : TypeForm) (tag : Option String)

/-- Each name is a member. -/
def Field.members : Field → List Member
  | .named first more type tag line =>
    (first :: more).map fun name => ⟨name.text, type, tag.map Tag.unquote, line⟩
  | .unnamed _ _ => []

/-- A type alone is embedded under its implicit name. -/
def Field.embedded : Field → List String
  | .named .. => []
  | .unnamed type _ => type.implicitName.toList

/-- The type of a field without names. -/
def Field.embeddedTypes : Field → List TypeForm
  | .named .. => []
  | .unnamed type _ => [type]

/-- An element of an interface: a method, a single type or a union of at least two. -/
inductive Element where
  | method (name : Identifier) (parameters : String) (result : Option String) (line : Int)
  | single (type : TypeForm)
  | union (first second : TypeForm) (more : List TypeForm)

/-- Each method is a member, whose type is its signature. -/
def Element.members : Element → List Member
  | .method name parameters result line =>
    [⟨name.text, "func" ++ parameters ++ (result.map (" " ++ ·)).getD "", none, line⟩]
  | .single _ => []
  | .union .. => []

/-- A single type is embedded under its implicit name. -/
def Element.embedded : Element → List String
  | .method .. => []
  | .single type => type.implicitName.toList
  | .union .. => []

/-- The type of an element that holds just one. -/
def Element.embeddedTypes : Element → List TypeForm
  | .method .. => []
  | .single type => [type]
  | .union .. => []

/-- What a type is declared to be. -/
inductive Body where
  | struct (fields : List Field)
  | interface (elements : List Element)
  | other (kind : String) (h : kind ≠ "struct_type" ∧ kind ≠ "interface_type")

/-- The types that a struct or an interface embeds. -/
def Body.embeddedTypes : Body → List TypeForm
  | .struct fields => fields.flatMap Field.embeddedTypes
  | .interface elements => elements.flatMap Element.embeddedTypes
  | .other _ _ => []

/-- The definition of a type, with the text of its type parameters. -/
structure TypeSpec where
  name : Identifier
  parameters : Option String := none
  body : Body
  line : Int

/-- Structs and interfaces are declared. -/
def TypeSpec.declaration? (package : String) (file : File.Path) (s : TypeSpec) :
    Option Declaration :=
  match s.body with
  | .struct fields =>
    some ⟨s.name.text, package, Declaration.structKind, fields.flatMap Field.members,
      fields.flatMap Field.embedded, file, s.line⟩
  | .interface elements =>
    some ⟨s.name.text, package, Declaration.interfaceKind, elements.flatMap Element.members,
      elements.flatMap Element.embedded, file, s.line⟩
  | .other _ _ => none

/-- What stands behind the keyword of a type declaration, once or in a group. -/
inductive TypeEntry where
  | spec (s : TypeSpec)
  | synonym (name : Identifier) (body : Body)

/-- A second name for a type declares nothing. -/
def TypeEntry.declaration? (package : String) (file : File.Path) : TypeEntry → Option Declaration
  | .spec s => s.declaration? package file
  | .synonym _ _ => none

/-- The definition, if it is one. -/
def TypeEntry.spec? : TypeEntry → Option TypeSpec
  | .spec s => some s
  | .synonym _ _ => none

/-- What stands at the top level: a type declaration, a function with the type declarations inside
it, or anything else. -/
inductive Item where
  | types (entries : List TypeEntry)
  | function (inside : List (List TypeEntry))
  | other (kind : String) (h : kind ≠ "type_declaration" ∧ kind ≠ "package_clause")

/-- Only type declarations at the top level count. -/
def Item.declarations (package : String) (file : File.Path) : Item → List Declaration
  | .types entries => entries.filterMap (TypeEntry.declaration? package file)
  | .function _ => []
  | .other _ _ => []

/-- The definitions at the top level. -/
def Item.typeSpecs : Item → List TypeSpec
  | .types entries => entries.filterMap TypeEntry.spec?
  | .function _ => []
  | .other _ _ => []

/-- A source file. -/
structure SourceFile where
  package : Identifier
  items : List Item

/-- What a source file declares, in order. -/
def SourceFile.declarations (f : SourceFile) (file : File.Path) : List Declaration :=
  f.items.flatMap (Item.declarations f.package.text file)

/-- The definitions of types at the top level of a source file, in order. -/
def SourceFile.typeSpecs (f : SourceFile) : List TypeSpec := f.items.flatMap Item.typeSpecs

/-- The types that a source file embeds, in order. -/
def SourceFile.embeddedTypes (f : SourceFile) : List TypeForm :=
  f.typeSpecs.flatMap (·.body.embeddedTypes)

/-- Punctuation. -/
def IsToken (n : Node) : Prop := n.field = none ∧ n.isNamed = false

/-- Punctuation or a comment. -/
def IsTrivia (n : Node) : Prop := n.field = none ∧ (n.isNamed = false ∨ n.kind = "comment")

/-- Nodes that stand for some things in order, with others of no meaning between them. -/
inductive Interleaved {α : Type} (T : Node → Prop) (S : α → Node → Prop) :
    List α → List Node → Prop where
  | nil : Interleaved T S [] []
  | skip {as : List α} {n : Node} {ns : List Node} (h : T n) (hs : Interleaved T S as ns) :
    Interleaved T S as (n :: ns)
  | cons {a : α} {as : List α} {n : Node} {ns : List Node} (h : S a n)
    (hs : Interleaved T S as ns) : Interleaved T S (a :: as) (n :: ns)

/-- A child with its role, if it has one, and what it is like. -/
structure Slot where
  role : Option String
  Holds : Node → Prop

/-- A node with the role, and like that. -/
def Slot.Fills (s : Slot) (n : Node) : Prop := n.field = s.role ∧ s.Holds n

/-- Children in one role with some texts. -/
def textSlots (role : String) (texts : List String) : List Slot :=
  texts.map fun text => ⟨some role, fun n => n.text = text⟩

/-- The nodes of a type. A type around another one has it in the role of its type, or as its first
child that is more than punctuation. -/
def TypeForm.Spells : TypeForm → Node → Prop
  | .named name, n => n.isNamed = true ∧
      (n.kind = "type_identifier" ∨ n.kind = "interface_type_name") ∧ n.text = name.text
  | .qualified package name, n => n.isNamed = true ∧
      (n.kind = "qualified_type" ∧ Interleaved IsTrivia Slot.Fills
          (textSlots "package" [package.text] ++ textSlots "name" [name.text]) n.children ∨
        (n.kind = "qualified_type" ∧ n.children = [] ∨ n.kind = "interface_type_name") ∧
          n.text = package.text ++ "." ++ name.text)
  | .pointer base, n => n.isNamed = true ∧ n.kind = "pointer_type" ∧
      (Interleaved IsTrivia Slot.Fills [⟨some "type", base.Spells⟩] n.children ∨
        Interleaved IsToken Slot.Fills [⟨none, base.Spells⟩] n.children)
  | .generic base arguments, n => n.isNamed = true ∧ n.kind = "generic_type" ∧
      (Interleaved IsTrivia Slot.Fills
          (⟨some "type", base.Spells⟩ :: textSlots "type_arguments" [arguments]) n.children ∨
        Interleaved IsToken Slot.Fills
          [⟨none, base.Spells⟩, ⟨none, fun c => c.text = arguments⟩] n.children)
  | .approximation base, n => n.isNamed = true ∧ n.kind = "negated_type" ∧
      Interleaved IsTrivia Slot.Fills [⟨none, base.Spells⟩] n.children
  | .other kind _, n => n.isNamed = true ∧ n.kind = kind

/-- The nodes of a field. The star of a type alone stands beside the type. -/
def Field.Spells : Field → Node → Prop
  | .named first more type tag line, n => n.isNamed = true ∧ n.kind = "field_declaration" ∧
      n.row + 1 = line ∧ Interleaved IsTrivia Slot.Fills
        (textSlots "name" ((first :: more).map (·.text)) ++ textSlots "type" [type] ++
          textSlots "tag" tag.toList) n.children
  | .unnamed type tag, n => n.isNamed = true ∧ n.kind = "field_declaration" ∧
      (Interleaved IsTrivia Slot.Fills
          (⟨some "type", type.Spells⟩ :: textSlots "tag" tag.toList) n.children ∨
        ∃ base, type = .pointer base ∧ (∃ star ∈ n.children, star.kind = "*") ∧
          Interleaved IsTrivia Slot.Fills
            (⟨some "type", base.Spells⟩ :: textSlots "tag" tag.toList) n.children)

/-- The nodes of an element. A single type may stand for itself. -/
def Element.Spells : Element → Node → Prop
  | .method name parameters result line, n => n.isNamed = true ∧
      (n.kind = "method_elem" ∨ n.kind = "method_spec") ∧ n.row + 1 = line ∧
      Interleaved IsTrivia Slot.Fills
        (textSlots "name" [name.text] ++ textSlots "parameters" [parameters] ++
          textSlots "result" result.toList) n.children
  | .single type, n => n.isNamed = true ∧
      (n.kind ∈ ["type_elem", "constraint_elem", "interface_type_name"] ∧
          Interleaved IsTrivia TypeForm.Spells [type] n.children ∨
        n.kind = "interface_type_name" ∧ (∀ c ∈ n.children, IsTrivia c) ∧ type.Spells n)
  | .union first second more, n => n.isNamed = true ∧
      (n.kind = "type_elem" ∨ n.kind = "constraint_elem") ∧
      Interleaved IsTrivia TypeForm.Spells (first :: second :: more) n.children

/-- The nodes of what a type is declared to be. -/
def Body.Spells : Body → Node → Prop
  | .struct fields, n => n.kind = "struct_type" ∧
      Interleaved IsTrivia Slot.Fills [⟨none, fun c => c.isNamed = true ∧
        c.kind = "field_declaration_list" ∧ Interleaved IsTrivia Field.Spells fields c.children⟩]
        n.children
  | .interface elements, n => n.kind = "interface_type" ∧
      Interleaved IsTrivia Element.Spells elements n.children
  | .other kind _, n => n.kind = kind

/-- The nodes of a type declaration's entry. -/
def TypeEntry.Spells : TypeEntry → Node → Prop
  | .spec s, n => n.isNamed = true ∧ n.kind = "type_spec" ∧ n.row + 1 = s.line ∧
      Interleaved IsTrivia Slot.Fills
        (textSlots "name" [s.name.text] ++ textSlots "type_parameters" s.parameters.toList ++
          [⟨some "type", s.body.Spells⟩]) n.children
  | .synonym name body, n => n.isNamed = true ∧ n.kind = "type_alias" ∧
      Interleaved IsTrivia Slot.Fills
        (textSlots "name" [name.text] ++ [⟨some "type", body.Spells⟩]) n.children

/-- The node of a type declaration. -/
def SpellsTypes (entries : List TypeEntry) (n : Node) : Prop :=
  n.isNamed = true ∧ n.kind = "type_declaration" ∧
    Interleaved IsTrivia TypeEntry.Spells entries n.children

/-- A node somewhere below another one. -/
inductive Below : Node → Node → Prop where
  | child {c n : Node} (h : c ∈ n.children) : Below c n
  | deeper {d c n : Node} (h : c ∈ n.children) (hd : Below d c) : Below d n

/-- The nodes of what stands at the top level. -/
def Item.Spells : Item → Node → Prop
  | .types entries, n => SpellsTypes entries n
  | .function inside, n => n.isNamed = true ∧
      (n.kind = "function_declaration" ∨ n.kind = "method_declaration") ∧
      ∀ entries ∈ inside, ∃ d, Below d n ∧ SpellsTypes entries d
  | .other kind _, n => n.kind = kind

/-- The trees of a source file: without errors, the package clause and then the top level. -/
structure SourceFile.Spells (f : SourceFile) (root : Node) : Prop where
  kind : root.kind = "source_file"
  hasError : root.hasError = false
  children : ∃ before clause after, root.children = before ++ clause :: after ∧
    (∀ n ∈ before, IsTrivia n) ∧
    (clause.isNamed = true ∧ clause.kind = "package_clause" ∧
      Interleaved IsTrivia Slot.Fills [⟨none, fun n => n.isNamed = true ∧
        n.kind = "package_identifier" ∧ n.text = f.package.text⟩] clause.children) ∧
    Interleaved IsTrivia Item.Spells f.items after

/-- A node of punctuation. -/
def token (text : String) : Node := { kind := text, text := text, isNamed := false }

/-- Children of a kind in one role with some texts. -/
def textNodes (role kind : String) (texts : List String) : List Node :=
  texts.map fun text => { kind := kind, text := text, field := some role }

/-- A node of a type. -/
def TypeForm.tree : TypeForm → Node
  | .named name => { kind := "type_identifier", text := name.text }
  | .qualified package name => {
      kind := "qualified_type"
      text := package.text ++ "." ++ name.text
      children := textNodes "package" "package_identifier" [package.text] ++
        token "." :: textNodes "name" "type_identifier" [name.text] }
  | .pointer base => {
      kind := "pointer_type"
      text := "*" ++ base.tree.text
      children := [token "*", base.tree] }
  | .generic base arguments => {
      kind := "generic_type"
      text := base.tree.text ++ arguments
      children := base.tree.as "type" ::
        textNodes "type_arguments" "type_arguments" [arguments] }
  | .approximation base => {
      kind := "negated_type"
      text := "~" ++ base.tree.text
      children := [token "~", base.tree] }
  | .other kind _ => { kind := kind }

/-- A node of a field. -/
def Field.tree : Field → Node
  | .named first more type tag line => {
      kind := "field_declaration"
      row := line - 1
      children := textNodes "name" "field_identifier" ((first :: more).map (·.text)) ++
        textNodes "type" "type" [type] ++ textNodes "tag" "string_literal" tag.toList }
  | .unnamed type tag => {
      kind := "field_declaration"
      children := type.tree.as "type" :: textNodes "tag" "string_literal" tag.toList }

/-- A node of an element. -/
def Element.tree : Element → Node
  | .method name parameters result line => {
      kind := "method_elem"
      row := line - 1
      children := textNodes "name" "field_identifier" [name.text] ++
        textNodes "parameters" "parameter_list" [parameters] ++
        textNodes "result" "type" result.toList }
  | .single type => { kind := "type_elem", children := [type.tree] }
  | .union first second more => {
      kind := "type_elem"
      children := first.tree :: token "|" :: second.tree ::
        more.flatMap fun type => [token "|", type.tree] }

/-- A node of what a type is declared to be. -/
def Body.tree : Body → Node
  | .struct fields => {
      kind := "struct_type"
      children := [token "struct",
        { kind := "field_declaration_list", children := fields.map Field.tree }] }
  | .interface elements => {
      kind := "interface_type"
      children := token "interface" :: elements.map Element.tree }
  | .other kind _ => { kind := kind }

/-- A node of a type declaration's entry. -/
def TypeEntry.tree : TypeEntry → Node
  | .spec s => {
      kind := "type_spec"
      row := s.line - 1
      children := textNodes "name" "type_identifier" [s.name.text] ++
        textNodes "type_parameters" "type_parameter_list" s.parameters.toList ++
        [s.body.tree.as "type"] }
  | .synonym name body => {
      kind := "type_alias"
      children := textNodes "name" "type_identifier" [name.text] ++
        token "=" :: [body.tree.as "type"] }

/-- A node of a type declaration. -/
def typesTree (entries : List TypeEntry) : Node :=
  { kind := "type_declaration", children := token "type" :: entries.map TypeEntry.tree }

/-- A node of what stands at the top level. -/
def Item.tree : Item → Node
  | .types entries => typesTree entries
  | .function inside => {
      kind := "function_declaration"
      children := token "func" :: inside.map typesTree }
  | .other kind _ => { kind := kind }

/-- A tree of a source file. -/
def SourceFile.tree (f : SourceFile) : Node where
  kind := "source_file"
  children := {
      kind := "package_clause"
      children := [token "package", { kind := "package_identifier", text := f.package.text }] } ::
    f.items.map Item.tree

section Existence

variable {α : Type} {T : Node → Prop} {S : α → Node → Prop} {xs ys : List α} {ns ms : List Node}

/-- Nodes may follow others. -/
theorem Interleaved.append (h : Interleaved T S xs ns) (h' : Interleaved T S ys ms) :
    Interleaved T S (xs ++ ys) (ns ++ ms) := by
  induction h with
  | nil => exact h'
  | skip hn _ ih => exact .skip hn ih
  | cons hn _ ih => exact .cons hn ih

/-- Nodes made of things stand for them. -/
theorem Interleaved.map {node : α → Node} (h : ∀ x, S x (node x)) (xs : List α) :
    Interleaved T S xs (xs.map node) := by
  induction xs with
  | nil => exact .nil
  | cons x xs ih => exact .cons (h x) ih

theorem isToken_token (text : String) : IsToken (token text) := ⟨rfl, rfl⟩

theorem IsToken.isTrivia {n : Node} (h : IsToken n) : IsTrivia n := ⟨h.1, Or.inl h.2⟩

/-- Children with some texts fill the slots of the texts. -/
theorem interleaved_textNodes (role kind : String) (texts : List String) :
    Interleaved T Slot.Fills (textSlots role texts) (textNodes role kind texts) := by
  induction texts with
  | nil => exact .nil
  | cons text texts ih => exact .cons ⟨rfl, rfl⟩ ih

/-- The role of a node does not matter for the type. -/
theorem TypeForm.spells_as (t : TypeForm) {n : Node} (h : t.Spells n) (role : String) :
    t.Spells (n.as role) := by
  cases t <;> exact h

theorem Body.spells_as (b : Body) {n : Node} (h : b.Spells n) (role : String) :
    b.Spells (n.as role) := by
  cases b <;> exact h

theorem TypeForm.field_tree (t : TypeForm) : t.tree.field = none := by cases t <;> rfl

theorem TypeForm.spells_tree (t : TypeForm) : t.Spells t.tree := by
  induction t with
  | named name => exact ⟨rfl, Or.inl rfl, rfl⟩
  | qualified package name =>
    exact ⟨rfl, Or.inl ⟨rfl, (interleaved_textNodes ..).append
      (.skip (isToken_token ".").isTrivia (interleaved_textNodes ..))⟩⟩
  | pointer base ih =>
    exact ⟨rfl, rfl, Or.inr (.skip (isToken_token "*") (.cons ⟨base.field_tree, ih⟩ .nil))⟩
  | generic base arguments ih =>
    exact ⟨rfl, rfl, Or.inl (.cons ⟨rfl, base.spells_as ih "type"⟩ (interleaved_textNodes ..))⟩
  | approximation base ih =>
    exact ⟨rfl, rfl, .skip (isToken_token "~").isTrivia (.cons ⟨base.field_tree, ih⟩ .nil)⟩
  | other kind h => exact ⟨rfl, rfl⟩

theorem Field.spells_tree (f : Field) : f.Spells f.tree := by
  cases f with
  | named first more type tag line =>
    exact ⟨rfl, rfl, Int.sub_add_cancel .., ((interleaved_textNodes ..).append
      (interleaved_textNodes ..)).append (interleaved_textNodes ..)⟩
  | unnamed type tag =>
    exact ⟨rfl, rfl, Or.inl
      (.cons ⟨rfl, type.spells_as type.spells_tree "type"⟩ (interleaved_textNodes ..))⟩

theorem Element.spells_tree (e : Element) : e.Spells e.tree := by
  cases e with
  | method name parameters result line =>
    exact ⟨rfl, Or.inl rfl, Int.sub_add_cancel .., ((interleaved_textNodes ..).append
      (interleaved_textNodes ..)).append (interleaved_textNodes ..)⟩
  | single type => exact ⟨rfl, Or.inl ⟨List.mem_cons_self, .cons type.spells_tree .nil⟩⟩
  | union first second more =>
    refine ⟨rfl, Or.inl rfl, .cons first.spells_tree
      (.skip (isToken_token "|").isTrivia (.cons second.spells_tree ?_))⟩
    induction more with
    | nil => exact .nil
    | cons type more ih =>
      exact .skip (isToken_token "|").isTrivia (.cons type.spells_tree ih)

theorem Body.spells_tree (b : Body) : b.Spells b.tree := by
  cases b with
  | struct fields =>
    exact ⟨rfl, .skip (isToken_token "struct").isTrivia
      (.cons ⟨rfl, rfl, rfl, .map Field.spells_tree fields⟩ .nil)⟩
  | interface elements =>
    exact ⟨rfl, .skip (isToken_token "interface").isTrivia (.map Element.spells_tree elements)⟩
  | other kind h => exact rfl

theorem TypeEntry.spells_tree (e : TypeEntry) : e.Spells e.tree := by
  cases e with
  | spec s =>
    have hbody := s.body.spells_as s.body.spells_tree "type"
    exact ⟨rfl, rfl, Int.sub_add_cancel .., ((interleaved_textNodes ..).append
      (interleaved_textNodes ..)).append (.cons ⟨rfl, hbody⟩ .nil)⟩
  | synonym name body =>
    have hbody := body.spells_as body.spells_tree "type"
    exact ⟨rfl, rfl, (interleaved_textNodes ..).append
      (.skip (isToken_token "=").isTrivia (.cons ⟨rfl, hbody⟩ .nil))⟩

theorem spellsTypes_typesTree (entries : List TypeEntry) :
    SpellsTypes entries (typesTree entries) :=
  ⟨rfl, rfl, .skip (isToken_token "type").isTrivia (.map TypeEntry.spells_tree entries)⟩

theorem Item.spells_tree (i : Item) : i.Spells i.tree := by
  cases i with
  | types entries => exact spellsTypes_typesTree entries
  | function inside =>
    refine ⟨rfl, Or.inl rfl, fun entries h => ⟨typesTree entries, .child ?_, ?_⟩⟩
    · exact List.mem_cons_of_mem _ (List.mem_map_of_mem h)
    · exact spellsTypes_typesTree entries
  | other kind h => exact rfl

/-- Every source file has a tree. -/
theorem SourceFile.spells_tree (f : SourceFile) : f.Spells f.tree where
  kind := rfl
  hasError := rfl
  children := ⟨[], _, _, rfl, by simp, ⟨rfl, rfl, .skip (isToken_token "package").isTrivia
    (.cons ⟨rfl, rfl, rfl, rfl⟩ .nil)⟩, .map Item.spells_tree f.items⟩

end Existence

end TypeWeave.Go.Abstract
