import TypeWeave.Proofs.Go.Embedded
import TypeWeave.Proofs.Go.LineEnd.Grammar

/-!
# Declarations and line ends

With a carriage return before each line feed a source file declares the same: what changes are the
texts of types and tags that are cut from several lines. The names of what is declared and embedded
are words, so they stay as they are. Main statements: `contents_moved` for the tree and
`contents_crlf` for the source.
-/

namespace TypeWeave.Go

open Text (crlf crlfString crlf_cons)

namespace Node

variable (n : Node)

@[simp] theorem moved_text : n.moved.text = crlfString n.text := by cases n; rfl

@[simp] theorem moved_row : n.moved.row = n.row := by cases n; rfl

@[simp] theorem moved_position : n.moved.position = n.position := by cases n; rfl

@[simp] theorem moved_hasError : n.moved.hasError = n.hasError := by cases n; rfl

@[simp] theorem moved_isNamed : n.moved.isNamed = n.isNamed := by cases n; rfl

@[simp] theorem moved_field : n.moved.field = n.field := by cases n; rfl

@[simp] theorem moved_children : n.moved.children = n.children.map Node.moved := by
  rw [← Node.movedAll_eq_map]
  cases n
  rfl

/-- A kind that is sought is found in the same nodes. -/
theorem kind_moved_beq {kind : String} (h : '\n' ∉ kind.toList) :
    (n.moved.kind == kind) = (n.kind == kind) := by
  rw [Bool.eq_iff_iff, beq_iff_eq, beq_iff_eq, moved_kind]
  split
  · rfl
  · exact Text.crlfString_eq_iff h

@[simp] theorem moved_named : n.moved.named = n.named.map Node.moved := by
  simp [named, List.filter_map, Function.comp_def]

@[simp] theorem moved_inRole (role : String) :
    n.moved.inRole role = (n.inRole role).map Node.moved := by
  simp [inRole, List.filter_map, Function.comp_def]

@[simp] theorem moved_role? (role : String) :
    n.moved.role? role = (n.role? role).map Node.moved := by
  rw [role?, moved_inRole, List.head?_map, role?]

theorem filter_kind_moved {kind : String} (h : '\n' ∉ kind.toList) (ns : List Node) :
    (ns.map Node.moved).filter (·.kind == kind) =
      (ns.filter (·.kind == kind)).map Node.moved := by
  simp [List.filter_map, Function.comp_def, kind_moved_beq _ h]

end Node

/-- The text of a tag literal is read in the same way. -/
theorem Tag.unquote_crlf (literal : String) :
    Tag.unquote (crlfString literal) = crlfString (Tag.unquote literal) := by
  have hlast (cs : List Char) : (crlf cs).getLast? = cs.getLast? := by
    rcases List.eq_nil_or_concat cs with rfl | ⟨cs, c, rfl⟩
    · rfl
    · by_cases hc : c = '\n' <;> simp [hc, crlf_cons]
  have henclosed {q : Char} (hn : q ≠ '\n') (hr : q ≠ '\r') (cs : List Char) :
      enclosedBy q (crlf cs) = enclosedBy q cs := by
    have hhead : ((crlf cs).head? == some q) = (cs.head? == some q) := by
      cases cs with
      | nil => rfl
      | cons c cs => by_cases hc : c = '\n' <;> simp [hc, crlf_cons, Ne.symm hn, Ne.symm hr]
    rw [enclosedBy, hhead, hlast, enclosedBy]
  have hbetween {q : Char} (hn : q ≠ '\n') {cs : List Char} (h : enclosedBy q cs = true) :
      between (crlf cs) = crlf (between cs) := by
    simp only [enclosedBy, Bool.and_eq_true, beq_iff_eq] at h
    obtain ⟨ds, rfl⟩ := List.head?_eq_some_iff.1 h.1
    rw [crlf_cons hn, between, between, List.tail_cons, List.tail_cons]
    rcases List.eq_nil_or_concat ds with rfl | ⟨ds, d, rfl⟩
    · rfl
    · rw [List.concat_eq_append, ← List.cons_append, List.getLast?_concat] at h
      obtain rfl := Option.some.inj h.2
      simp [crlf_cons hn]
  have hunescape (cs : List Char) : unescape (crlf cs) = crlf (unescape cs) := by
    rw [unescape, unescape, Text.replace_crlf (by simp) (by simp) (by simp) (by simp),
      Text.replace_crlf (by simp) (by simp) (by simp) (by simp)]
  unfold unquote
  dsimp only
  rw [Text.crlfString_toList, henclosed (by decide) (by decide),
    henclosed (by decide) (by decide)]
  split
  · rename_i h
    rw [hbetween (by decide) h, Text.crlfString_ofList]
  · split
    · rename_i h
      rw [hbetween (by decide) h, hunescape, Text.crlfString_ofList]
    · rfl

/-- A member, in the source with carriage returns. -/
def Member.moved (m : Member) : Member :=
  { m with
    name := crlfString m.name
    typeName := crlfString m.typeName
    tag := m.tag.map crlfString }

/-- A declaration, in the source with carriage returns. -/
def Declaration.moved (d : Declaration) : Declaration :=
  { d with
    name := crlfString d.name
    package := crlfString d.package
    members := d.members.map Member.moved
    embedded := d.embedded.map crlfString }

namespace Extraction

/-- Parts of a declaration, in the source with carriage returns. -/
def Parts.moved (p : Parts) : Parts := ⟨p.members.map Member.moved, p.embedded.map crlfString⟩

/-- What a source file declares, in the source with carriage returns. -/
def Contents.moved (c : Contents) : Contents :=
  ⟨crlfString c.package, c.declarations.map Declaration.moved⟩

/-- Pointers and generic types stay what they are. -/
theorem kind_moved_iff (n : Node) :
    n.moved.kind = "pointer_type" ∨ n.moved.kind = "generic_type" ↔
      n.kind = "pointer_type" ∨ n.kind = "generic_type" := by
  rw [← beq_iff_eq, ← beq_iff_eq (a := n.moved.kind), n.kind_moved_beq (by decide),
    n.kind_moved_beq (by decide), beq_iff_eq, beq_iff_eq]

/-- The base of a type is at the same place. -/
theorem base?_moved (n : Node) : base? n.moved = (base? n).map Node.moved := by
  have hfind : (n.children.map Node.moved).find? (·.isNamed) =
      (n.children.find? (·.isNamed)).map Node.moved := by
    simp only [List.find?_map, Function.comp_def, Node.moved_isNamed]
  by_cases hkind : n.kind = "pointer_type" ∨ n.kind = "generic_type"
  · rw [base?_of_kind hkind, base?_of_kind ((kind_moved_iff n).2 hkind), n.moved_role?,
      n.moved_children, hfind]
    exact Option.map_or.symm
  · rw [base?_eq_none hkind, base?_eq_none (mt (kind_moved_iff n).1 hkind)]
    rfl

/-- The name under which a type is embedded is at the same place. -/
theorem embeddedName_moved (n : Node) :
    embeddedName n.moved = (embeddedName n).map crlfString := by
  have hlast (s : String) : lastPart (crlfString s) = crlfString (lastPart s) := by
    rw [lastPart, Text.crlfString_toList, Text.afterLast_crlf (by decide) (by decide), lastPart,
      Text.crlfString_ofList]
  induction n using Node.induction_children with
  | step n ih =>
    rw [embeddedName_eq n.moved, embeddedName_eq n, n.kind_moved_beq (by decide),
      n.kind_moved_beq (by decide), n.kind_moved_beq (by decide), n.moved_text, n.moved_role?,
      base?_moved]
    split
    · rw [hlast, Option.map_some]
    · split
      · cases n.role? "name" <;> simp [hlast]
      · cases hbase : base? n with
        | none => rfl
        | some c => exact ih c (mem_children_of_base? hbase)

/-- Types stand one inside the other as deep. -/
theorem nesting_moved (n : Node) : nesting n.moved = nesting n := by
  induction n using Node.induction_children with
  | step n ih =>
    by_cases hkind : n.kind = "pointer_type" ∨ n.kind = "generic_type"
    · rw [nesting_of_kind hkind, nesting_of_kind ((kind_moved_iff n).2 hkind), base?_moved]
      cases hbase : base? n with
      | none => rfl
      | some c => rw [Option.map_some, Option.elim_some, Option.elim_some,
          ih c (mem_children_of_base? hbase)]
    · rw [nesting_eq_one hkind, nesting_eq_one (mt (kind_moved_iff n).1 hkind)]

theorem embedding_moved (n : Node) : embedding n.moved = (embedding n).moved := by
  cases h : embeddedName n <;> simp [embedding, Parts.moved, embeddedName_moved, h]

theorem signature_moved (n : Node) : signature n.moved = crlfString (signature n) := by
  have hfunc : crlfString "func" = "func" := Text.crlfString_eq_self (by decide)
  have hparentheses : crlfString "()" = "()" := Text.crlfString_eq_self (by decide)
  have hblank : crlfString " " = " " := Text.crlfString_eq_self (by decide)
  have hempty : crlfString "" = "" := Text.crlfString_eq_self (by decide)
  unfold signature
  dsimp only
  rw [n.moved_role?, n.moved_role?, Text.crlfString_append, Text.crlfString_append, hfunc]
  congr 2
  · cases n.role? "parameters" <;> simp [hparentheses]
  · cases n.role? "result" <;> simp [hblank, hempty]

theorem fieldParts_moved (n : Node) : fieldParts n.moved = (fieldParts n).moved := by
  unfold fieldParts
  rw [n.moved_role?, n.moved_inRole, n.moved_role?, n.moved_position]
  cases n.role? "type" with
  | none => rfl
  | some type =>
    cases n.inRole "name" with
    | nil => exact embedding_moved type
    | cons name names =>
      cases n.role? "tag" <;>
        simp [Parts.moved, Member.moved, Tag.unquote_crlf, Function.comp_def]

theorem concat_moved (ps : List Parts) :
    Parts.concat (ps.map Parts.moved) = (Parts.concat ps).moved := by
  rw [concat_eq, concat_eq]
  simp [Parts.moved, List.flatMap_map, List.map_flatMap]

theorem structFields_moved (n : Node) :
    structFields n.moved = (structFields n).map Node.moved := by
  unfold structFields
  rw [n.moved_named, Node.filter_kind_moved (by decide), List.flatMap_map]
  simp only [Node.moved_named]
  rw [← List.map_flatMap, Node.filter_kind_moved (by decide)]

theorem structParts_moved (n : Node) : structParts n.moved = (structParts n).moved := by
  unfold structParts
  rw [structFields_moved, List.map_map, ← concat_moved, List.map_map]
  exact congrArg Parts.concat (List.map_congr_left fun field _ => fieldParts_moved field)

theorem fieldTypes_moved (n : Node) : fieldTypes n.moved = (fieldTypes n).map Node.moved := by
  unfold fieldTypes
  rw [n.moved_inRole, n.moved_role?]
  cases n.inRole "name" with
  | nil => cases n.role? "type" <;> rfl
  | cons => rfl

theorem structTypes_moved (n : Node) : structTypes n.moved = (structTypes n).map Node.moved := by
  unfold structTypes
  rw [structFields_moved, List.flatMap_map, List.map_flatMap]
  exact List.flatMap_congr fun field _ => fieldTypes_moved field

/-- The kinds of elements stay. -/
theorem contains_kind_moved_elements (n : Node) :
    ["type_elem", "constraint_elem", "interface_type_name"].contains n.moved.kind =
      ["type_elem", "constraint_elem", "interface_type_name"].contains n.kind :=
  n.contains_kind_moved (by decide)

/-- What an element holds besides comments is at the same place. -/
theorem filter_named_moved (n : Node) : n.moved.named.filter (·.kind != "comment") =
    (n.named.filter (·.kind != "comment")).map Node.moved := by
  simp only [n.moved_named, List.filter_map, Function.comp_def, bne,
    Node.kind_moved_beq _ (show '\n' ∉ "comment".toList by decide)]

theorem elementTypes_moved (n : Node) :
    elementTypes n.moved = (elementTypes n).map Node.moved := by
  unfold elementTypes
  rw [n.kind_moved_beq (by decide), n.kind_moved_beq (by decide), contains_kind_moved_elements,
    filter_named_moved]
  split
  · rfl
  · split
    · generalize n.named.filter (·.kind != "comment") = types
      rcases types with _ | ⟨type, _ | _⟩ <;> rfl
    · rfl

theorem interfaceTypes_moved (n : Node) :
    interfaceTypes n.moved = (interfaceTypes n).map Node.moved := by
  unfold interfaceTypes
  rw [n.moved_named, List.flatMap_map, List.map_flatMap]
  exact List.flatMap_congr fun element _ => elementTypes_moved element

theorem specTypes_moved (n : Node) : specTypes n.moved = (specTypes n).map Node.moved := by
  unfold specTypes
  rw [n.moved_role?, n.moved_role?]
  cases n.role? "name" with
  | none => rfl
  | some name =>
    cases n.role? "type" with
    | none => rfl
    | some type =>
      simp only [Option.map_some, type.kind_moved_beq (show '\n' ∉ "struct_type".toList by decide),
        type.kind_moved_beq (show '\n' ∉ "interface_type".toList by decide)]
      split
      · exact structTypes_moved type
      · split
        · exact interfaceTypes_moved type
        · rfl

theorem elementParts_moved (n : Node) : elementParts n.moved = (elementParts n).moved := by
  unfold elementParts
  rw [n.kind_moved_beq (by decide), n.kind_moved_beq (by decide), contains_kind_moved_elements,
    filter_named_moved, n.moved_role?, n.moved_position, signature_moved]
  split
  · cases n.role? "name" with
    | none => rfl
    | some name => simp [Parts.moved, Member.moved]
  · split
    · generalize n.named.filter (·.kind != "comment") = types
      rcases types with _ | ⟨type, _ | ⟨other, types⟩⟩
      · exact embedding_moved n
      · exact embedding_moved type
      · rfl
    · rfl

theorem interfaceParts_moved (n : Node) : interfaceParts n.moved = (interfaceParts n).moved := by
  unfold interfaceParts
  rw [n.moved_named, List.map_map, ← concat_moved, List.map_map]
  exact congrArg Parts.concat (List.map_congr_left fun element _ => elementParts_moved element)

theorem declaration?_moved (package : String) (file : File.Path) (spec : Node) :
    declaration? (crlfString package) file spec.moved =
      (declaration? package file spec).map Declaration.moved := by
  unfold declaration?
  rw [spec.moved_role?, spec.moved_role?, spec.moved_position]
  cases spec.role? "name" with
  | none => rfl
  | some name =>
    cases spec.role? "type" with
    | none => rfl
    | some type =>
      simp only [Option.map_some, Option.bind_eq_bind, Option.bind_some,
        type.kind_moved_beq (show '\n' ∉ "struct_type".toList by decide),
        type.kind_moved_beq (show '\n' ∉ "interface_type".toList by decide),
        structParts_moved, interfaceParts_moved]
      split
      · simp [Declaration.moved, Parts.moved]
      · split
        · simp [Declaration.moved, Parts.moved]
        · rfl

theorem packageName?_moved (root : Node) :
    packageName? root.moved = (packageName? root).map crlfString := by
  have hclauses : (packageClauses root.moved).flatMap (·.named) =
      ((packageClauses root).flatMap (·.named)).map Node.moved := by
    unfold packageClauses
    rw [root.moved_named, Node.filter_kind_moved (by decide), List.flatMap_map, List.map_flatMap]
    simp
  unfold packageName?
  rw [hclauses, ← List.head?_filter, Node.filter_kind_moved (by decide), List.head?_map,
    List.head?_filter]
  cases (((packageClauses root).flatMap (·.named)).find? (·.kind == "package_identifier")) <;>
    simp

/-- The definitions of types are at the same places. -/
theorem typeSpecs_moved (root : Node) : typeSpecs root.moved = (typeSpecs root).map Node.moved := by
  unfold typeSpecs
  rw [root.moved_named, Node.filter_kind_moved (by decide), List.flatMap_map, List.map_flatMap]
  simp only [Node.moved_named]
  exact List.flatMap_congr fun d _ => Node.filter_kind_moved (by decide) d.named

/-- A file nests its types as deep. -/
theorem nestsTooDeep_moved (root : Node) : nestsTooDeep root.moved = nestsTooDeep root := by
  have htypes : embeddedTypes root.moved = (embeddedTypes root).map Node.moved := by
    unfold embeddedTypes
    rw [typeSpecs_moved, List.flatMap_map, List.map_flatMap]
    exact List.flatMap_congr fun spec _ => specTypes_moved spec
  simp only [nestsTooDeep, htypes, List.any_map, Function.comp_def, nesting_moved]

/-- A tree declares the same in the source with carriage returns. -/
theorem contents_moved {root : Node} {file : File.Path} {c : Contents}
    (h : contents root file = .ok c) : contents root.moved file = .ok c.moved := by
  obtain ⟨hsound, hnested, hname, hdeclarations⟩ := contents_eq_ok.1 h
  refine contents_eq_ok.2 ⟨root.moved_hasError.trans hsound,
    (nestsTooDeep_moved root).trans hnested, ?_, ?_⟩
  · rw [packageName?_moved, hname]
    rfl
  · simp only [Contents.moved, hdeclarations, typeSpecs_moved, List.filterMap_map,
      List.map_filterMap, Function.comp_def, declaration?_moved]

end Extraction

/-- A node of the top level names packages and types with words. -/
structure Node.IsNaming (n : Node) : Prop where
  package : n.kind = "package_clause" → ∀ c ∈ n.named, c.kind = "package_identifier" →
    Lexeme.isName c.text.toList = true
  types : n.kind = "type_declaration" → ∀ c ∈ n.named, c.kind = "type_spec" →
    ∀ name, c.role? "name" = some name → Lexeme.isName name.text.toList = true

namespace Grammar

variable (r : Rules)

/-- A node has its kind, and its children are what was read for it. -/
theorem yields_node_children (kind : String) {body : Read (List Node)} {Q : List Node → Prop}
    (h : Yields body Q) : Yields (r.node kind body) fun n => n.kind = kind ∧ Q n.children :=
  .after fun _ => .bind h fun _ hns => .after fun _ => .pure ⟨rfl, hns⟩

/-- A node of a kind that names nothing. -/
theorem yields_node_isNaming {kind : String} (hpackage : kind ≠ "package_clause")
    (htypes : kind ≠ "type_declaration") (body : Read (List Node)) :
    Yields (r.node kind body) Node.IsNaming :=
  (yields_node_children r kind (.trivial body)).mono fun _ hn =>
    ⟨fun h => absurd (hn.1.symm.trans h) hpackage, fun h => absurd (hn.1.symm.trans h) htypes⟩

theorem yields_packageClause_isNaming : Yields (packageClause r) Node.IsNaming := by
  have hbody : Yields (do
      keyword "package"
      return [leaf "package_identifier" (← name)]) fun ns =>
        ∀ c ∈ ns, Lexeme.isName c.text.toList = true :=
    .after fun _ => .bind yields_name fun t ht => .pure (by simpa [leaf] using ht)
  refine (yields_node_children r "package_clause" hbody).mono fun n hn => ⟨?_, ?_⟩
  · exact fun _ c hc _ => hn.2 c (Extraction.mem_children_of_mem_named hc)
  · exact fun h => absurd (hn.1.symm.trans h) (by decide)

/-- A declared type is named by the word that stands first. -/
theorem yields_typeSpec_name : Yields (typeSpec r) fun n => ∀ name,
    n.role? "name" = some name → Lexeme.isName name.text.toList = true := by
  have hname : Yields declaredName fun n =>
      n.field = some "name" ∧ Lexeme.isName n.text.toList = true :=
    .bind yields_name fun _ ht => .pure ⟨rfl, ht⟩
  have hbody : Yields (do
      let n ← declaredName
      (do
        let ps ← typeParameters r
        let t ← r.type .line
        return [n, ps.as "type_parameters", t.as "type"])
      <|> (do return [n, (← r.type .line).as "type"])) fun ns =>
        ∃ n, ns.head? = some n ∧ n.field = some "name" ∧ Lexeme.isName n.text.toList = true :=
    .bind hname fun n hn => .orElse
      (.after fun _ => .after fun _ => .pure ⟨n, rfl, hn⟩) (.after fun _ => .pure ⟨n, rfl, hn⟩)
  refine (yields_node_children r "type_spec" hbody).mono fun n hn name hrole => ?_
  obtain ⟨first, hfirst, hfield, hisName⟩ := hn.2
  obtain ⟨more, hchildren⟩ := List.head?_eq_some_iff.1 hfirst
  rw [Node.role?, Node.inRole, hchildren, List.filter_cons_of_pos (by simp [hfield])] at hrole
  obtain rfl := Option.some.inj hrole
  exact hisName

theorem yields_typeDeclaration_isNaming : Yields (typeDeclaration r) Node.IsNaming := by
  have halias : Yields (typeAlias r) fun n => n.kind = "type_spec" → ∀ name,
      n.role? "name" = some name → Lexeme.isName name.text.toList = true :=
    (yields_node_children r "type_alias" (.trivial _)).mono fun _ hn hkind =>
      absurd (hn.1.symm.trans hkind) (by decide)
  have hspec : Yields (typeSpec r) fun n => n.kind = "type_spec" → ∀ name,
      n.role? "name" = some name → Lexeme.isName name.text.toList = true :=
    (yields_typeSpec_name r).mono fun _ hn _ => hn
  refine (yields_node_children r "type_declaration"
    (yields_declarationOf "type" (halias.orElse hspec))).mono fun n hn => ⟨?_, ?_⟩
  · exact fun h => absurd (hn.1.symm.trans h) (by decide)
  · exact fun _ c hc => hn.2 c (Extraction.mem_children_of_mem_named hc)

/-- The top level of a source file names packages and types with words. -/
theorem isNaming_of_mem_parse (source : List Char) : ∀ n ∈ (parse source).children, n.IsNaming :=
  forall_mem_children_parse
    (fun _ => (yields_packageClause_isNaming _).orElse
      ((yields_node_isNaming _ (by decide) (by decide) _).orElse
        (yields_node_isNaming _ (by decide) (by decide) _)))
    (fun _ => (yields_typeDeclaration_isNaming _).orElse
      (yields_node_isNaming _ (by decide) (by decide) _))
    fun _ => ⟨by simp [leaf], by simp [leaf]⟩

end Grammar

namespace Extraction

/-- A name is within its line. -/
theorem crlfString_of_isName {s : String} (h : Lexeme.isName s.toList = true) :
    crlfString s = s :=
  Text.crlfString_eq_self (Lexeme.newline_not_mem_of_all (Bool.and_eq_true_iff.1 h).2)

/-- The name of the package of a source file is a word. -/
theorem isName_of_packageName? {source : List Char} {package : String}
    (h : packageName? (Grammar.parse source) = some package) :
    Lexeme.isName package.toList = true := by
  obtain ⟨c, hc, rfl⟩ := Option.map_eq_some_iff.1 h
  have hkind := List.find?_some (p := fun c : Node => c.kind == "package_identifier") hc
  obtain ⟨clause, hclause, hmem⟩ := List.mem_flatMap.1 (List.mem_of_find?_eq_some hc)
  obtain ⟨hnamed, hclauseKind⟩ := List.mem_filter.1 hclause
  exact (Grammar.isNaming_of_mem_parse source clause
    (mem_children_of_mem_named hnamed)).package (by simpa using hclauseKind) c hmem
    (by simpa using hkind)

/-- The name of a declaration of a source file is a word. -/
theorem isName_of_mem_declarations {source : List Char} {file : File.Path} {c : Contents}
    (hc : contents (Grammar.parse source) file = .ok c) {d : Declaration}
    (hd : d ∈ c.declarations) : Lexeme.isName d.name.toList = true := by
  rw [(contents_eq_ok.1 hc).2.2.2] at hd
  obtain ⟨spec, hspec, hd⟩ := List.mem_filterMap.1 hd
  obtain ⟨list, hlist, hspec⟩ := List.mem_flatMap.1 hspec
  obtain ⟨hlist, hkind⟩ := List.mem_filter.1 hlist
  obtain ⟨hspec, hspecKind⟩ := List.mem_filter.1 hspec
  have hnaming := (Grammar.isNaming_of_mem_parse source list
    (mem_children_of_mem_named hlist)).types (by simpa using hkind) spec hspec
      (by simpa using hspecKind)
  unfold declaration? at hd
  simp only [Option.bind_eq_bind, Option.bind_eq_some_iff] at hd
  obtain ⟨name, hname, type, -, hd⟩ := hd
  have hd : d.name = name.text := by
    split at hd
    · obtain rfl := Option.some.inj hd
      rfl
    · split at hd
      · obtain rfl := Option.some.inj hd
        rfl
      · cases hd
  rw [hd]
  exact hnaming name hname

/-- With carriage returns a source file declares the same under the same names. -/
theorem contents_crlf {source : List Char}
    (hsturdy : ∀ t ∈ Lexeme.tokens source, Lexeme.IsSturdy t.text.toList) {file : File.Path}
    {c : Contents} (hc : contents (Grammar.parse source) file = .ok c) :
    contents (Grammar.parse (crlf source)) file = .ok c.moved := by
  rw [Grammar.parse_crlf hsturdy]
  exact contents_moved hc

/-- The package of a source file has the same name with carriage returns. -/
theorem package_moved {source : List Char} {file : File.Path} {c : Contents}
    (hc : contents (Grammar.parse source) file = .ok c) : c.moved.package = c.package :=
  crlfString_of_isName (isName_of_packageName? (contents_eq_ok.1 hc).2.2.1)

/-- The declarations of a source file have the same names with carriage returns, and embed the same
names. -/
theorem names_moved {source : List Char} {file : File.Path} {c : Contents}
    (hc : contents (Grammar.parse source) file = .ok c) :
    c.moved.declarations.map (fun d => (d.name, d.embedded)) =
      c.declarations.map fun d => (d.name, d.embedded) := by
  rw [Contents.moved, List.map_map]
  refine List.map_congr_left fun d hd => ?_
  have hembedded : d.embedded.map crlfString = d.embedded :=
    List.map_congr_left (fun s hs => crlfString_of_isName ((of_mem_declarations hc hd).2.2 s hs))
      |>.trans (List.map_id _)
  exact congrArg₂ Prod.mk (crlfString_of_isName (isName_of_mem_declarations hc hd)) hembedded

end Extraction

end TypeWeave.Go
