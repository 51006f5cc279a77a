import TypeWeave.Proofs.Go.Commented

/-!
# Extraction among comments

What is extracted from a tree with more comments is the same but for the embedded names: a pointer
or a generic type whose base has no role of its own takes its first child for the base, and a
comment in front of the base hides it. Main statement: `contents_of_commented`, which says exactly
when nothing is hidden.
-/

namespace TypeWeave.Go

open Abstract

namespace Extraction

section Trees

variable {n n' : Node}

/-- Types among comments embed some of the names that they embed without them. -/
theorem sublist_filterMap_embeddedName {ts ts' : List Node} (h : List.Forall₂ Commented ts ts') :
    (ts'.filterMap embeddedName).Sublist (ts.filterMap embeddedName) := by
  induction h with
  | nil => exact .slnil
  | @cons t t' ts ts' ht _ ih =>
    rw [List.filterMap_cons, List.filterMap_cons]
    rcases embeddedName_eq_or_eq_none ht with heq | heq
    · rw [heq]
      cases embeddedName t with
      | none => exact ih
      | some s => exact ih.cons_cons s
    · rw [heq]
      cases embeddedName t with
      | none => exact ih
      | some s => exact ih.cons s

/-- They embed all of them exactly if comments hide none that has a name. -/
theorem filterMap_embeddedName_eq_iff {ts ts' : List Node} (h : List.Forall₂ Commented ts ts') :
    ts'.filterMap embeddedName = ts.filterMap embeddedName ↔
      List.Forall₂ (fun t t' => (embeddedName t).isSome = true → ¬Hidden t') ts ts' := by
  induction h with
  | nil => simp
  | @cons t t' ts ts' ht hts ih =>
    rw [List.forall₂_cons, ← embeddedName_eq_iff ht, ← ih, List.filterMap_cons,
      List.filterMap_cons]
    rcases embeddedName_eq_or_eq_none ht with heq | heq
    · rw [heq]
      cases embeddedName t <;> simp
    · rw [heq]
      cases embeddedName t with
      | none => simp
      | some s =>
        have hlength := (sublist_filterMap_embeddedName hts).length_le
        refine iff_of_false (fun he => ?_) fun he => nomatch he.1
        have := congrArg List.length he
        simp only [List.length_cons] at this
        omega

/-- What children give, if comments give nothing, is what those give that are no comments. -/
theorem flatMap_named {β : Type} (n : Node) {f : Node → List β}
    (hf : ∀ c : Node, c.kind = "comment" → f c = []) :
    n.named.flatMap f = (n.named.filter (·.kind != "comment")).flatMap f := by
  induction n.named with
  | nil => rfl
  | cons c cs ih =>
    by_cases hc : c.kind = "comment"
    · rw [List.filter_cons_of_neg (by simp [hc]), List.flatMap_cons, hf c hc, ih, List.nil_append]
    · rw [List.filter_cons_of_pos (by simpa using hc), List.flatMap_cons, List.flatMap_cons, ih]

/-- A field of a struct embeds the same type. -/
theorem forall₂_fieldTypes (h : Commented n n') :
    List.Forall₂ Commented (fieldTypes n) (fieldTypes n') := by
  have hnames := h.forall₂_inRole "name"
  unfold fieldTypes
  generalize n.inRole "name" = ns at hnames ⊢
  generalize n'.inRole "name" = ns' at hnames ⊢
  cases hnames with
  | nil =>
    rcases h.role? "type" with ⟨hr, hr'⟩ | ⟨c, c', hr, hr', hc⟩
    · simp [hr, hr']
    · simpa [hr, hr'] using hc
  | cons => exact .nil

/-- It declares the same members. -/
theorem members_fieldParts (h : Commented n n') :
    (fieldParts n').members = (fieldParts n).members := by
  have hnames := h.map_text_inRole "name"
  have htag : (n'.role? "tag").map (fun t => Tag.unquote t.text) =
      (n.role? "tag").map (fun t => Tag.unquote t.text) := by
    simpa [Function.comp_def] using congrArg (Option.map Tag.unquote) (h.map_text_role? "tag")
  have hmap (m : Node) (type : String) (tag : Option String) (line : Int) :
      (m.inRole "name").map (fun name => (⟨name.text, type, tag, line⟩ : Member)) =
        ((m.inRole "name").map (·.text)).map fun name => ⟨name, type, tag, line⟩ := by
    simp
  have hmembers (m : Node) : (fieldParts m).members = (m.role? "type").toList.flatMap fun type =>
      (m.inRole "name").map fun name => ⟨name.text, type.text,
        (m.role? "tag").map fun t => Tag.unquote t.text, m.position.1⟩ := by
    unfold fieldParts
    cases m.role? "type" with
    | none => rfl
    | some type => cases m.inRole "name" <;> simp [embedding]
  rw [hmembers, hmembers]
  rcases h.role? "type" with ⟨hr, hr'⟩ | ⟨c, c', hr, hr', hc⟩
  · rw [hr, hr']
    rfl
  · rw [hr, hr', Option.toList_some, Option.toList_some, List.flatMap_singleton,
      List.flatMap_singleton]
    simp only [hmap, hnames, htag, hc.text, h.position]

/-- The fields of a struct stay. -/
theorem forall₂_structFields (h : Commented n n') :
    List.Forall₂ Commented (structFields n) (structFields n') := by
  unfold structFields
  rw [List.filter_flatMap, List.filter_flatMap]
  exact List.rel_flatMap (h.forall₂_of_kind (by decide)) fun _ _ hc =>
    hc.forall₂_of_kind (by decide)

/-- A struct embeds the same types. -/
theorem forall₂_structTypes (h : Commented n n') :
    List.Forall₂ Commented (structTypes n) (structTypes n') :=
  List.rel_flatMap (forall₂_structFields h) fun _ _ hc => forall₂_fieldTypes hc

/-- It declares the same members. -/
theorem members_structParts (h : Commented n n') :
    (structParts n').members = (structParts n).members := by
  simp only [structParts, concat_eq, List.flatMap_map]
  exact (flatMap_eq_of_forall₂ (forall₂_structFields h) fun _ _ hc => members_fieldParts hc)

/-- An element of an interface embeds the same type. -/
theorem forall₂_elementTypes (h : Commented n n') :
    List.Forall₂ Commented (elementTypes n) (elementTypes n') := by
  have htypes := h.forall₂_of_kind_ne
  unfold elementTypes
  rw [h.kind]
  generalize n.named.filter (·.kind != "comment") = types at htypes ⊢
  generalize n'.named.filter (·.kind != "comment") = types' at htypes ⊢
  split
  · exact .nil
  · split
    · rcases htypes with _ | ⟨hc, _ | _⟩
      · exact .cons h .nil
      · exact .cons hc .nil
      · exact .nil
    · exact .nil

/-- It stands for the same method, if it does for one. -/
theorem members_elementParts (h : Commented n n') :
    (elementParts n').members = (elementParts n).members := by
  have hsignature : signature n' = signature n := by
    unfold signature
    have hparameters := h.map_text_role? "parameters"
    have hresult := congrArg (Option.map (" " ++ ·)) (h.map_text_role? "result")
    rw [Option.map_map, Option.map_map] at hresult
    rw [hparameters]
    exact congrArg (fun r => "func" ++ _ ++ Option.getD r "") hresult
  have hname := h.map_text_role? "name"
  have hmembers (m : Node) : (elementParts m).members =
      if m.kind == "method_elem" || m.kind == "method_spec" then
        ((m.role? "name").map (·.text)).toList.map fun name =>
          ⟨name, signature m, none, m.position.1⟩
      else [] := by
    unfold elementParts
    split
    · cases m.role? "name" <;> rfl
    · split
      · generalize m.named.filter (·.kind != "comment") = types
        rcases types with _ | ⟨type, _ | _⟩ <;> rfl
      · rfl
  rw [hmembers, hmembers, h.kind, hname, hsignature, h.position]

/-- An interface embeds the same types. -/
theorem forall₂_interfaceTypes (h : Commented n n') :
    List.Forall₂ Commented (interfaceTypes n) (interfaceTypes n') := by
  have hcomment (c : Node) (hc : c.kind = "comment") : elementTypes c = [] := by
    simp [elementTypes, hc]
  unfold interfaceTypes
  rw [flatMap_named n hcomment, flatMap_named n' hcomment]
  exact List.rel_flatMap h.forall₂_of_kind_ne fun _ _ hc => forall₂_elementTypes hc

/-- It declares the same methods. -/
theorem members_interfaceParts (h : Commented n n') :
    (interfaceParts n').members = (interfaceParts n).members := by
  have hcomment (c : Node) (hc : c.kind = "comment") : (elementParts c).members = [] := by
    simp [elementParts, hc]
  simp only [interfaceParts, concat_eq, List.flatMap_map]
  rw [flatMap_named n hcomment, flatMap_named n' hcomment]
  exact flatMap_eq_of_forall₂ h.forall₂_of_kind_ne fun _ _ hc => members_elementParts hc

/-- The types that a definition embeds stay. -/
theorem forall₂_specTypes (h : Commented n n') :
    List.Forall₂ Commented (specTypes n) (specTypes n') := by
  unfold specTypes
  rcases h.role? "name" with ⟨hn, hn'⟩ | ⟨name, name', hn, hn', -⟩
  · rw [hn, hn']
    exact .nil
  · rcases h.role? "type" with ⟨ht, ht'⟩ | ⟨type, type', ht, ht', htype⟩
    · rw [hn, hn', ht, ht']
      exact .nil
    · rw [hn, hn', ht, ht']
      dsimp only
      rw [htype.kind]
      split
      · exact forall₂_structTypes htype
      · split
        · exact forall₂_interfaceTypes htype
        · exact .nil

/-- The definition declares the same but for what it embeds. -/
theorem declaration?_of_commented (h : Commented n n') (package : String) (file : File.Path) :
    declaration? package file n' = (declaration? package file n).map fun d =>
      { d with embedded := (specTypes n').filterMap embeddedName } := by
  unfold declaration? specTypes
  rcases h.role? "name" with ⟨hn, hn'⟩ | ⟨name, name', hn, hn', hname⟩
  · rw [hn, hn']
    rfl
  · rcases h.role? "type" with ⟨ht, ht'⟩ | ⟨type, type', ht, ht', htype⟩
    · rw [hn, hn', ht, ht']
      rfl
    · simp only [hn, hn', ht, ht', Option.bind_eq_bind, Option.bind_some, htype.kind, hname.text,
        h.position]
      split
      · simp [embedded_structParts, members_structParts htype]
      · split
        · simp [embedded_interfaceParts, members_interfaceParts htype]
        · rfl

/-- A declaration of the same, with some of the names that the other embeds. -/
def Loses (d d' : Declaration) : Prop :=
  d' = { d with embedded := d'.embedded } ∧ d'.embedded.Sublist d.embedded

/-- Definitions with comments declare the same, less some embedded names. -/
theorem forall₂_loses {specs specs' : List Node} (h : List.Forall₂ Commented specs specs')
    (package : String) (file : File.Path) :
    List.Forall₂ Loses (specs.filterMap (declaration? package file))
      (specs'.filterMap (declaration? package file)) := by
  induction h with
  | nil => exact .nil
  | @cons spec spec' specs specs' hspec _ ih =>
    have hnames := embedded_declaration? package file spec
    rw [List.filterMap_cons, List.filterMap_cons, declaration?_of_commented hspec]
    cases hd : declaration? package file spec with
    | none => exact ih
    | some d =>
      rw [hd, Option.toList_some, List.flatMap_singleton] at hnames
      refine .cons ⟨rfl, ?_⟩ ih
      rw [hnames]
      exact sublist_filterMap_embeddedName (forall₂_specTypes hspec)

/-- Where no name is lost in all, each declaration is the same. -/
theorem eq_of_forall₂_loses {ds ds' : List Declaration} (h : List.Forall₂ Loses ds ds')
    (heq : ds'.flatMap (·.embedded) = ds.flatMap (·.embedded)) : ds' = ds := by
  have hlength {es es' : List Declaration} (h : List.Forall₂ Loses es es') :
      (es'.flatMap (·.embedded)).length ≤ (es.flatMap (·.embedded)).length := by
    induction h with
    | nil => exact Nat.le_refl _
    | cons hd _ ih =>
      rw [List.flatMap_cons, List.flatMap_cons, List.length_append, List.length_append]
      exact Nat.add_le_add hd.2.length_le ih
  induction h with
  | nil => rfl
  | @cons d d' ds ds' hd hds ih =>
    have htail := hlength hds
    have hhead := hd.2.length_le
    have hall := congrArg List.length heq
    rw [List.flatMap_cons, List.flatMap_cons] at heq
    simp only [List.flatMap_cons, List.length_append] at hall
    have hembedded := hd.2.eq_of_length (by omega)
    rw [hembedded, List.append_cancel_left_eq] at heq
    rw [ih heq, hd.1, hembedded]

/-- The definitions of types stay. -/
theorem forall₂_typeSpecs (h : Commented n n') :
    List.Forall₂ Commented (typeSpecs n) (typeSpecs n') :=
  List.rel_flatMap (h.forall₂_of_kind (by decide)) fun _ _ hc => hc.forall₂_of_kind (by decide)

/-- The types that a file embeds stay. -/
theorem forall₂_embeddedTypes (h : Commented n n') :
    List.Forall₂ Commented (embeddedTypes n) (embeddedTypes n') :=
  List.rel_flatMap (forall₂_typeSpecs h) fun _ _ hc => forall₂_specTypes hc

/-- The package stays. -/
theorem packageName?_of_commented (h : Commented n n') : packageName? n' = packageName? n := by
  have hidentifiers : List.Forall₂ Commented
      (((packageClauses n).flatMap (·.named)).filter (·.kind == "package_identifier"))
      (((packageClauses n').flatMap (·.named)).filter (·.kind == "package_identifier")) := by
    rw [List.filter_flatMap, List.filter_flatMap]
    exact List.rel_flatMap (h.forall₂_of_kind (by decide)) fun _ _ hc =>
      hc.forall₂_of_kind (by decide)
  unfold packageName?
  rw [← List.head?_filter, ← List.head?_filter]
  generalize ((packageClauses n).flatMap (·.named)).filter _ = ns at hidentifiers ⊢
  generalize ((packageClauses n').flatMap (·.named)).filter _ = ns' at hidentifiers ⊢
  cases hidentifiers with
  | nil => rfl
  | cons hc _ => exact congrArg some hc.text

/-- Comments do not make a file nest its types too deep, nor the other way round if they hide none
of them. -/
theorem nestsTooDeep_of_commented {root root' : Node} (h : Commented root root') :
    (nestsTooDeep root = false → nestsTooDeep root' = false) ∧
      ((∀ t' ∈ embeddedTypes root', ¬Hidden t') → nestsTooDeep root' = nestsTooDeep root) := by
  unfold nestsTooDeep
  have htypes := forall₂_embeddedTypes h
  generalize embeddedTypes root = ts at htypes ⊢
  generalize embeddedTypes root' = ts' at htypes ⊢
  induction htypes with
  | nil => simp
  | @cons t t' ts ts' ht _ ih =>
    have hle := nesting_le_of_commented ht
    simp only [List.any_cons, Bool.or_eq_false_iff, decide_eq_false_iff_not, Nat.not_lt,
      List.forall_mem_cons]
    refine ⟨fun ⟨hhead, htail⟩ => ⟨Nat.le_trans hle hhead, ih.1 htail⟩, fun ⟨hhead, htail⟩ => ?_⟩
    rw [nesting_of_commented ht hhead, ih.2 htail]

/-- More comments in the tree of a file without flaws change nothing of its package and its
declarations but the embedded names, of which some may be lost. None is lost exactly if no comment
stands where a pointer or a generic type that is embedded, or one inside it, has its base. A file
that cannot be read fails in the same way, if it is not for the depth of a type that is hidden. -/
theorem contents_of_commented {root root' : Node} (h : Commented root root')
    (hflaw : root.hasError = false) (file : File.Path) :
    (∀ f, contents root file = .error f →
      (f = tooDeep → ∀ t' ∈ embeddedTypes root', ¬Hidden t') → contents root' file = .error f) ∧
    ∀ c, contents root file = .ok c → ∃ c', contents root' file = .ok c' ∧
      c'.package = c.package ∧ List.Forall₂ Loses c.declarations c'.declarations ∧
      (c' = c ↔ List.Forall₂ (fun t t' => (embeddedName t).isSome = true → ¬Hidden t')
        (embeddedTypes root) (embeddedTypes root')) := by
  have hflaw' : root'.hasError = false := h.hasError.trans hflaw
  obtain ⟨hshallow, hdeep⟩ := nestsTooDeep_of_commented h
  constructor
  · intro f hf hhidden
    unfold contents at hf ⊢
    rw [if_neg (by simp [hflaw])] at hf
    rw [if_neg (by simp [hflaw']), packageName?_of_commented h]
    cases hname : packageName? root with
    | none => rwa [hname] at hf
    | some package =>
      simp only [hname] at hf ⊢
      split at hf
      case isTrue htoo => rw [hdeep (hhidden (Except.error.inj hf).symm), if_pos htoo, hf]
      case isFalse => cases hf
  · intro c hc
    obtain ⟨-, hnested, hname, hdeclarations⟩ := contents_eq_ok.1 hc
    have hloses := forall₂_loses (forall₂_typeSpecs h) c.package file
    rw [← hdeclarations] at hloses
    refine ⟨⟨c.package, (typeSpecs root').filterMap (declaration? c.package file)⟩,
      contents_eq_ok.2 ⟨hflaw', hshallow hnested, (packageName?_of_commented h).trans hname, rfl⟩,
      rfl, hloses, ?_⟩
    rw [← filterMap_embeddedName_eq_iff (forall₂_embeddedTypes h), ← flatMap_embedded c.package file,
      ← flatMap_embedded c.package file, ← hdeclarations]
    constructor
    · intro heq
      exact congrArg (fun c : Contents => c.declarations.flatMap (·.embedded)) heq
    · intro heq
      exact congrArg (Contents.mk c.package) (eq_of_forall₂_loses hloses heq)

end Trees

section Sample

/-- A comment. -/
def sampleComment : Node := { kind := "comment", text := "/* c */" }

theorem isComment_sampleComment : sampleComment.IsComment := ⟨rfl, rfl, rfl, rfl⟩

/-- The star of a pointer type. -/
def sampleStar : Node := { kind := "*", text := "*", row := 3, column := 1, isNamed := false }

/-- The base of a pointer type. -/
def sampleBase : Node := { kind := "type_identifier", text := "Foo", row := 3, column := 2 }

/-- The type `*Foo` with some children. -/
def samplePointer (children : List Node) : Node :=
  { kind := "pointer_type", text := "*Foo", row := 3, column := 1, children := children }

/-- The element of an interface that embeds a type. -/
def sampleElement (type : Node) : Node :=
  { kind := "type_elem", text := "*Foo", row := 3, column := 1, children := [type] }

/-- The name of an interface. -/
def sampleName : Node :=
  { kind := "type_identifier", text := "I", row := 2, column := 5, field := some "name" }

/-- An interface with some elements. -/
def sampleInterface (elements : List Node) : Node :=
  { kind := "interface_type", row := 2, column := 7, field := some "type", children := elements }

/-- The definition of an interface. -/
def sampleSpec (elements : List Node) : Node :=
  { kind := "type_spec", row := 2, column := 5, children :=
    [sampleName, sampleInterface elements] }

/-- A file with an interface that embeds a pointer type. There are nodes behind the element of the
interface and behind the declaration. -/
def pointerFile (pointer : Node) (behind after : List Node) : Node :=
  { kind := "source_file", children :=
    { kind := "package_clause", children :=
      [{ kind := "package_identifier", text := "p", column := 8 }] } ::
    { kind := "type_declaration", row := 2, children :=
      [sampleSpec (sampleElement pointer :: behind)] } ::
    after }

/-- Comments may stand in the pointer type and at the two other places. -/
theorem commented_pointerFile {pointer pointer' : Node} {behind behind' after after' : List Node}
    (hpointer : Commented pointer pointer')
    (hbehind : Interleaved Node.IsComment Commented behind behind')
    (hafter : Interleaved Node.IsComment Commented after after') :
    Commented (pointerFile pointer behind after) (pointerFile pointer' behind' after') := by
  have hinterface : Interleaved Node.IsComment Commented
      (sampleElement pointer :: behind) (sampleElement pointer' :: behind') :=
    .cons (.intro (.cons hpointer .nil)) hbehind
  have hspec : Interleaved Node.IsComment Commented
      [sampleName, sampleInterface (sampleElement pointer :: behind)]
      [sampleName, sampleInterface (sampleElement pointer' :: behind')] :=
    .cons (.refl _) (.cons (.intro hinterface) .nil)
  exact .intro (.cons (.refl _) (.cons (.intro (.cons (.intro hspec) .nil)) hafter))

/-- The file embeds the pointer type, and nothing that a comment could be taken for. -/
theorem embeddedTypes_pointerFile {pointer : Node} (hkind : pointer.kind = "pointer_type")
    (hnamed : pointer.isNamed = true) {behind after : List Node}
    (hbehind : ∀ c ∈ behind, c.kind = "comment") (hafter : ∀ c ∈ after, c.kind = "comment") :
    embeddedTypes (pointerFile pointer behind after) = [pointer] := by
  have helements : elementTypes (sampleElement pointer) = [pointer] := by
    simp [elementTypes, sampleElement, Node.named, hkind, hnamed]
  have hnothing : (behind.filter (·.isNamed)).flatMap elementTypes = [] :=
    List.flatMap_eq_nil_iff.2 fun c hc => by
      simp [elementTypes, hbehind c (List.mem_of_mem_filter hc)]
  have hinterface : interfaceTypes (sampleInterface (sampleElement pointer :: behind)) =
      [pointer] := by
    rw [interfaceTypes, Node.named, sampleInterface, List.filter_cons_of_pos rfl,
      List.flatMap_cons, helements, hnothing, List.append_nil]
  have hrest : after.filter (fun c => c.kind == "type_declaration" && c.isNamed) = [] :=
    List.filter_eq_nil_iff.2 fun c hc => by simp [hafter c hc]
  have hspecs : typeSpecs (pointerFile pointer behind after) =
      [sampleSpec (sampleElement pointer :: behind)] := by
    simp [typeSpecs, pointerFile, filter_named, hrest, sampleSpec]
  rw [embeddedTypes, hspecs, List.flatMap_singleton]
  simpa [specTypes, sampleSpec, sampleName, Node.role?, Node.inRole, sampleInterface]
    using hinterface

/-- A comment behind the base of a pointer type hides nothing, nor do comments outside of it. -/
theorem contents_of_commented_behind :
    let file : File.Path := ⟨.relative, ["a.go"]⟩
    let root := pointerFile (samplePointer [sampleStar, sampleBase]) [] []
    let root' := pointerFile (samplePointer [sampleStar, sampleBase, sampleComment])
      [sampleComment] [sampleComment]
    Commented root root' ∧ root.hasError = false ∧ contents root' file = contents root file := by
  intro file root root'
  have hpointer : Commented (samplePointer [sampleStar, sampleBase])
      (samplePointer [sampleStar, sampleBase, sampleComment]) :=
    .intro (.cons (.refl _) (.cons (.refl _) (.skip isComment_sampleComment .nil)))
  have hcomments : Interleaved Node.IsComment Commented [] [sampleComment] :=
    .skip isComment_sampleComment .nil
  have h : Commented root root' := commented_pointerFile hpointer hcomments hcomments
  refine ⟨h, rfl, ?_⟩
  have hbase : base? (samplePointer [sampleStar, sampleBase, sampleComment]) = some sampleBase := by
    simp [base?, samplePointer, sampleStar, sampleBase, Node.role?, Node.inRole, sampleComment]
  have hcontents : contents root file =
      .ok ⟨"p", [⟨"I", "p", "interface", [], ["Foo"], file, 3⟩]⟩ := by
    decide +kernel
  obtain ⟨c', hc', -, -, hiff⟩ := (contents_of_commented h rfl file).2 _ hcontents
  rw [hcontents, hc']
  refine congrArg Except.ok (hiff.2 ?_)
  have hcomment : ∀ c ∈ [sampleComment], c.kind = "comment" := by simp [sampleComment]
  have htypes : embeddedTypes root = [samplePointer [sampleStar, sampleBase]] :=
    embeddedTypes_pointerFile rfl rfl (by simp) (by simp)
  have htypes' : embeddedTypes root' = [samplePointer [sampleStar, sampleBase, sampleComment]] :=
    embeddedTypes_pointerFile rfl rfl hcomment hcomment
  rw [htypes, htypes']
  refine .cons (fun _ hhidden => ?_) .nil
  cases hhidden with
  | comment hb hc =>
    obtain rfl := Option.some.inj (hbase.symm.trans hb)
    exact absurd hc (by decide)
  | within hb hc =>
    obtain rfl := Option.some.inj (hbase.symm.trans hb)
    have hnone : base? sampleBase = none := by simp [base?, sampleBase]
    cases hc with
    | comment hb _ => cases hnone.symm.trans hb
    | within hb _ => cases hnone.symm.trans hb

/-- A comment in front of the base hides it: the interface does not embed the type any more. -/
theorem not_invisible_pointer :
    let file : File.Path := ⟨.relative, ["a.go"]⟩
    let root := pointerFile (samplePointer [sampleStar, sampleBase]) [] []
    let root' := pointerFile (samplePointer [sampleStar, sampleComment, sampleBase]) [] []
    Commented root root' ∧ root.hasError = false ∧
      contents root file = .ok ⟨"p", [⟨"I", "p", "interface", [], ["Foo"], file, 3⟩]⟩ ∧
      contents root' file = .ok ⟨"p", [⟨"I", "p", "interface", [], [], file, 3⟩]⟩ := by
  intro file root root'
  have hpointer : Commented (samplePointer [sampleStar, sampleBase])
      (samplePointer [sampleStar, sampleComment, sampleBase]) :=
    .intro (.cons (.refl _) (.skip isComment_sampleComment (.cons (.refl _) .nil)))
  refine ⟨commented_pointerFile hpointer .nil .nil, rfl, ?_, ?_⟩
  · decide +kernel
  · decide +kernel

end Sample

end Extraction

end TypeWeave.Go
