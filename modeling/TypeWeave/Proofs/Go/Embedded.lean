import TypeWeave.Go.Grammar.File
import TypeWeave.Proofs.Go.Base
import TypeWeave.Proofs.Go.Yields
import TypeWeave.Proofs.Text.Search

/-!
# Embedded names are names

The name under which a type is embedded is a name of the language: the grammar cuts it from the
text of a word, never from a longer stretch of source. Main statement:
`Extraction.of_mem_declarations`, for every declaration of every source file.
-/

namespace TypeWeave.Go

namespace Node

/-- A node for which, as for every node in it, the embedded name is a name if there is one. -/
inductive Sound : Node → Prop
  | intro {n : Node}
      (own : ∀ s, Extraction.embeddedName n = some s → Lexeme.isName s.toList = true)
      (below : ∀ c ∈ n.children, Sound c) : Sound n

theorem Sound.own {n : Node} (h : n.Sound) {s : String}
    (hs : Extraction.embeddedName n = some s) : Lexeme.isName s.toList = true := by
  cases h with
  | intro own _ => exact own s hs

theorem Sound.child {n : Node} (h : n.Sound) {c : Node} (hc : c ∈ n.children) : c.Sound := by
  cases h with
  | intro _ below => exact below c hc

/-- The role of a node does not change what it embeds. -/
theorem embeddedName_as (n : Node) (role : String) :
    Extraction.embeddedName (n.as role) = Extraction.embeddedName n := by
  obtain ⟨⟩ := n
  simp only [Node.as, Extraction.embeddedName]

theorem Sound.as {n : Node} (h : n.Sound) (role : String) : (n.as role).Sound :=
  .intro (fun _ hs => h.own (embeddedName_as n role ▸ hs)) fun _ hc => h.child hc

end Node

namespace Extraction

/-- The kinds of nodes that have an embedded name by themselves. -/
def namingKinds : List String := ["type_identifier", "interface_type_name", "qualified_type"]

/-- The embedded name of a node of any other kind is that of one of its children. -/
theorem embeddedName_eq_some {n : Node} (hk : n.kind ∉ namingKinds) {s : String}
    (h : embeddedName n = some s) : ∃ c ∈ n.children, embeddedName c = some s := by
  simp only [namingKinds, List.mem_cons, List.not_mem_nil, or_false, not_or] at hk
  simp only [embeddedName_eq n, beq_eq_false_iff_ne.2 hk.1, beq_eq_false_iff_ne.2 hk.2.1,
    beq_eq_false_iff_ne.2 hk.2.2, Bool.or_self, if_false, Bool.false_eq_true] at h
  obtain ⟨c, hc, hs⟩ := Option.bind_eq_some_iff.1 h
  exact ⟨c, mem_children_of_base? hc, hs⟩

/-- A node of any other kind is sound when its children are. -/
theorem sound_of_children {n : Node} (hk : n.kind ∉ namingKinds)
    (h : ∀ c ∈ n.children, c.Sound) : n.Sound := by
  refine .intro (fun s hs => ?_) h
  obtain ⟨c, hc, hs⟩ := embeddedName_eq_some hk hs
  exact (h c hc).own hs

/-- A name has no dot. -/
theorem dot_not_mem_of_isName {cs : List Char} (h : Lexeme.isName cs = true) : '.' ∉ cs := by
  have hdot : Lexeme.isNameRest '.' = false := by decide +kernel
  intro hmem
  have := List.all_eq_true.1 (Bool.and_eq_true_iff.1 h).2 _ hmem
  rw [hdot] at this
  cases this

/-- A name is not cut. -/
theorem lastPart_of_isName {s : String} (h : Lexeme.isName s.toList = true) : lastPart s = s := by
  rw [lastPart, Text.afterLast_of_not_mem (dot_not_mem_of_isName h), String.ofList_toList]

/-- The last part of a name behind a dot is the name. -/
theorem lastPart_append {s : String} (h : Lexeme.isName s.toList = true) (before : String) :
    lastPart (before ++ "." ++ s) = s := by
  have hlist : (before ++ "." ++ s).toList = before.toList ++ '.' :: s.toList := by simp
  rw [lastPart, hlist, Text.afterLast_append (dot_not_mem_of_isName h), String.ofList_toList]

/-- A word as a type is sound. -/
theorem sound_leaf {t : Lexeme} (h : Lexeme.isName t.text.toList = true) :
    (Grammar.leaf "type_identifier" t).Sound := by
  refine .intro (fun s hs => ?_) (by simp [Grammar.leaf])
  obtain rfl : t.text = s := by
    simpa [Grammar.leaf, embeddedName, lastPart_of_isName h] using hs
  exact h

/-- A word as a name of a field, a method or a package is sound. -/
theorem sound_leaf_of_kind {kind : String} (hk : kind ∉ namingKinds) (t : Lexeme) :
    (Grammar.leaf kind t).Sound :=
  sound_of_children hk (by simp [Grammar.leaf])

end Extraction

namespace Grammar

open Extraction

/-- A node of a kind that has no name by itself is sound when its children are. -/
theorem yields_node (r : Rules) {kind : String} (hk : kind ∉ namingKinds)
    {body : Read (List Node)} (h : Yields body fun ns => ∀ n ∈ ns, n.Sound) :
    Yields (r.node kind body) Node.Sound :=
  .after fun _ => .bind h fun _ hns => .after fun _ => .pure (sound_of_children hk hns)

/-- The types that the rules read are sound. -/
def Rules.Sound (r : Rules) : Prop := ∀ m, Yields (r.type m) Node.Sound

variable {r : Rules}

theorem yields_union (hr : r.Sound) (m : Mode) : Yields (union r m) Node.Sound :=
  yields_node r (by decide) <| .bind (hr m) fun _ ht =>
    .bind (.many (.seqRight (hr m))) fun _ hts => .pure (List.forall_mem_cons.2 ⟨ht, hts⟩)

theorem yields_typeArguments (hr : r.Sound) : Yields (typeArguments r) Node.Sound :=
  yields_node r (by decide) <| .after fun _ => .bind (yields_union hr _) fun _ ht =>
    .bind (.many (.seqRight (yields_union hr _))) fun _ hts => .after fun _ => .after fun _ =>
      .pure (List.forall_mem_cons.2 ⟨ht, hts⟩)

/-- A name with a package is embedded under its last part. -/
theorem yields_qualified (r : Rules) (m : Mode) :
    Yields (r.node "qualified_type" do
      let package ← name
      goOn m
      symbol "."
      let t ← name
      return [(leaf "package_identifier" package).as "package",
        (leaf "type_identifier" t).as "name"]) Node.Sound := by
  have hbody : Yields (do
      let package ← name
      goOn m
      symbol "."
      let t ← name
      return [(leaf "package_identifier" package).as "package",
        (leaf "type_identifier" t).as "name"])
      fun ns => ∃ package t, Lexeme.isName t.text.toList = true ∧
        ns = [(leaf "package_identifier" package).as "package",
          (leaf "type_identifier" t).as "name"] :=
    .after fun package => .after fun _ => .after fun _ => .bind yields_name fun t ht =>
      .pure ⟨package, t, ht, rfl⟩
  refine .after fun _ => .bind hbody fun ns hns => .after fun _ => .pure ?_
  obtain ⟨package, t, ht, rfl⟩ := hns
  refine .intro (fun s hs => ?_) ?_
  · obtain rfl : t.text = s := by simpa [embeddedName, leaf, Node.as] using hs
    exact ht
  · simpa using ⟨(sound_leaf_of_kind (by decide) package).as "package", (sound_leaf ht).as "name"⟩

theorem yields_namedType (hr : r.Sound) (m : Mode) : Yields (namedType r m) Node.Sound := by
  have hbase := (yields_qualified r m).orElse
    (q := do return leaf "type_identifier" (← name))
    (.bind yields_name fun _ ht => .pure (sound_leaf ht))
  refine .after fun start => .bind hbase fun base hb => ?_
  refine .bind (.maybeOn m (yields_typeArguments hr)) fun arguments ha => ?_
  cases arguments with
  | none => exact .pure hb
  | some arguments =>
    refine .after fun _ => .pure (sound_of_children (by simp [namingKinds]) ?_)
    simpa using ⟨hb.as "type", (ha arguments rfl).as "type_arguments"⟩

theorem yields_parameters (r : Rules) : Yields (parameters r) Node.Sound :=
  yields_node r (by decide) <| .after fun _ => .after fun _ => .pure (by simp)

theorem yields_result (hr : r.Sound) (m : Mode) : Yields (result r m) Node.Sound := by
  refine .after fun _ => .after fun t => ?_
  split
  · exact yields_parameters r
  · exact hr m

theorem yields_typeParameters (r : Rules) : Yields (typeParameters r) Node.Sound :=
  yields_node r (by decide) <| .after fun _ => .after fun _ => .after fun _ => .after fun _ =>
    .pure (by simp)

theorem yields_tag : Yields tag Node.Sound :=
  .after fun _ => .after fun t => .pure ((sound_leaf_of_kind (by decide) t).as _)

/-- A star is sound. -/
theorem sound_mark {t : Lexeme} (h : t.isSymbol "*" = true) : (mark t).Sound := by
  have htext : t.text = "*" := by simpa using (Bool.and_eq_true_iff.1 h).2
  exact sound_of_children (by simp [mark, leaf, htext, namingKinds]) (by simp [mark, leaf])

theorem yields_embeddedField (hr : r.Sound) :
    Yields (embeddedField r) fun ns => ∀ n ∈ ns, n.Sound := by
  refine .bind (.maybe (yields_takeIf _)) fun star hstar =>
    .bind (yields_namedType hr .line) fun t ht => .after fun next => ?_
  have hnodes : ∀ n ∈ (star.map mark).toList ++ [t.as "type"], n.Sound := by
    intro n hn
    rcases List.mem_append.1 hn with hn | hn
    · obtain ⟨u, hu, rfl⟩ := Option.map_eq_some_iff.1 (Option.mem_toList.1 hn)
      exact sound_mark (hstar u hu)
    · rw [List.mem_singleton.1 hn]
      exact ht.as "type"
  split
  · exact .after fun _ => .pure hnodes
  · exact .pure hnodes

theorem yields_namedFields (hr : r.Sound) :
    Yields (namedFields r) fun ns => ∀ n ∈ ns, n.Sound := by
  have hname : Yields (do return (leaf "field_identifier" (← name)).as "name") Node.Sound :=
    .after fun t => .pure ((sound_leaf_of_kind (by decide) t).as _)
  exact .bind (.commas .line hname) fun names hnames => .bind (hr .line) fun t ht =>
    .pure (List.forall_mem_append.2 ⟨hnames, by simpa using ht.as "type"⟩)

theorem yields_field (hr : r.Sound) : Yields (field r) Node.Sound := by
  refine yields_node r (by decide) <|
    .bind ((yields_embeddedField hr).orElse (yields_namedFields hr)) fun children hc =>
      .bind (.maybe yields_tag) fun tag ht => .pure (List.forall_mem_append.2 ⟨hc, fun n hn => ?_⟩)
  exact ht n (by simpa using hn)

theorem yields_structType (hr : r.Sound) : Yields (structType r) Node.Sound := by
  have hfields : Yields (r.node "field_declaration_list" do
      symbol "\x7b"
      terminatedUntil "\x7d" (field r)) Node.Sound :=
    yields_node r (by decide) <| .after fun _ => .terminatedUntil _ (yields_field hr)
  exact yields_node r (by decide) <| .after fun _ => .bind hfields fun fields hf =>
    .pure (by simpa using hf)

theorem yields_method (hr : r.Sound) : Yields (method r) Node.Sound := by
  refine yields_node r (by decide) <| .after fun n => .after fun _ =>
    .bind (yields_parameters r) fun ps hps =>
      .bind (.maybe (yields_result hr .line)) fun res hres =>
        .pure (List.forall_mem_append.2 ⟨?_, fun c hc => ?_⟩)
  · simpa using ⟨(sound_leaf_of_kind (by decide) n).as "name", hps.as "parameters"⟩
  · obtain ⟨t, ht, rfl⟩ := Option.map_eq_some_iff.1 (Option.mem_toList.1 hc)
    exact (hres t ht).as "result"

theorem yields_interfaceType (hr : r.Sound) : Yields (interfaceType r) Node.Sound :=
  yields_node r (by decide) <| .after fun _ => .after fun _ =>
    .terminatedUntil _ ((yields_method hr).orElse (yields_union hr .line))

theorem yields_arrayType (r : Rules) (m : Mode) : Yields (arrayType r m) Node.Sound :=
  .orElse
    (yields_node r (by decide) <| .after fun _ => .after fun _ => .after fun _ => .pure (by simp))
    (yields_node r (by decide) <| .after fun _ => .after fun _ => .after fun _ => .after fun _ =>
      .pure (by simp))

theorem yields_mapType (r : Rules) (m : Mode) : Yields (mapType r m) Node.Sound :=
  yields_node r (by decide) <| .after fun _ => .after fun _ => .after fun _ => .after fun _ =>
    .after fun _ => .pure (by simp)

theorem yields_channelType (r : Rules) (m : Mode) : Yields (channelType r m) Node.Sound :=
  yields_node r (by decide) <| .after fun _ => .after fun _ => .pure (by simp)

theorem yields_functionType (r : Rules) (m : Mode) : Yields (functionType r m) Node.Sound :=
  yields_node r (by decide) <| .after fun _ => .after fun _ => .after fun _ => .pure (by simp)

theorem yields_pointerType (hr : r.Sound) (m : Mode) : Yields (pointerType r m) Node.Sound := by
  refine yields_node r (by decide) <| .bind (yields_takeIf _) fun star hstar => .after fun next =>
    .bind (hr m) fun t ht => .pure ?_
  intro n hn
  rcases List.mem_append.1 hn with hn | hn
  · rcases List.mem_cons.1 hn with rfl | hn
    · exact sound_mark hstar
    · unfold comments at hn
      split at hn
      · rw [List.mem_singleton.1 hn]
        exact sound_of_children (by simp [namingKinds]) (by simp)
      · cases hn
  · rw [List.mem_singleton.1 hn]
    exact ht

theorem yields_parenthesizedType (hr : r.Sound) : Yields (parenthesizedType r) Node.Sound :=
  yields_node r (by decide) <| .after fun _ => .bind (hr .inner) fun t ht => .after fun _ =>
    .pure (by simpa using ht)

theorem yields_negatedType (hr : r.Sound) (m : Mode) : Yields (negatedType r m) Node.Sound :=
  yields_node r (by decide) <| .after fun _ => .bind (hr m) fun t ht => .pure (by simpa using ht)

/-- Types are sound when the types in them are. -/
theorem yields_typeStep (hr : r.Sound) (m : Mode) : Yields (typeStep r m) Node.Sound := by
  refine .after fun t => ?_
  split
  · exact yields_namedType hr m
  · exact yields_parenthesizedType hr
  · exact yields_pointerType hr m
  · exact yields_arrayType r m
  · exact yields_channelType r m
  · exact yields_negatedType hr m
  · exact yields_mapType r m
  · exact yields_channelType r m
  · exact yields_functionType r m
  · exact yields_structType hr
  · exact yields_interfaceType hr
  · exact .failure

/-- The types that the rules read are sound at every depth. -/
theorem sound_rules (source : Array Char) (n : Nat) : (rules source n).Sound := by
  induction n with
  | zero => exact fun _ => .failure
  | succ n ih => exact fun m => yields_typeStep ih m

theorem yields_declaredName : Yields declaredName Node.Sound :=
  .bind yields_name fun _ ht => .pure ((sound_leaf ht).as "name")

theorem yields_typeSpec (hr : r.Sound) : Yields (typeSpec r) Node.Sound := by
  refine yields_node r (by decide) <| .bind yields_declaredName fun n hn => .orElse ?_ ?_
  · exact .bind (yields_typeParameters r) fun ps hps => .bind (hr .line) fun t ht =>
      .pure (by simpa using ⟨hn, hps.as "type_parameters", ht.as "type"⟩)
  · exact .bind (hr .line) fun t ht => .pure (by simpa using ⟨hn, ht.as "type"⟩)

theorem yields_typeAlias (hr : r.Sound) : Yields (typeAlias r) Node.Sound :=
  yields_node r (by decide) <| .bind yields_declaredName fun n hn => .after fun _ =>
    .after fun _ => .bind (hr .line) fun t ht => .pure (by simpa using ⟨hn, ht.as "type"⟩)

theorem yields_declarationOf (word : String) {item : Read Node} {Q : Node → Prop}
    (h : Yields item Q) : Yields (declarationOf word item) fun ns => ∀ n ∈ ns, Q n := by
  refine .after fun _ => .after fun t => ?_
  split
  · exact .after fun _ => .terminatedUntil _ h
  · exact .bind h fun n hn => .pure (by simpa using hn)

theorem yields_typeDeclaration (hr : r.Sound) : Yields (typeDeclaration r) Node.Sound :=
  yields_node r (by decide)
    (yields_declarationOf "type" ((yields_typeAlias hr).orElse (yields_typeSpec hr)))

theorem yields_definition (r : Rules) : Yields (definition r) Node.Sound := by
  refine .orElse ?_ (.orElse ?_ ?_)
  · exact yields_node r (by decide) <| .after fun _ => .after fun t =>
      .pure (by simpa using sound_leaf_of_kind (by decide) t)
  · exact yields_node r (by decide) <| .after fun _ => .pure (by simp)
  · exact yields_node r (by decide) <| .after fun _ => .pure (by simp)

theorem yields_topStatement (hr : r.Sound) : Yields (topStatement r) Node.Sound :=
  (yields_typeDeclaration hr).orElse
    (yields_node r (by decide) (.seqRight (.pure (by simp))))

section TopLevel

variable {Q : Node → Prop}

/-- What holds of definitions, of other statements and of errors holds of the nodes of the top
level. -/
theorem yields_topLevel (fuel : Nat) (hdefinition : Yields (definition r) Q)
    (hstatement : Yields (topStatement r) Q)
    (herror : ∀ t, Q { leaf "ERROR" t with isError := true, hasError := true }) :
    Yields (topLevel fuel r) fun x => ∀ n ∈ x.1, Q n := by
  induction fuel with
  | zero => exact .pure (by simp)
  | succ fuel ih =>
    refine .after fun t => ?_
    split
    · exact .pure (by simp)
    · have hitem : Yields (do
            let n ← definition r
            if !(← peek).isEnding then terminator
            return n) Q := by
        refine .bind hdefinition fun n hn => .after fun t => ?_
        split
        · exact .after fun _ => .pure hn
        · exact .pure hn
      have hother : Yields (do
            let n ← topStatement r
            terminator
            return n) Q :=
        .bind hstatement fun n hn => .after fun _ => .pure hn
      refine .bind (.maybe (hitem.orElse hother)) fun item hitem => ?_
      cases item with
      | none =>
        refine .after fun t => .pure fun n hn => ?_
        rw [List.mem_singleton.1 hn]
        exact herror t
      | some n => exact .bind ih fun x hx => .pure (List.forall_mem_cons.2 ⟨hitem n rfl, hx⟩)

/-- It holds of the nodes of the top level of a source file. -/
theorem forall_mem_children_parse {source : List Char}
    (hdefinition : ∀ n, Yields (definition (rules source.toArray n)) Q)
    (hstatement : ∀ n, Yields (topStatement (rules source.toArray n)) Q)
    (herror : ∀ t, Q { leaf "ERROR" t with isError := true, hasError := true }) :
    ∀ n ∈ (parse source).children, Q n := by
  unfold parse
  cases hrun : (topLevel ((Lexeme.tokens source).length + 1)
      (rules source.toArray (5 * (Lexeme.tokens source).length + 10))).run
      ⟨Lexeme.tokens source, {}⟩ with
  | none => simp [hrun]
  | some x =>
    simpa [hrun] using yields_topLevel _ (hdefinition _) (hstatement _) herror _ _ _ hrun

end TopLevel

/-- The syntax tree of a source file is sound. -/
theorem sound_parse (source : List Char) : (parse source).Sound :=
  sound_of_children (by simp [parse, namingKinds]) <| forall_mem_children_parse
    (fun _ => yields_definition _) (fun _ => yields_topStatement (sound_rules _ _))
    fun _ => sound_of_children (by simp [leaf, namingKinds]) (by simp [leaf])

end Grammar

namespace Extraction

/-- The names that parts embed are names. -/
def Parts.Plain (p : Parts) : Prop := ∀ s ∈ p.embedded, Lexeme.isName s.toList = true

theorem plain_concat {ps : List Parts} (h : ∀ p ∈ ps, p.Plain) : (Parts.concat ps).Plain := by
  intro s hs
  rw [concat_eq] at hs
  obtain ⟨p, hp, hs⟩ := List.mem_flatMap.1 hs
  exact h p hp s hs

theorem plain_embedding {n : Node} (h : n.Sound) : (embedding n).Plain :=
  fun _ hs => h.own (by simpa [embedding] using hs)

theorem plain_fieldParts {n : Node} (h : n.Sound) : (fieldParts n).Plain := by
  unfold fieldParts
  split
  · simp [Parts.Plain]
  · rename_i type htype
    split
    · exact plain_embedding (h.child (mem_children_of_role? htype))
    · simp [Parts.Plain]

theorem plain_structParts {n : Node} (h : n.Sound) : (structParts n).Plain := by
  refine plain_concat fun p hp => ?_
  obtain ⟨field, hfield, rfl⟩ := List.mem_map.1 hp
  obtain ⟨list, hlist, hfield⟩ := List.mem_flatMap.1 (List.mem_of_mem_filter hfield)
  have hl := h.child (mem_children_of_mem_named (List.mem_of_mem_filter hlist))
  exact plain_fieldParts (hl.child (mem_children_of_mem_named hfield))

theorem plain_elementParts {n : Node} (h : n.Sound) : (elementParts n).Plain := by
  unfold elementParts
  split
  · split <;> simp [Parts.Plain]
  · split
    · split
      · exact plain_embedding h
      · rename_i type htype
        have hmem : type ∈ n.named := List.mem_of_mem_filter (htype ▸ List.mem_cons_self)
        exact plain_embedding (h.child (mem_children_of_mem_named hmem))
      · simp [Parts.Plain]
    · simp [Parts.Plain]

theorem plain_interfaceParts {n : Node} (h : n.Sound) : (interfaceParts n).Plain := by
  refine plain_concat fun p hp => ?_
  obtain ⟨c, hc, rfl⟩ := List.mem_map.1 hp
  exact plain_elementParts (h.child (mem_children_of_mem_named hc))

/-- What is known of a declaration: the package and the file are those given, and the embedded names
are names. -/
theorem declaration?_eq_some {package : String} {file : File.Path} {spec : Node} (h : spec.Sound)
    {d : Declaration} (hd : declaration? package file spec = some d) :
    d.package = package ∧ d.file = file ∧ ∀ s ∈ d.embedded, Lexeme.isName s.toList = true := by
  unfold declaration? at hd
  simp only [Option.bind_eq_bind, Option.bind_eq_some_iff] at hd
  obtain ⟨name, -, type, htype, hd⟩ := hd
  have ht := h.child (mem_children_of_role? htype)
  split at hd
  · obtain rfl := Option.some.inj hd
    exact ⟨rfl, rfl, plain_structParts ht⟩
  · split at hd
    · obtain rfl := Option.some.inj hd
      exact ⟨rfl, rfl, plain_interfaceParts ht⟩
    · cases hd

/-- What is known of the declarations of a source file: they are in its package and stand in it, and
what they embed has names. -/
theorem of_mem_declarations {source : List Char} {file : File.Path} {c : Contents}
    (hc : contents (Grammar.parse source) file = .ok c) {d : Declaration}
    (hd : d ∈ c.declarations) :
    d.package = c.package ∧ d.file = file ∧
      ∀ s ∈ d.embedded, Lexeme.isName s.toList = true := by
  rw [(contents_eq_ok.1 hc).2.2.2] at hd
  obtain ⟨spec, hspec, hd⟩ := List.mem_filterMap.1 hd
  obtain ⟨list, hlist, hspec⟩ := List.mem_flatMap.1 hspec
  have hl := (Grammar.sound_parse source).child
    (mem_children_of_mem_named (List.mem_of_mem_filter hlist))
  exact declaration?_eq_some (hl.child (mem_children_of_mem_named
    (List.mem_of_mem_filter hspec))) hd

end Extraction

end TypeWeave.Go
