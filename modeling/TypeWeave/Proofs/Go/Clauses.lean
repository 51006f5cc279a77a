import TypeWeave.Proofs.Go.Taken

/-!
# Package clauses and their keywords

The package clauses of a tree stand where the keyword of package clauses stands in the source at the
top level. Main statement: `exists_packageClauses_parse`.
-/

namespace TypeWeave.Go.Grammar

variable {α β : Type} {p q : Read α} {Q : Lexeme → Prop} {s s' : Progress}

/-- Where the keywords of package clauses stand among some tokens. -/
def keywordPlaces (ts : List Lexeme) : List (Int × Int) :=
  (ts.filter (·.isKeyword "package")).map fun t => (t.start.row, t.start.column)

/-- Where the package clauses stand among some nodes. -/
def clausePlaces (ns : List Node) : List (Int × Int) :=
  ((ns.filter (·.isNamed)).filter (·.kind == "package_clause")).map fun n => (n.row, n.column)

theorem keywordPlaces_append (ts us : List Lexeme) :
    keywordPlaces (ts ++ us) = keywordPlaces ts ++ keywordPlaces us := by
  simp [keywordPlaces]

theorem keywordPlaces_eq_nil {ts : List Lexeme} (h : ∀ t ∈ ts, NotPackage t) :
    keywordPlaces ts = [] := by
  rw [keywordPlaces, List.filter_eq_nil_iff.2, List.map_nil]
  intro t ht
  simp [show t.isKeyword "package" = false from h t ht]

theorem clausePlaces_cons (n : Node) (ns : List Node) :
    clausePlaces (n :: ns) = clausePlaces [n] ++ clausePlaces ns := by
  rw [clausePlaces, ← List.singleton_append, List.filter_append, List.filter_append,
    List.map_append]
  rfl

/-- The keywords that a rule takes are those of the package clauses that it gives. -/
def Places (p : Read α) (nodes : α → List Node) : Prop :=
  ∀ s a s', p.run s = some (a, s') →
    ∃ taken, s.rest = taken ++ s'.rest ∧ keywordPlaces taken = clausePlaces (nodes a)

/-- What a node tells of how it was read. -/
theorem of_node {r : Rules} {kind : String} {body : Read (List Node)} {s s' : Progress} {n : Node}
    (h : (r.node kind body).run s = some (n, s')) :
    n.kind = kind ∧ n.isNamed = true ∧ n.row = (s.rest.headD noToken).start.row ∧
      n.column = (s.rest.headD noToken).start.column ∧
      ∃ children, body.run s = some (children, s') := by
  obtain ⟨t, s₀, hpeek, h⟩ := exists_of_bind h
  cases hpeek
  obtain ⟨children, s₁, hbody, h⟩ := exists_of_bind h
  cases h
  exact ⟨rfl, rfl, rfl, rfl, children, hbody⟩

theorem places_packageClause (r : Rules) : Places (packageClause r) ([·]) := by
  intro s n s' h
  obtain ⟨hkind, hnamed, hrow, hcolumn, children, hbody⟩ := of_node h
  obtain ⟨_, s₁, hkeyword, hrestBody⟩ := exists_of_bind hbody
  obtain ⟨u, s₂, hname, hchildren⟩ := exists_of_bind hrestBody
  cases hchildren
  obtain ⟨t, ht, hrest⟩ := exists_of_keyword hkeyword
  obtain ⟨hu, hrest'⟩ := of_takeIf hname
  have hu : u.isKeyword "package" = false := notPackage_of_kind (by simp [beq_iff_eq.1 hu])
  refine ⟨[t, u], by rw [hrest, hrest']; rfl, ?_⟩
  rw [hrest, List.headD_cons] at hrow hcolumn
  simp [keywordPlaces, clausePlaces, ht, hu, hnamed, hkind, hrow, hcolumn]

/-- Nodes of other kinds stand for no package clause. -/
theorem places_node (r : Rules) {kind : String} (hkind : kind ≠ "package_clause")
    (body : Read (List Node)) [Takes NotPackage body] : Places (r.node kind body) ([·]) := by
  intro s n s' h
  have : Takes NotPackage (r.node kind body) := inferInstance
  obtain ⟨taken, hrest, htaken⟩ := this.exists_taken s n s' h
  obtain ⟨hn, -⟩ := of_node h
  refine ⟨taken, hrest, ?_⟩
  rw [keywordPlaces_eq_nil htaken]
  simp [clausePlaces, hn, hkind]

theorem Places.orElse {nodes : α → List Node} (hp : Places p nodes) (hq : Places q nodes) :
    Places (p <|> q) nodes := by
  intro s a s' hs
  exact (of_orElse hs).elim (hp s a s') (hq s a s')

/-- What follows a node changes nothing if it gives the node and takes no keyword. -/
theorem Places.bind {p : Read Node} {f : Node → Read Node} (hp : Places p ([·]))
    [hf : ∀ n, Takes NotPackage (f n)] (hsame : ∀ n, Yields (f n) (· = n)) :
    Places (p >>= f) ([·]) := by
  intro s n s' hs
  obtain ⟨m, t, hp', hf'⟩ := exists_of_bind hs
  obtain rfl := hsame m t n s' hf'
  obtain ⟨first, hfirst, hplaces⟩ := hp s n t hp'
  obtain ⟨more, hmore, hQ⟩ := (hf n).exists_taken t n s' hf'
  refine ⟨first ++ more, by rw [hfirst, hmore, List.append_assoc], ?_⟩
  rw [keywordPlaces_append, hplaces, keywordPlaces_eq_nil hQ, List.append_nil]

theorem places_definition (r : Rules) [r.SparesPackage] : Places (definition r) ([·]) := by
  have himport : Takes NotPackage (declarationOf "import" importSpec) :=
    takes_declarationOf (by decide)
  exact (places_packageClause r).orElse
    ((places_node r (by decide) _).orElse (places_node r (by decide) _))

theorem places_topStatement (r : Rules) [r.SparesPackage] : Places (topStatement r) ([·]) := by
  have htype : Takes NotPackage (declarationOf "type" (typeAlias r <|> typeSpec r)) :=
    takes_declarationOf (by decide)
  exact (places_node r (by decide) _).orElse (places_node r (by decide) _)

/-- The package clauses of the top level stand where the keywords that were taken for it stand. -/
theorem places_topLevel (fuel : Nat) (r : Rules) [r.SparesPackage] :
    Places (topLevel fuel r) (·.1) := by
  induction fuel with
  | zero =>
    intro s x s' h
    cases h
    exact ⟨[], rfl, rfl⟩
  | succ fuel ih =>
    intro s x s' h
    have hitem := ((places_definition r).bind (f := fun n => do
        if !(← peek).isEnding then terminator
        return n) fun n => .after fun t => by
        split
        · exact .after fun _ => .pure rfl
        · exact .pure rfl).orElse
      ((places_topStatement r).bind (f := fun n => do
        terminator
        return n) fun n => .after fun _ => .pure rfl)
    unfold topLevel at h
    obtain ⟨t, s₀, hpeek, hlook⟩ := exists_of_bind h
    cases hpeek
    split at hlook
    · cases hlook
      exact ⟨[], rfl, rfl⟩
    · obtain ⟨o, s₁, ho, hmore⟩ := exists_of_bind hlook
      rcases of_maybe ho with ⟨n, rfl, hn⟩ | ⟨rfl, rfl⟩
      · change (topLevel fuel r >>= fun y => pure (n :: y.1, y.2)).run s₁ = some (x, s') at hmore
        obtain ⟨y, s₂, hns, hnodes⟩ := exists_of_bind hmore
        cases hnodes
        obtain ⟨first, hfirst, hplaces⟩ := hitem _ _ _ hn
        obtain ⟨others, hothers, hplaces'⟩ := ih _ _ _ hns
        refine ⟨first ++ others, by rw [hfirst, hothers, List.append_assoc], ?_⟩
        rw [keywordPlaces_append, hplaces, hplaces', ← clausePlaces_cons]
      · cases hmore
        exact ⟨[], rfl, rfl⟩

/-- The package clauses of a source stand where the first keywords of package clauses stand in
it. -/
theorem exists_packageClauses_parse (source : List Char) :
    ∃ more, keywordPlaces (Lexeme.tokens source) =
      ((Extraction.packageClauses (parse source)).map fun n => (n.row, n.column)) ++ more := by
  let r := rules source.toArray (5 * (Lexeme.tokens source).length + 10)
  have hplaces := places_topLevel ((Lexeme.tokens source).length + 1) r
  cases hrun : (topLevel ((Lexeme.tokens source).length + 1) r).run
      ⟨Lexeme.tokens source, {}⟩ with
  | none =>
    have hparse : (parse source).children = [] := by
      show ((((topLevel _ r).run _).map (·.1)).getD ([], false)).1 = []
      rw [hrun]
      rfl
    refine ⟨keywordPlaces (Lexeme.tokens source), ?_⟩
    rw [Extraction.packageClauses, Node.named, hparse]
    rfl
  | some x =>
    obtain ⟨taken, hrest, htaken⟩ := hplaces _ _ _ hrun
    have hparse : (parse source).children = x.1.1 := by
      show ((((topLevel _ r).run _).map (·.1)).getD ([], false)).1 = _
      rw [hrun]
      rfl
    refine ⟨keywordPlaces x.2.rest, ?_⟩
    have hrest : Lexeme.tokens source = taken ++ x.2.rest := hrest
    rw [hrest, keywordPlaces_append, htaken, Extraction.packageClauses, Node.named, hparse]
    rfl

end TypeWeave.Go.Grammar
