import TypeWeave.Proofs.Go.LineEnd.Read

/-!
# Trees and line ends

With a carriage return before each line feed a source has the same tree but for the texts of its
nodes, which have carriage returns too, as long as its tokens are sturdy. The rules for the one
source stand beside those for the other. Main statement: `parse_crlf`.
-/

namespace TypeWeave.Go

open Text (crlf crlfString)

namespace Grammar

open Lexeme (AllInline)

variable {α β : Type} [Movable α] [Movable β] {source : List Char} {known : List Lexeme}
  {p p' q q' : Read α}

/-- What stands between two places has carriage returns as well. -/
theorem extract_crlf (source : List Char) (start stop : Nat) :
    (crlf source).extract (crlf (source.take start)).length (crlf (source.take stop)).length =
      crlf (source.extract start stop) := by
  have hsplit {a b : Nat} (h : a ≤ b) :
      crlf (source.take b) = crlf (source.take a) ++ crlf (source.extract a b) := by
    rw [← Text.crlf_append, List.extract_eq_take_drop, ← List.take_add, Nat.add_sub_cancel' h]
  rw [List.extract_eq_take_drop]
  by_cases h : start ≤ stop
  · have hall : crlf source = crlf (source.take start) ++
        (crlf (source.extract start stop) ++ crlf (source.drop stop)) := by
      rw [← List.append_assoc, ← hsplit h, ← Text.crlf_append, List.take_append_drop]
    rw [hsplit h, List.length_append, Nat.add_sub_cancel_left, hall, List.drop_left,
      List.take_left]
  · have hle : (crlf (source.take stop)).length ≤ (crlf (source.take start)).length := by
      rw [hsplit (Nat.le_of_not_le h), List.length_append]
      exact Nat.le_add_right _ _
    rw [Nat.sub_eq_zero_of_le hle, List.take_zero, List.extract_eq_take_drop,
      Nat.sub_eq_zero_of_le (Nat.le_of_not_le h), List.take_zero, Text.crlf_nil]

/-- Rules that give the counterparts of what others give. -/
class Rules.Moves (source : List Char) (r r' : Rules) : Prop where
  source_eq : r.source = source.toArray
  source_eq' : r'.source = (crlf source).toArray
  type : ∀ known m, Grammar.Moves source known (r.type m) (r'.type m)
  expression : ∀ known m, Grammar.Moves source known (r.expression m) (r'.expression m)
  statement : ∀ known, Grammar.Moves source known r.statement r'.statement
  block : ∀ known, Grammar.Moves source known r.block r'.block

attribute [instance] Rules.Moves.type Rules.Moves.expression Rules.Moves.statement
  Rules.Moves.block

variable (r r' : Rules) [hr : Rules.Moves source r r'] (m : Mode)

theorem slice_moved (start stop : Place) :
    r'.slice (start.moved source).offset (stop.moved source).offset =
      crlfString (r.slice start.offset stop.offset) := by
  rw [Rules.slice, Rules.slice, hr.source_eq, hr.source_eq', Text.crlfString_ofList,
    Array.toList_extract, Array.toList_extract, List.toList_toArray, List.toList_toArray]
  exact congrArg String.ofList (extract_crlf source start.offset stop.offset)

/-- A node that spans what stands between the start of a token and the end of the last one. -/
theorem moved_spanning (kind : String) (first : Lexeme) (s : Progress) {row row' : Int}
    (hrow : row' = row) {column column' : Int} (hcolumn : column' = column)
    {children children' : List Node} (h : Moved source children children') :
    Moved source
      { kind := kind, text := r.slice first.start.offset s.last.offset, row := row,
        column := column, children := children : Node }
      { kind := kind
        text := r'.slice (moved source first).start.offset (moved source s).last.offset
        row := row', column := column', children := children' } := by
  have hchildren : children' = Node.movedAll children :=
    h.eq.trans (Node.movedAll_eq_map children).symm
  have htext : r'.slice (moved source first).start.offset (moved source s).last.offset =
      crlfString (r.slice first.start.offset s.last.offset) := slice_moved r r' first.start s.last
  refine ⟨?_⟩
  rw [htext, hchildren, hrow, hcolumn]
  rfl

instance (kind : String) {body body' : Read (List Node)} [∀ known, Moves source known body body'] :
    Moves source known (r.node kind body) (r'.node kind body') := by
  have hnode (first : Lexeme) (children : List Node) (s : Progress) :=
    moved_spanning r r' kind first s
      (show ((moved source first).start.row : Int) = first.start.row from rfl)
      (show ((moved source first).start.column : Int) = first.start.column from rfl)
      (show Moved source children (moved source children) from ⟨rfl⟩)
  unfold Rules.node
  infer_instance

set_option synthInstance.maxSize 500

/-- What is known of tokens may be used. -/
theorem Moves.of_allInline (h : AllInline known → Moves source known p p') :
    Moves source known p p' :=
  ⟨fun hk => (h hk).run_eq hk, fun hk => (h hk).allInline hk⟩

/-- The token to come has the same text, if it is no string. -/
theorem Moves.peek_bind_of_text {f f' : Lexeme → Read α}
    (hstring : ∀ t, t.kind = .string → (moved source t).kind = .string →
      Moves source (t :: known) (f t) (f' (moved source t)))
    (hother : ∀ t, (moved source t).kind = t.kind → (moved source t).text = t.text →
      Moves source (t :: known) (f t) (f' (moved source t))) :
    Moves source known (peek >>= f) (peek >>= f') := by
  refine @Moves.peek_bind _ _ _ _ _ _ fun t => .of_allInline fun hk => ?_
  by_cases h : t.kind = .string
  · exact hstring t h h
  · exact hother t rfl (Same.text_moved (hk t List.mem_cons_self) h)

section Types

instance : Moves source known (union r m) (union r' m) := by unfold union; infer_instance

instance : Moves source known (typeArguments r) (typeArguments r') := by
  unfold typeArguments; infer_instance

instance : Moves source known (namedType r m) (namedType r' m) := by
  have hplace (n : Node) : (moved source n).row = n.row ∧ (moved source n).column = n.column := by
    cases n
    exact ⟨rfl, rfl⟩
  have hmore (start : Lexeme) (base : Node) (o : Option Node) : Moves source (start :: known)
      (match o with
        | none => return base
        | some arguments => do
          let stop := (← get).last
          return { kind := "generic_type", text := r.slice start.start.offset stop.offset,
                   row := base.row, column := base.column,
                   children := [base.as "type", arguments.as "type_arguments"] })
      (match moved source o with
        | none => return moved source base
        | some arguments => do
          let stop := (← get).last
          return { kind := "generic_type"
                   text := r'.slice (moved source start).start.offset stop.offset
                   row := (moved source base).row, column := (moved source base).column
                   children := [(moved source base).as "type",
                     arguments.as "type_arguments"] }) := by
    cases o with
    | none => exact inferInstanceAs (Moves source (start :: known) (pure base)
        (pure (moved source base)))
    | some arguments =>
      have hnode (s : Progress) := moved_spanning r r' "generic_type" start s (hplace base).1
        (hplace base).2 (show Moved source [base.as "type", arguments.as "type_arguments"]
          [(moved source base).as "type", (moved source arguments).as "type_arguments"] from
            inferInstance)
      exact inferInstanceAs (Moves source (start :: known) (get >>= _) (get >>= _))
  unfold namedType
  infer_instance

instance : Moves source known (parameter r) (parameter r') := by unfold parameter; infer_instance

instance : Moves source known (parameters r) (parameters r') := by
  unfold parameters; infer_instance

instance : Moves source known (result r m) (result r' m) := by unfold result; infer_instance

instance : Moves source known (typeParameter r) (typeParameter r') := by
  unfold typeParameter; infer_instance

instance : Moves source known (typeParameters r) (typeParameters r') := by
  unfold typeParameters; infer_instance

instance : Moves source known tag tag := by unfold tag; infer_instance

instance : Moves source known (embeddedField r) (embeddedField r') := by
  unfold embeddedField; infer_instance

instance : Moves source known (namedFields r) (namedFields r') := by
  unfold namedFields; infer_instance

instance : Moves source known (field r) (field r') := by unfold field; infer_instance

instance : Moves source known (structType r) (structType r') := by
  unfold structType; infer_instance

instance : Moves source known (method r) (method r') := by unfold method; infer_instance

instance : Moves source known (interfaceType r) (interfaceType r') := by
  unfold interfaceType; infer_instance

instance : Moves source known (arrayType r m) (arrayType r' m) := by
  unfold arrayType; infer_instance

instance : Moves source known (mapType r m) (mapType r' m) := by unfold mapType; infer_instance

instance : Moves source known (channelType r m) (channelType r' m) := by
  unfold channelType; infer_instance

instance : Moves source known (functionType r m) (functionType r' m) := by
  unfold functionType; infer_instance

instance : Moves source known (pointerType r m) (pointerType r' m) := by
  unfold pointerType; infer_instance

instance : Moves source known (parenthesizedType r) (parenthesizedType r') := by
  unfold parenthesizedType; infer_instance

instance : Moves source known (negatedType r m) (negatedType r' m) := by
  unfold negatedType; infer_instance

theorem moves_typeStep : Moves source known (typeStep r m) (typeStep r' m) := by
  unfold typeStep
  refine Moves.peek_bind_of_text (fun t hstring hstring' => ?_) fun t hkind htext => ?_
  · rw [hstring, hstring']
    exact inferInstanceAs (Moves source (t :: known) failure failure)
  · rw [hkind, htext]
    split <;> infer_instance

end Types

section Expressions

instance : Moves source known (expressions r m) (expressions r' m) := by
  unfold expressions; infer_instance

instance {braces braces' : Read Unit} [Moves source known braces braces'] :
    Moves source known (element r braces) (element r' braces') := by
  unfold element; infer_instance

instance (fuel : Nat) : Moves source known (bracesWith fuel r) (bracesWith fuel r') := by
  induction fuel with
  | zero => unfold bracesWith; infer_instance
  | succ fuel ih => unfold bracesWith; infer_instance

instance : Moves source known (braces r) (braces r') := by unfold braces; infer_instance

instance : Moves source known (argument r) (argument r') := by unfold argument; infer_instance

instance (takesType : Bool) :
    Moves source known (callArguments r takesType) (callArguments r' takesType) := by
  unfold callArguments; infer_instance

instance : Moves source known (index r) (index r') := by unfold index; infer_instance

instance : Moves source known (brackets r) (brackets r') := by unfold brackets; infer_instance

instance : Moves source known (selection r m) (selection r' m) := by
  unfold selection; infer_instance

instance (o : Operand) : Moves source known (suffix r m o) (suffix r' m o) := by
  unfold suffix
  refine @Moves.bind _ _ _ _ _ _ _ _ _ _ inferInstance fun _ =>
    @Moves.peek_bind _ _ _ _ _ _ fun t => ?_
  have htext : (moved source t).text = crlfString t.text := rfl
  rw [htext]
  by_cases hline : '\n' ∈ t.text.toList
  · have hline' : '\n' ∈ (crlfString t.text).toList := by simpa using hline
    generalize crlfString t.text = text' at hline'
    generalize t.text = text at hline
    split
    case h_5 =>
      split
      case h_5 => infer_instance
      all_goals exact absurd hline' (by decide)
    all_goals exact absurd hline (by decide)
  · rw [Text.crlfString_eq_self hline]
    split <;> infer_instance

instance (fuel : Nat) (o : Operand) :
    Moves source known (suffixes fuel r m o) (suffixes fuel r' m o) := by
  induction fuel generalizing o with
  | zero => unfold suffixes; infer_instance
  | succ fuel ih =>
    have hmore (o : Option Operand) : Moves source known (match o with
        | some o => suffixes fuel r m o
        | none => return ()) (match moved source o with
        | some o => suffixes fuel r' m o
        | none => return ()) := by
      cases o with
      | none => exact inferInstanceAs (Moves source known (pure ()) (pure ()))
      | some o => exact ih o
    unfold suffixes
    infer_instance

instance : Moves source known (countedArray r) (countedArray r') := by
  unfold countedArray; infer_instance

instance : Moves source known (typedValue r) (typedValue r') := by
  have hkind (n : Node) (known : List Lexeme) : Same known
      (["map_type", "slice_type", "array_type", "struct_type"].contains n.kind)
      (["map_type", "slice_type", "array_type", "struct_type"].contains (moved source n).kind) :=
    ⟨fun _ => (n.contains_kind_moved (by decide)).symm⟩
  unfold typedValue; infer_instance

instance : Moves source known (functionValue r) (functionValue r') := by
  unfold functionValue; infer_instance

instance : Moves source known (bareOperand r) (bareOperand r') := by
  unfold bareOperand
  refine Moves.peek_bind_of_text (fun t hstring hstring' => ?_) fun t hkind htext => ?_
  · rw [hstring, hstring']
    exact inferInstanceAs (Moves source (t :: known) (take *> pure ({} : Operand))
      (take *> pure {}))
  · rw [hkind, htext]
    split <;> infer_instance

instance (fuel : Nat) : Moves source known (operandWith fuel r m) (operandWith fuel r' m) := by
  induction fuel with
  | zero => unfold operandWith; infer_instance
  | succ fuel ih => unfold operandWith; infer_instance

instance : Moves source known (operand r m) (operand r' m) := by unfold operand; infer_instance

theorem moves_expressionStep :
    Moves source known (expressionStep r m) (expressionStep r' m) := by
  unfold expressionStep; infer_instance

end Expressions

section Statements

instance (word : String) {item item' : Read α} [∀ known, Moves source known item item'] :
    Moves source known (declarationOf word item) (declarationOf word item') := by
  unfold declarationOf; infer_instance

instance : Moves source known (values r) (values r') := by unfold values; infer_instance

instance : Moves source known (constants r) (constants r') := by unfold constants; infer_instance

instance : Moves source known (variableSpecs r) (variableSpecs r') := by
  unfold variableSpecs; infer_instance

instance : Moves source known declaredName declaredName := by unfold declaredName; infer_instance

instance : Moves source known (typeSpec r) (typeSpec r') := by unfold typeSpec; infer_instance

instance : Moves source known (typeAlias r) (typeAlias r') := by unfold typeAlias; infer_instance

instance : Moves source known (typeDeclaration r) (typeDeclaration r') := by
  unfold typeDeclaration; infer_instance

instance : Moves source known (simple r m) (simple r' m) := by unfold simple; infer_instance

instance {head head' : Mode → Read Unit} [∀ known m, Moves source known (head m) (head' m)] :
    Moves source known (beforeBody head) (beforeBody head') := by
  unfold beforeBody headModes
  simp only [List.foldr_cons, List.foldr_nil]
  infer_instance

instance : Moves source known (conditionHead r m) (conditionHead r' m) := by
  unfold conditionHead; infer_instance

instance (fuel : Nat) : Moves source known (conditionWith fuel r) (conditionWith fuel r') := by
  induction fuel generalizing known with
  | zero => unfold conditionWith; infer_instance
  | succ fuel ih => unfold conditionWith; infer_instance

instance : Moves source known (loopHead r m) (loopHead r' m) := by unfold loopHead; infer_instance

instance : Moves source known (switchHead r m) (switchHead r' m) := by
  unfold switchHead; infer_instance

instance : Moves source known (statements r) (statements r') := by
  unfold statements; infer_instance

theorem moves_blockStep : Moves source known (blockStep r) (blockStep r') := by
  unfold blockStep; infer_instance

instance {label label' : Read Unit} [Moves source known label label'] :
    Moves source known (cases r label) (cases r' label') := by
  unfold Grammar.cases; infer_instance

instance : Moves source known (caseItem r) (caseItem r') := by unfold caseItem; infer_instance

instance : Moves source known (communication r) (communication r') := by
  unfold communication; infer_instance

instance : Moves source known (labeled r) (labeled r') := by unfold labeled; infer_instance

theorem moves_statementStep : Moves source known (statementStep r) (statementStep r') := by
  unfold statementStep
  refine Moves.peek_bind_of_text (fun t hstring hstring' => ?_) fun t hkind htext => ?_
  · rw [hstring, hstring']
    exact inferInstanceAs (Moves source (t :: known) (simple r .line) (simple r' .line))
  · rw [hkind, htext]
    split <;> infer_instance

end Statements

section Files

instance : Moves source known (packageClause r) (packageClause r') := by
  unfold packageClause; infer_instance

instance : Moves source known importSpec importSpec := by unfold importSpec; infer_instance

instance : Moves source known (function r) (function r') := by unfold function; infer_instance

instance : Moves source known (definition r) (definition r') := by
  unfold definition; infer_instance

instance : Moves source known (topStatement r) (topStatement r') := by
  unfold topStatement; infer_instance

instance (fuel : Nat) : Moves source known (topLevel fuel r) (topLevel fuel r') := by
  induction fuel generalizing known with
  | zero =>
    unfold topLevel
    exact inferInstanceAs (Moves source known (pure ([], false)) (pure ([], false)))
  | succ fuel ih =>
    have herror (t : Lexeme) : Moved source
        { leaf "ERROR" t with isError := true, hasError := true }
        { leaf "ERROR" (moved source t) with isError := true, hasError := true } := ⟨rfl⟩
    have hmore (known : List Lexeme) (o : Option Node) : Moves source known
        (match o with
          | some n => do
            let (ns, fine) ← topLevel fuel r
            return (n :: ns, fine)
          | none => do
            return ([{ leaf "ERROR" (← peek) with isError := true, hasError := true }], false))
        (match moved source o with
          | some n => do
            let (ns, fine) ← topLevel fuel r'
            return (n :: ns, fine)
          | none => do
            return ([{ leaf "ERROR" (← peek) with isError := true, hasError := true }],
              false)) := by
      cases o with
      | none => exact inferInstanceAs (Moves source known (peek >>= _) (peek >>= _))
      | some n => exact inferInstanceAs (Moves source known
          (topLevel fuel r >>= fun x => pure (n :: x.1, x.2))
          (topLevel fuel r' >>= fun x => pure (moved source n :: x.1, x.2)))
    unfold topLevel
    infer_instance

end Files

/-- The rules for a source and for the source with carriage returns. -/
instance moves_rules (source : List Char) (n : Nat) :
    Rules.Moves source (rules source.toArray n) (rules (crlf source).toArray n) := by
  induction n with
  | zero =>
    exact ⟨rfl, rfl, fun known _ => inferInstanceAs (Moves source known failure failure),
      fun known _ => inferInstanceAs (Moves source known failure failure),
      fun known => inferInstanceAs (Moves source known failure failure),
      fun known => inferInstanceAs (Moves source known failure failure)⟩
  | succ n ih =>
    exact ⟨rfl, rfl, fun _ m => moves_typeStep _ _ m, fun _ m => moves_expressionStep _ _ m,
      fun _ => moves_statementStep _ _, fun _ => moves_blockStep _ _⟩

/-- The tree of a source is the same with carriage returns, if its tokens are sturdy. -/
theorem parse_crlf {source : List Char}
    (hsturdy : ∀ t ∈ Lexeme.tokens source, Lexeme.IsSturdy t.text.toList) :
    parse (crlf source) = (parse source).moved := by
  have htokens := Lexeme.tokens_crlf hsturdy
  have hlength : (Lexeme.tokens (crlf source)).length = (Lexeme.tokens source).length := by
    rw [htokens, List.length_map]
  have hinline : AllInline (Lexeme.tokens source) := fun t ht =>
    Lexeme.newline_not_mem_of_isSturdy ht (hsturdy t ht)
  let fuel := 5 * (Lexeme.tokens source).length + 10
  have hmoves : Moves source []
      (topLevel ((Lexeme.tokens source).length + 1) (rules source.toArray fuel))
      (topLevel ((Lexeme.tokens source).length + 1) (rules (crlf source).toArray fuel)) :=
    inferInstance
  have hrun := hmoves.run_eq (fun t ht => absurd ht List.not_mem_nil)
    ⟨Lexeme.tokens source, {}⟩ hinline
  have hstart : moved source (Progress.mk (Lexeme.tokens source) {}) =
      ⟨Lexeme.tokens (crlf source), {}⟩ := by
    rw [htokens]
    simp [moved, Place.moved]
  rw [hstart] at hrun
  have hread : (((topLevel ((Lexeme.tokens source).length + 1)
        (rules (crlf source).toArray fuel)).run ⟨Lexeme.tokens (crlf source), {}⟩).map (·.1)).getD
          ([], false) =
      moved source ((((topLevel ((Lexeme.tokens source).length + 1)
        (rules source.toArray fuel)).run ⟨Lexeme.tokens source, {}⟩).map (·.1)).getD
          ([], false)) := by
    rw [hrun]
    cases (topLevel ((Lexeme.tokens source).length + 1) (rules source.toArray fuel)).run
      ⟨Lexeme.tokens source, {}⟩ <;> rfl
  unfold parse
  dsimp only
  rw [hlength, hread, ← Text.crlfString_ofList]
  refine congrArg (Node.mk _ _ _ _ _ _ _ _ _) ?_
  exact (Node.movedAll_eq_map _).symm

end Grammar

end TypeWeave.Go
