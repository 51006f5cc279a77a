import TypeWeave.Go.Extraction
import TypeWeave.Go.Grammar.File
import TypeWeave.Proofs.Go.Yields

/-!
# What rules take

A rule takes tokens from the front of those to come. It is enough to look at the parts of a rule,
one instance for each way of putting parts together and one for each rule. None but the package
clause takes the keyword of package clauses.
-/

namespace TypeWeave.Go.Grammar

variable {α β : Type} {p q : Read α} {Q : Lexeme → Prop} {s s' : Progress}

theorem exists_of_bind {f : α → Read β} {b : β} (h : (p >>= f).run s = some (b, s')) :
    ∃ a t, p.run s = some (a, t) ∧ (f a).run t = some (b, s') := by
  change (p.run s >>= fun x => (f x.1).run x.2) = some (b, s') at h
  obtain ⟨⟨a, t⟩, hp, hf⟩ := Option.bind_eq_some_iff.1 h
  exact ⟨a, t, hp, hf⟩

theorem of_orElse {f : Unit → Read α} {a : α}
    (h : (HOrElse.hOrElse p f).run s = some (a, s')) :
    p.run s = some (a, s') ∨ (f ()).run s = some (a, s') := by
  change (p.run s <|> (f ()).run s) = some (a, s') at h
  cases hp : p.run s with
  | none => exact Or.inr (by simpa [hp] using h)
  | some x => exact Or.inl (by simpa [hp] using h)

theorem of_maybe {o : Option α} (h : (maybe p).run s = some (o, s')) :
    (∃ a, o = some a ∧ p.run s = some (a, s')) ∨ o = none ∧ s' = s := by
  simp only [StateT.run, maybe] at h
  cases hp : p s with
  | none =>
    obtain ⟨rfl, rfl⟩ : none = o ∧ s = s' := by simpa [hp] using h
    exact Or.inr ⟨rfl, rfl⟩
  | some x =>
    obtain ⟨rfl, rfl⟩ : some x.1 = o ∧ x.2 = s' := by simpa [hp] using h
    exact Or.inl ⟨x.1, rfl, hp⟩

/-- The token that is read is the first of those to come. -/
theorem rest_eq_of_take {t : Lexeme} (h : take.run s = some (t, s')) : s.rest = t :: s'.rest := by
  obtain ⟨rest, last⟩ := s
  cases rest with
  | nil => cases h
  | cons u rest =>
    change (if u.isEnding then failure else do
      set (Progress.mk rest u.stop)
      return u : Read Lexeme).run _ = _ at h
    split at h
    · cases h
    · cases h
      rfl

/-- A token of some sort is the first of those to come. -/
theorem of_takeIf {t : Lexeme} {f : Lexeme → Bool} (h : (takeIf f).run s = some (t, s')) :
    f t = true ∧ s.rest = t :: s'.rest := by
  change (if f (s.rest.headD noToken) then take else failure : Read Lexeme).run s =
    some (t, s') at h
  split at h
  · rename_i hf
    have hrest := rest_eq_of_take h
    rw [hrest, List.headD_cons] at hf
    exact ⟨hf, hrest⟩
  · cases h

theorem exists_of_keyword {word : String} {u : Unit} (h : (keyword word).run s = some (u, s')) :
    ∃ t : Lexeme, t.isKeyword word = true ∧ s.rest = t :: s'.rest := by
  obtain ⟨t, s₁, hword, h⟩ := exists_of_bind h
  cases h
  exact ⟨t, of_takeIf hword⟩

/-- Whatever a rule takes has a property. -/
class Takes (Q : Lexeme → Prop) (p : Read α) : Prop where
  exists_taken : ∀ s a s', p.run s = some (a, s') →
    ∃ taken, s.rest = taken ++ s'.rest ∧ ∀ t ∈ taken, Q t

/-- Whatever a rule takes has a property if some token is the one to come. -/
def TakesAt (Q : Lexeme → Prop) (t : Lexeme) (p : Read α) : Prop :=
  ∀ s a s', s.rest.headD noToken = t → p.run s = some (a, s') →
    ∃ taken, s.rest = taken ++ s'.rest ∧ ∀ t ∈ taken, Q t

theorem Takes.at (h : Takes Q p) (t : Lexeme) : TakesAt Q t p :=
  fun s a s' _ hs => h.exists_taken s a s' hs

/-- Of two rules one after the other only the first is at the token to come. -/
theorem TakesAt.bind {t : Lexeme} {f : α → Read β} (hp : TakesAt Q t p)
    (hf : ∀ a, Takes Q (f a)) : TakesAt Q t (p >>= f) := by
  intro s b s' ht hs
  obtain ⟨a, u, hp', hf'⟩ := exists_of_bind hs
  obtain ⟨first, hfirst, hQ⟩ := hp s a u ht hp'
  obtain ⟨more, hmore, hQ'⟩ := (hf a).exists_taken u b s' hf'
  exact ⟨first ++ more, by rw [hfirst, hmore, List.append_assoc],
    List.forall_mem_append.2 ⟨hQ, hQ'⟩⟩

/-- A rule that takes the token to come without a further look. -/
theorem takesAt_take {t : Lexeme} (h : Q t) : TakesAt Q t take := by
  intro s u s' ht hs
  have hrest := rest_eq_of_take hs
  rw [hrest, List.headD_cons] at ht
  exact ⟨[u], hrest, by simpa [ht] using h⟩

/-- A rule that looks at the token to come first. -/
theorem Takes.peek_bind {f : Lexeme → Read α} (h : ∀ t, TakesAt Q t (f t)) :
    Takes Q (peek >>= f) where
  exists_taken s a s' hs := h _ s a s' rfl hs

/-- A token of some sort is taken. -/
theorem Takes.takeIf {f : Lexeme → Bool} (h : ∀ t, f t = true → Q t) : Takes Q (takeIf f) where
  exists_taken s t s' hs := by
    obtain ⟨hf, hrest⟩ := of_takeIf hs
    exact ⟨[t], hrest, by simpa using h t hf⟩

namespace Takes

instance (a : α) : Takes Q (pure a : Read α) where
  exists_taken s b s' hs := by
    cases hs
    exact ⟨[], rfl, by simp⟩

instance : Takes Q (failure : Read α) where
  exists_taken s a s' hs := by cases hs

instance bind {f : α → Read β} [hp : Takes Q p] [hf : ∀ a, Takes Q (f a)] :
    Takes Q (p >>= f) where
  exists_taken s b s' hs := (hp.at _).bind hf s b s' rfl hs

instance {f : Unit → Read β} [Takes Q p] [∀ u, Takes Q (f u)] :
    Takes Q (SeqRight.seqRight p f) :=
  inferInstanceAs (Takes Q (p >>= fun _ => f ()))

instance {f : Unit → Read α} [hp : Takes Q p] [hf : ∀ u, Takes Q (f u)] :
    Takes Q (HOrElse.hOrElse p f) where
  exists_taken s a s' hs :=
    (of_orElse hs).elim (hp.exists_taken s a s') ((hf ()).exists_taken s a s')

instance {c : Prop} [Decidable c] [hp : Takes Q p] [hq : Takes Q q] :
    Takes Q (if c then p else q) := by
  split
  · exact hp
  · exact hq

instance [hp : Takes Q p] : Takes Q (maybe p) where
  exists_taken s o s' hs := by
    rcases of_maybe hs with ⟨a, -, ha⟩ | ⟨-, rfl⟩
    · exact hp.exists_taken s a s' ha
    · exact ⟨[], rfl, by simp⟩

instance : Takes Q (get : Read Progress) where
  exists_taken s b s' hs := by
    cases hs
    exact ⟨[], rfl, by simp⟩

instance : Takes Q peek := by unfold peek; infer_instance

instance : Takes Q peekSecond := by unfold peekSecond; infer_instance

instance : Takes Q remaining := by unfold remaining; infer_instance

instance (m : Mode) : Takes Q (goOn m) := by unfold goOn; infer_instance

instance (m : Mode) [Takes Q p] : Takes Q (maybeOn m p) := by unfold maybeOn; infer_instance

instance (fuel : Nat) [Takes Q p] : Takes Q (manyWith fuel p) := by
  induction fuel with
  | zero => unfold manyWith; infer_instance
  | succ fuel ih =>
    have hmore (o : Option α) : Takes Q (match o with
      | some a => do return a :: (← manyWith fuel p)
      | none => return []) := by cases o <;> infer_instance
    exact inferInstanceAs (Takes Q (maybe p >>= _))

instance [Takes Q p] : Takes Q (many p) := by unfold many; infer_instance

end Takes

theorem Takes.andThen {f : α → Read β} (hp : Takes Q p) (hf : ∀ a, Takes Q (f a)) :
    Takes Q (p >>= f) := inferInstance

/-- A token is not the keyword of package clauses. -/
def NotPackage (t : Lexeme) : Prop := t.isKeyword "package" = false

theorem notPackage_of_kind {t : Lexeme} (h : t.kind ≠ .keyword) : NotPackage t := by
  simp [NotPackage, Lexeme.isKeyword, h]

theorem notPackage_of_text {t : Lexeme} (h : t.text ≠ "package") : NotPackage t := by
  simp [NotPackage, Lexeme.isKeyword, h]

theorem kind_of_isSymbol {t : Lexeme} {s : String} (h : t.isSymbol s = true) :
    t.kind = .symbol := by
  simp only [Lexeme.isSymbol, Bool.and_eq_true, beq_iff_eq] at h
  exact h.1

instance (s : String) : Takes NotPackage (takeIf (·.isSymbol s)) :=
  .takeIf fun t ht => notPackage_of_kind (by simp [kind_of_isSymbol ht])

instance : Takes NotPackage (takeIf (·.kind == .string)) :=
  .takeIf fun t ht => notPackage_of_kind (by simp [beq_iff_eq.1 ht])

instance (symbols : List String) : Takes NotPackage (takeIf (isAmong symbols)) :=
  .takeIf fun t ht => notPackage_of_kind (by
    simp only [isAmong, Bool.and_eq_true, beq_iff_eq] at ht
    simp [ht.1])

instance (s : String) : Takes NotPackage (symbol s) := by unfold symbol; infer_instance

instance : Takes NotPackage name :=
  .takeIf fun t ht => notPackage_of_kind (by simp [beq_iff_eq.1 ht])

theorem takes_keyword {s : String} (hs : s ≠ "package") : Takes NotPackage (keyword s) := by
  have : Takes NotPackage (takeIf (·.isKeyword s)) := .takeIf fun t ht => notPackage_of_text (by
    simp only [Lexeme.isKeyword, Bool.and_eq_true, beq_iff_eq] at ht
    exact ht.2 ▸ hs)
  unfold keyword
  infer_instance

section Lists

variable [Takes NotPackage p]

instance (m : Mode) : Takes NotPackage (commas m p) := by unfold commas; infer_instance

instance (close : String) : Takes NotPackage (listUntil close p) := by
  unfold listUntil; infer_instance

instance : Takes NotPackage terminator := by
  have : Takes NotPackage (takeIf fun t => t.isSymbol ";" || t.isSymbol "\x00") :=
    .takeIf fun t ht => notPackage_of_kind (by
      rcases Bool.or_eq_true _ _ |>.mp ht with h | h <;> simp [kind_of_isSymbol h])
  unfold terminator
  infer_instance

instance (fuel : Nat) (isClose : Lexeme → Bool) :
    Takes NotPackage (terminatedWith fuel isClose p) := by
  induction fuel with
  | zero => unfold terminatedWith; infer_instance
  | succ fuel ih => unfold terminatedWith; infer_instance

instance (close : String) : Takes NotPackage (terminatedUntil close p) := by
  unfold terminatedUntil; infer_instance

end Lists

instance (r : Rules) (kind : String) {body : Read (List Node)} [Takes Q body] :
    Takes Q (r.node kind body) := by
  unfold Rules.node; infer_instance

set_option synthInstance.maxSize 500

/-- Rules none of which takes the keyword of package clauses. -/
class Rules.SparesPackage (r : Rules) : Prop where
  type : ∀ m, Takes NotPackage (r.type m)
  expression : ∀ m, Takes NotPackage (r.expression m)
  statement : Takes NotPackage r.statement
  block : Takes NotPackage r.block

attribute [instance] Rules.SparesPackage.type Rules.SparesPackage.expression
  Rules.SparesPackage.statement Rules.SparesPackage.block

section Types

variable (r : Rules) [r.SparesPackage] (m : Mode)

instance : Takes NotPackage (union r m) := by unfold union; infer_instance

instance : Takes NotPackage (typeArguments r) := by unfold typeArguments; infer_instance

instance : Takes NotPackage (namedType r m) := by
  have hmore (o : Option Node) (base : Node) {f : Node → Read Node}
      [∀ n, Takes NotPackage (f n)] : Takes NotPackage (match o with
        | none => pure base
        | some arguments => f arguments) := by cases o <;> infer_instance
  unfold namedType
  infer_instance

instance : Takes NotPackage (parameter r) := by unfold parameter; infer_instance

instance : Takes NotPackage (parameters r) := by unfold parameters; infer_instance

instance : Takes NotPackage (result r m) := by unfold result; infer_instance

instance : Takes NotPackage (typeParameter r) := by unfold typeParameter; infer_instance

instance : Takes NotPackage (typeParameters r) := by unfold typeParameters; infer_instance

instance : Takes NotPackage tag := by unfold tag; infer_instance

instance : Takes NotPackage (embeddedField r) := by unfold embeddedField; infer_instance

instance : Takes NotPackage (namedFields r) := by unfold namedFields; infer_instance

instance : Takes NotPackage (field r) := by unfold field; infer_instance

instance : Takes NotPackage (structType r) := by
  have : Takes NotPackage (keyword "struct") := takes_keyword (by decide)
  unfold structType; infer_instance

instance : Takes NotPackage (method r) := by unfold method; infer_instance

instance : Takes NotPackage (interfaceType r) := by
  have : Takes NotPackage (keyword "interface") := takes_keyword (by decide)
  unfold interfaceType; infer_instance

instance : Takes NotPackage (arrayType r m) := by unfold arrayType; infer_instance

instance : Takes NotPackage (mapType r m) := by
  have : Takes NotPackage (keyword "map") := takes_keyword (by decide)
  unfold mapType; infer_instance

instance : Takes NotPackage (channelType r m) := by
  have : Takes NotPackage (keyword "chan") := takes_keyword (by decide)
  unfold channelType; infer_instance

instance : Takes NotPackage (functionType r m) := by
  have : Takes NotPackage (keyword "func") := takes_keyword (by decide)
  unfold functionType; infer_instance

instance : Takes NotPackage (pointerType r m) := by unfold pointerType; infer_instance

instance : Takes NotPackage (parenthesizedType r) := by unfold parenthesizedType; infer_instance

instance : Takes NotPackage (negatedType r m) := by unfold negatedType; infer_instance

theorem takes_typeStep : Takes NotPackage (typeStep r m) := by
  unfold typeStep
  refine .peek_bind fun t => ?_
  split <;> exact Takes.at inferInstance t

end Types

section Expressions

variable (r : Rules) [r.SparesPackage] (m : Mode)

instance : Takes NotPackage (expressions r m) := by unfold expressions; infer_instance

instance (braces : Read Unit) [Takes NotPackage braces] : Takes NotPackage (element r braces) := by
  unfold element; infer_instance

instance (fuel : Nat) : Takes NotPackage (bracesWith fuel r) := by
  induction fuel with
  | zero => unfold bracesWith; infer_instance
  | succ fuel ih => unfold bracesWith; infer_instance

instance : Takes NotPackage (braces r) := by unfold braces; infer_instance

instance : Takes NotPackage (argument r) := by unfold argument; infer_instance

instance (takesType : Bool) : Takes NotPackage (callArguments r takesType) := by
  unfold callArguments; infer_instance

instance : Takes NotPackage (index r) := by unfold index; infer_instance

instance : Takes NotPackage (brackets r) := by unfold brackets; infer_instance

instance : Takes NotPackage (selection r m) := by
  have : Takes NotPackage (keyword "type") := takes_keyword (by decide)
  unfold selection; infer_instance

instance (o : Operand) : Takes NotPackage (suffix r m o) := by
  unfold suffix
  have hgoOn : Takes NotPackage (goOn m) := inferInstance
  refine hgoOn.andThen fun _ => .peek_bind fun t => ?_
  split <;> exact Takes.at inferInstance t

instance (fuel : Nat) (o : Operand) : Takes NotPackage (suffixes fuel r m o) := by
  induction fuel generalizing o with
  | zero => unfold suffixes; infer_instance
  | succ fuel ih =>
    have hmore (o : Option Operand) : Takes NotPackage (match o with
      | some o => suffixes fuel r m o
      | none => return ()) := by cases o <;> infer_instance
    unfold suffixes
    infer_instance

instance : Takes NotPackage (countedArray r) := by unfold countedArray; infer_instance

instance : Takes NotPackage (typedValue r) := by unfold typedValue; infer_instance

instance : Takes NotPackage (functionValue r) := by
  have : Takes NotPackage (keyword "func") := takes_keyword (by decide)
  unfold functionValue; infer_instance

instance : Takes NotPackage (bareOperand r) := by
  unfold bareOperand
  refine .peek_bind fun t => ?_
  have htake (o : Operand) (h : t.kind ≠ .keyword) : TakesAt NotPackage t (take *> pure o) :=
    (takesAt_take (notPackage_of_kind h)).bind fun _ => inferInstance
  split
  case h_1 h => exact htake _ (by simp [h])
  case h_2 h => exact htake _ (by simp [h])
  case h_3 h => exact htake _ (by simp [h])
  case h_4 h => exact htake _ (by simp [h])
  all_goals exact Takes.at inferInstance t

instance (fuel : Nat) : Takes NotPackage (operandWith fuel r m) := by
  induction fuel with
  | zero => unfold operandWith; infer_instance
  | succ fuel ih => unfold operandWith; infer_instance

instance : Takes NotPackage (operand r m) := by unfold operand; infer_instance

theorem takes_expressionStep : Takes NotPackage (expressionStep r m) := by
  unfold expressionStep; infer_instance

end Expressions

section Statements

variable (r : Rules) [r.SparesPackage] (m : Mode)

theorem takes_declarationOf {word : String} (hword : word ≠ "package") {item : Read α}
    [Takes NotPackage item] : Takes NotPackage (declarationOf word item) := by
  have : Takes NotPackage (keyword word) := takes_keyword hword
  unfold declarationOf; infer_instance

instance : Takes NotPackage (values r) := by unfold values; infer_instance

instance : Takes NotPackage (constants r) := by unfold constants; infer_instance

instance : Takes NotPackage (variableSpecs r) := by unfold variableSpecs; infer_instance

instance : Takes NotPackage declaredName := by unfold declaredName; infer_instance

instance : Takes NotPackage (typeSpec r) := by unfold typeSpec; infer_instance

instance : Takes NotPackage (typeAlias r) := by unfold typeAlias; infer_instance

instance : Takes NotPackage (typeDeclaration r) := by
  have : Takes NotPackage (declarationOf "type" (typeAlias r <|> typeSpec r)) :=
    takes_declarationOf (by decide)
  unfold typeDeclaration; infer_instance

instance : Takes NotPackage (simple r m) := by unfold simple; infer_instance

instance (head : Mode → Read Unit) [∀ m, Takes NotPackage (head m)] :
    Takes NotPackage (beforeBody head) := by
  unfold beforeBody headModes
  simp only [List.foldr_cons, List.foldr_nil]
  infer_instance

instance : Takes NotPackage (conditionHead r m) := by unfold conditionHead; infer_instance

instance (fuel : Nat) : Takes NotPackage (conditionWith fuel r) := by
  have hif : Takes NotPackage (keyword "if") := takes_keyword (by decide)
  have helse : Takes NotPackage (keyword "else") := takes_keyword (by decide)
  induction fuel with
  | zero => unfold conditionWith; infer_instance
  | succ fuel ih => unfold conditionWith; infer_instance

instance : Takes NotPackage (loopHead r m) := by
  have : Takes NotPackage (keyword "range") := takes_keyword (by decide)
  unfold loopHead; infer_instance

instance : Takes NotPackage (switchHead r m) := by unfold switchHead; infer_instance

instance : Takes NotPackage (statements r) := by unfold statements; infer_instance

theorem takes_blockStep : Takes NotPackage (blockStep r) := by unfold blockStep; infer_instance

instance (label : Read Unit) [Takes NotPackage label] : Takes NotPackage (cases r label) := by
  have hcase : Takes NotPackage (keyword "case") := takes_keyword (by decide)
  have hdefault : Takes NotPackage (keyword "default") := takes_keyword (by decide)
  unfold Grammar.cases; infer_instance

instance : Takes NotPackage (caseItem r) := by unfold caseItem; infer_instance

instance : Takes NotPackage (communication r) := by unfold communication; infer_instance

instance : Takes NotPackage (labeled r) := by unfold labeled; infer_instance

theorem takes_statementStep : Takes NotPackage (statementStep r) := by
  have hconst : Takes NotPackage (declarationOf "const" (constants r)) :=
    takes_declarationOf (by decide)
  have hvar : Takes NotPackage (declarationOf "var" (variableSpecs r)) :=
    takes_declarationOf (by decide)
  have hreturn : Takes NotPackage (keyword "return") := takes_keyword (by decide)
  have hfor : Takes NotPackage (keyword "for") := takes_keyword (by decide)
  have hswitch : Takes NotPackage (keyword "switch") := takes_keyword (by decide)
  have hselect : Takes NotPackage (keyword "select") := takes_keyword (by decide)
  have hfallthrough : Takes NotPackage (keyword "fallthrough") := takes_keyword (by decide)
  have hgoto : Takes NotPackage (keyword "goto") := takes_keyword (by decide)
  unfold statementStep
  refine .peek_bind fun t => ?_
  have htake {f : Lexeme → Read Unit} (hf : ∀ u, Takes NotPackage (f u)) (h : t.text ≠ "package") :
      TakesAt NotPackage t (take >>= f) := (takesAt_take (notPackage_of_text h)).bind hf
  split
  case h_5 h => exact htake (fun _ => inferInstance) (by simp [h])
  case h_6 h => exact htake (fun _ => inferInstance) (by simp [h])
  case h_12 h => exact htake (fun _ => inferInstance) (by simp [h])
  case h_13 h => exact htake (fun _ => inferInstance) (by simp [h])
  all_goals exact Takes.at inferInstance t

end Statements

section Files

variable (r : Rules) [r.SparesPackage]

instance : Takes NotPackage importSpec := by unfold importSpec; infer_instance

instance : Takes NotPackage (function r) := by
  have : Takes NotPackage (keyword "func") := takes_keyword (by decide)
  unfold function; infer_instance

end Files

/-- No rule takes the keyword of package clauses on behalf of another one. -/
instance (source : Array Char) (n : Nat) : (rules source n).SparesPackage := by
  induction n with
  | zero =>
    exact ⟨fun _ => inferInstanceAs (Takes _ failure), fun _ => inferInstanceAs (Takes _ failure),
      inferInstanceAs (Takes _ failure), inferInstanceAs (Takes _ failure)⟩
  | succ n ih =>
    exact ⟨takes_typeStep _, takes_expressionStep _, takes_statementStep _, takes_blockStep _⟩

end TypeWeave.Go.Grammar
