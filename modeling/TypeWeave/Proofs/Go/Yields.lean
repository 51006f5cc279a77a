import TypeWeave.Go.Grammar.Basic

/-!
# What rules yield

A property of what a rule gives whenever it fits. It is enough to look at the parts of a rule, one
lemma for each way of putting parts together; what the rule reads on the way does not matter.
-/

namespace TypeWeave.Go.Grammar

/-- Whatever a rule gives has a property. -/
def Yields (p : Read α) (Q : α → Prop) : Prop := ∀ s a s', p.run s = some (a, s') → Q a

variable {α β : Type} {p q : Read α} {P Q : α → Prop}

namespace Yields

theorem mono (h : Yields p P) (hpq : ∀ a, P a → Q a) : Yields p Q :=
  fun s a s' hs => hpq a (h s a s' hs)

theorem trivial (p : Read α) : Yields p fun _ => True := fun _ _ _ _ => True.intro

theorem pure {a : α} (h : Q a) : Yields (pure a : Read α) Q := by
  intro s b s' hs
  cases hs
  exact h

theorem failure : Yields (failure : Read α) Q := by
  intro s a s' hs
  cases hs

theorem bind {f : α → Read β} {R : β → Prop} (hp : Yields p P)
    (hf : ∀ a, P a → Yields (f a) R) : Yields (p >>= f) R := by
  intro s b s' hs
  change (p.run s >>= fun x => (f x.1).run x.2) = some (b, s') at hs
  cases hp' : p.run s with
  | none => simp [hp'] at hs
  | some x =>
    obtain ⟨a, t⟩ := x
    simp only [hp', Option.bind_eq_bind, Option.bind_some] at hs
    exact hf a (hp s a t hp') t b s' hs

/-- What comes first does not matter when the rest yields the property whatever it was. -/
theorem after {f : α → Read β} {R : β → Prop} (hf : ∀ a, Yields (f a) R) :
    Yields (p >>= f) R :=
  bind (trivial p) fun a _ => hf a

theorem seqRight {q : Read β} {R : β → Prop} (hq : Yields q R) : Yields (p *> q) R := by
  rw [seqRight_eq_bind]
  exact after fun _ => hq

theorem orElse (hp : Yields p Q) (hq : Yields q Q) : Yields (p <|> q) Q := by
  intro s a s' hs
  change ((p.run s) <|> (q.run s)) = some (a, s') at hs
  cases hp' : p.run s with
  | none => exact hq s a s' (by simpa [hp'] using hs)
  | some x => exact hp s a s' (by simpa [hp'] using hs)

theorem maybe (hp : Yields p Q) : Yields (maybe p) fun o => ∀ a ∈ o, Q a := by
  intro s o s' hs
  simp only [StateT.run, Grammar.maybe] at hs
  cases hp' : p s with
  | none =>
    obtain ⟨rfl, -⟩ : none = o ∧ s = s' := by simpa [hp'] using hs
    simp
  | some x =>
    obtain ⟨rfl, -⟩ : some x.1 = o ∧ x.2 = s' := by simpa [hp'] using hs
    rintro a ⟨⟩
    exact hp s x.1 x.2 hp'

theorem maybeOn (m : Mode) (hp : Yields p Q) : Yields (maybeOn m p) fun o => ∀ a ∈ o, Q a :=
  maybe (seqRight hp)

theorem manyWith (fuel : Nat) (hp : Yields p Q) :
    Yields (manyWith fuel p) fun as => ∀ a ∈ as, Q a := by
  induction fuel with
  | zero => exact pure (by simp)
  | succ fuel ih =>
    refine bind (maybe hp) fun o ho => ?_
    cases o with
    | none => exact pure (by simp)
    | some a => exact bind ih fun as has => pure (List.forall_mem_cons.2 ⟨ho a rfl, has⟩)

theorem many (hp : Yields p Q) : Yields (many p) fun as => ∀ a ∈ as, Q a :=
  after fun fuel => manyWith fuel hp

theorem commas (m : Mode) (hp : Yields p Q) : Yields (commas m p) fun as => ∀ a ∈ as, Q a :=
  bind hp fun _ ha => bind (many (seqRight hp)) fun _ has =>
    pure (List.forall_mem_cons.2 ⟨ha, has⟩)

theorem terminatedWith (fuel : Nat) (isClose : Lexeme → Bool) (hp : Yields p Q) :
    Yields (terminatedWith fuel isClose p) fun as => ∀ a ∈ as, Q a := by
  induction fuel with
  | zero => exact failure
  | succ fuel ih =>
    refine after fun t => ?_
    split
    · exact pure (by simp)
    · refine bind hp fun a ha => after fun t => ?_
      split
      · exact pure (by simpa using ha)
      · exact after fun _ => bind ih fun as has => pure (List.forall_mem_cons.2 ⟨ha, has⟩)

theorem terminatedUntil (close : String) (hp : Yields p Q) :
    Yields (terminatedUntil close p) fun as => ∀ a ∈ as, Q a :=
  after fun fuel => bind (terminatedWith fuel _ hp) fun _ has => after fun _ => pure has

end Yields

/-- The token that is read is the first of those to come. -/
theorem take_eq_some {s s' : Progress} {t : Lexeme} (h : take.run s = some (t, s')) :
    s.rest.headD noToken = t := by
  obtain ⟨rest, last⟩ := s
  cases rest with
  | nil => cases h
  | cons u rest =>
    simp only [take, StateT.run, Bind.bind, StateT.bind, get, getThe, MonadStateOf.get,
      StateT.get, Pure.pure, Option.bind_some] at h
    split at h
    · cases h
    · change some (u, Progress.mk rest u.stop) = some (t, s') at h
      cases h
      rfl

/-- A token of some sort is one. -/
theorem yields_takeIf (f : Lexeme → Bool) : Yields (takeIf f) fun t => f t = true := by
  intro s t s' hs
  change (if f (s.rest.headD noToken) then take else failure : Read Lexeme).run s =
    some (t, s') at hs
  split at hs
  · rename_i hf
    rwa [take_eq_some hs] at hf
  · cases hs

/-- The text of a word is a name. -/
theorem yields_name : Yields name fun t => Lexeme.isName t.text.toList = true :=
  (yields_takeIf _).mono fun t ht => t.plain (by simpa using ht)

end TypeWeave.Go.Grammar
