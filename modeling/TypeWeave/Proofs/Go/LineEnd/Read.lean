import TypeWeave.Proofs.Go.LineEnd.Lexeme
import TypeWeave.Proofs.Go.Taken

/-!
# Reading and line ends

The counterpart of a tree has carriage returns in the texts of its nodes. Whatever is read of tokens
has its counterpart read of their counterparts, if nothing but strings goes on behind a line end. It
is enough to look at the parts of what reads, one instance for each way of putting parts together.
-/

namespace TypeWeave.Go

open Text (crlf crlfString)

mutual

/-- A node of a tree, in the tree of the source with carriage returns. The kind of a node for
punctuation is its text. -/
def Node.moved : Node → Node
  | ⟨kind, text, row, column, isError, isMissing, hasError, isNamed, field, children⟩ =>
    ⟨if isNamed then kind else crlfString kind, crlfString text, row, column, isError, isMissing,
      hasError, isNamed, field, Node.movedAll children⟩

/-- Nodes in a row, in the tree of the source with carriage returns. -/
def Node.movedAll : List Node → List Node
  | [] => []
  | n :: ns => n.moved :: Node.movedAll ns

end

theorem Node.movedAll_eq_map (ns : List Node) : Node.movedAll ns = ns.map Node.moved := by
  induction ns with
  | nil => rfl
  | cons n ns ih => rw [Node.movedAll, ih, List.map_cons]

theorem Node.moved_as (n : Node) (role : String) : (n.as role).moved = n.moved.as role := by
  cases n
  rfl

theorem Node.moved_kind (n : Node) :
    n.moved.kind = if n.isNamed then n.kind else crlfString n.kind := by
  cases n
  rfl

/-- A kind among those that are sought is the same. -/
theorem Node.contains_kind_moved (n : Node) {kinds : List String}
    (h : ∀ kind ∈ kinds, '\n' ∉ kind.toList) :
    kinds.contains n.moved.kind = kinds.contains n.kind := by
  rw [n.moved_kind]
  split
  · rfl
  · rw [Bool.eq_iff_iff, List.contains_iff_mem, List.contains_iff_mem]
    constructor
    · intro hmem
      rwa [(Text.crlfString_eq_iff (h _ hmem)).1 rfl]
    · intro hmem
      rwa [Text.crlfString_eq_self (h _ hmem)]

/-- A token goes on behind a line end only if it is a string. -/
def Lexeme.IsInline (t : Lexeme) : Prop := t.kind ≠ .string → '\n' ∉ t.text.toList

/-- No token but strings goes on behind a line end. -/
def Lexeme.AllInline (ts : List Lexeme) : Prop := ∀ t ∈ ts, t.IsInline

namespace Grammar

open Lexeme (AllInline)

/-- What has a counterpart in the source with carriage returns. -/
class Movable (α : Type) where
  /-- The counterpart in the source with carriage returns. -/
  moved : List Char → α → α

export Movable (moved)

section Counterparts

variable {α β : Type} [Movable α] [Movable β] {source : List Char}

instance : Movable Unit := ⟨fun _ u => u⟩

instance : Movable Nat := ⟨fun _ n => n⟩

instance : Movable Bool := ⟨fun _ b => b⟩

instance : Movable Operand := ⟨fun _ o => o⟩

instance : Movable Lexeme := ⟨Lexeme.moved⟩

instance : Movable Node := ⟨fun _ n => n.moved⟩

instance : Movable (Option α) := ⟨fun source => Option.map (moved source)⟩

instance : Movable (List α) := ⟨fun source => List.map (moved source)⟩

instance : Movable (α × β) := ⟨fun source x => (moved source x.1, moved source x.2)⟩

instance : Movable Progress := ⟨fun source s => ⟨moved source s.rest, s.last.moved source⟩⟩

/-- Two things of which the second is the counterpart of the first. -/
class Moved (source : List Char) (a a' : α) : Prop where
  eq : a' = moved source a

namespace Moved

instance (a : α) : Moved source a (moved source a) := ⟨rfl⟩

instance (u : Unit) : Moved source u u := ⟨rfl⟩

instance (n : Nat) : Moved source n n := ⟨rfl⟩

instance (b : Bool) : Moved source b b := ⟨rfl⟩

instance (o : Operand) : Moved source o o := ⟨rfl⟩

instance : Moved source (none : Option α) none := ⟨rfl⟩

instance {a a' : α} [h : Moved source a a'] : Moved source (some a) (some a') :=
  ⟨congrArg some h.eq⟩

instance : Moved source ([] : List α) [] := ⟨rfl⟩

instance {a a' : α} {as as' : List α} [h : Moved source a a'] [hs : Moved source as as'] :
    Moved source (a :: as) (a' :: as') :=
  ⟨congrArg₂ List.cons h.eq hs.eq⟩

instance {as as' bs bs' : List α} [ha : Moved source as as'] [hb : Moved source bs bs'] :
    Moved source (as ++ bs) (as' ++ bs') :=
  ⟨by rw [ha.eq, hb.eq]; exact List.map_append.symm⟩

instance {a a' : α} {b b' : β} [ha : Moved source a a'] [hb : Moved source b b'] :
    Moved source (a, b) (a', b') :=
  ⟨congrArg₂ Prod.mk ha.eq hb.eq⟩

instance (x : α × β) : Moved source x.1 (moved source x).1 := ⟨rfl⟩

instance (x : α × β) : Moved source x.2 (moved source x).2 := ⟨rfl⟩

instance {o o' : Option α} [h : Moved source o o'] : Moved source o.toList o'.toList :=
  ⟨by rw [h.eq]; cases o <;> rfl⟩

instance {as as' : List α} [h : Moved source as as'] : Moved source as.length as'.length :=
  ⟨by rw [h.eq]; exact List.length_map _⟩

instance {f : α → β} {o o' : Option α} [h : Moved source o o']
    [hf : ∀ a, Moved source (f a) (f (moved source a))] :
    Moved source (o.map f) (o'.map f) := by
  refine ⟨?_⟩
  rw [h.eq]
  cases o with
  | none => rfl
  | some a => exact congrArg some (hf a).eq

instance {n n' : Node} (role : String) [h : Moved source n n'] :
    Moved source (n.as role) (n'.as role) :=
  ⟨by rw [h.eq]; exact (n.moved_as role).symm⟩

instance (kind : String) (t : Lexeme) :
    Moved source (leaf kind t) (leaf kind (moved source t)) := ⟨rfl⟩

instance (t : Lexeme) : Moved source (mark t) (mark (moved source t)) := ⟨rfl⟩

instance (t : Lexeme) : Moved source (comments t) (comments (moved source t)) := by
  refine ⟨?_⟩
  have hline : (moved source t).afterComment = t.afterComment := rfl
  unfold comments
  rw [hline]
  split <;> rfl

end Moved

/-- A token is among those that are known. -/
class Known (known : List Lexeme) (t : Lexeme) : Prop where
  mem : t ∈ known

instance (known : List Lexeme) (t : Lexeme) : Known (t :: known) t := ⟨List.mem_cons_self⟩

instance (known : List Lexeme) (t u : Lexeme) [h : Known known t] : Known (u :: known) t :=
  ⟨List.mem_cons_of_mem u h.mem⟩

/-- Two questions about tokens that are known have one answer. -/
class Same (known : List Lexeme) (b b' : Bool) : Prop where
  eq : AllInline known → b = b'

namespace Same

variable {known : List Lexeme} {b b' c c' : Bool} {t : Lexeme}

instance (b : Bool) : Same known b b := ⟨fun _ => rfl⟩

instance [h : Same known b b'] : Same known (!b) (!b') := ⟨fun hk => congrArg _ (h.eq hk)⟩

instance [hb : Same known b b'] [hc : Same known c c'] : Same known (b && c) (b' && c') :=
  ⟨fun hk => congrArg₂ _ (hb.eq hk) (hc.eq hk)⟩

instance [hb : Same known b b'] [hc : Same known c c'] : Same known (b || c) (b' || c') :=
  ⟨fun hk => congrArg₂ _ (hb.eq hk) (hc.eq hk)⟩

instance (o : Option α) : Same known o.isNone (moved source o).isNone :=
  ⟨fun _ => by cases o <;> rfl⟩

instance : Same known t.isEnding (moved source t).isEnding := ⟨fun _ => rfl⟩

instance : Same known t.afterLine (moved source t).afterLine := ⟨fun _ => rfl⟩

instance (kind : Lexeme.Kind) : Same known (t.kind == kind) ((moved source t).kind == kind) :=
  ⟨fun _ => rfl⟩

/-- The text of anything but a string is the same. -/
theorem text_moved (ht : t.IsInline) (h : t.kind ≠ .string) : (moved source t).text = t.text :=
  Text.crlfString_eq_self (ht h)

/-- A look at the text of anything but strings finds the same. -/
theorem of_kind {kind : Lexeme.Kind} (hkind : kind ≠ .string) (f : String → Bool)
    [ht : Known known t] : Same known (t.kind == kind && f t.text)
      ((moved source t).kind == kind && f (moved source t).text) := by
  refine ⟨fun hk => ?_⟩
  by_cases h : t.kind = .string
  · have hne : (t.kind == kind) = false := beq_eq_false_iff_ne.2 fun heq => hkind (heq ▸ h)
    have hne' : ((moved source t).kind == kind) = false := hne
    rw [hne, hne', Bool.false_and, Bool.false_and]
  · rw [text_moved (hk t ht.mem) h]
    rfl

variable [Known known t]

instance (s : String) : Same known (t.isSymbol s) ((moved source t).isSymbol s) :=
  of_kind Lexeme.Kind.noConfusion (· == s)

instance (s : String) : Same known (t.isKeyword s) ((moved source t).isKeyword s) :=
  of_kind Lexeme.Kind.noConfusion (· == s)

instance (symbols : List String) :
    Same known (t.kind == .symbol && symbols.contains t.text)
      ((moved source t).kind == .symbol && symbols.contains (moved source t).text) :=
  of_kind Lexeme.Kind.noConfusion symbols.contains

instance (symbols : List String) :
    Same known (isAmong symbols t) (isAmong symbols (moved source t)) := by
  unfold isAmong
  infer_instance

instance : Same known (endsStatements t) (endsStatements (moved source t)) := by
  unfold endsStatements
  infer_instance

end Same

end Counterparts

/-- A rule gives the counterpart of what another one gives, when the tokens that are known and those
to come are within their lines. -/
class Moves (source : List Char) (known : List Lexeme) {α : Type} [Movable α] (p p' : Read α) :
    Prop where
  run_eq : AllInline known → ∀ s : Progress, AllInline s.rest →
    p'.run (moved source s) = (p.run s).map (moved source)
  allInline : AllInline known → ∀ (s : Progress) (x : α × Progress), AllInline s.rest →
    p.run s = some x → AllInline x.2.rest

section Runs

variable {α β : Type}

theorem run_bind (p : Read α) (f : α → Read β) (s : Progress) :
    (p >>= f).run s = (p.run s).bind fun x => (f x.1).run x.2 := rfl

theorem run_orElse (p : Read α) (f : Unit → Read α) (s : Progress) :
    (HOrElse.hOrElse p f).run s = (p.run s).or ((f ()).run s) := by
  have hrun : (HOrElse.hOrElse p f).run s = (p.run s <|> (f ()).run s) := rfl
  rw [hrun]
  cases p.run s <;> rfl

theorem run_maybe (p : Read α) (s : Progress) :
    (maybe p).run s = some ((p.run s).map Prod.fst, ((p.run s).map Prod.snd).getD s) := by
  change maybe p s = _
  unfold maybe
  cases p.run s <;> rfl

end Runs

variable {α β : Type} [Movable α] [Movable β] {source : List Char} {known : List Lexeme}
  {p p' q q' : Read α}

theorem moved_noToken : moved source noToken = noToken := by
  refine Lexeme.eq_of_parts rfl rfl ?_ ?_ rfl rfl <;>
    simp [moved, Lexeme.moved, noToken, Place.moved]

theorem headD_moved (ts : List Lexeme) :
    (moved source ts).headD noToken = moved source (ts.headD noToken) := by
  cases ts with
  | nil => exact moved_noToken.symm
  | cons t ts => rfl

theorem allInline_headD {ts : List Lexeme} (h : AllInline ts) (hk : AllInline known) :
    AllInline (ts.headD noToken :: known) := by
  refine List.forall_mem_cons.2 ⟨?_, hk⟩
  cases ts with
  | nil => exact fun _ => by simp [noToken]
  | cons t ts => exact h t List.mem_cons_self

theorem allInline_tail {ts : List Lexeme} (h : AllInline ts) : AllInline ts.tail :=
  fun t ht => h t (List.mem_of_mem_tail ht)

namespace Moves

instance {a a' : α} [h : Moved source a a'] :
    Moves source known (pure a : Read α) (pure a' : Read α) where
  run_eq _ s _ := by
    rw [h.eq]
    rfl
  allInline _ s x hs hx := by
    cases hx
    exact hs

instance : Moves source known (failure : Read α) failure where
  run_eq _ _ _ := rfl
  allInline _ s x hs hx := by cases hx

instance bind {f f' : α → Read β} [hp : Moves source known p p']
    [hf : ∀ a, Moves source known (f a) (f' (moved source a))] :
    Moves source known (p >>= f) (p' >>= f') where
  run_eq hk s hs := by
    rw [run_bind, run_bind, hp.run_eq hk s hs]
    cases hrun : p.run s with
    | none => rfl
    | some x => exact (hf x.1).run_eq hk x.2 (hp.allInline hk s x hs hrun)
  allInline hk s y hs hy := by
    rw [run_bind, Option.bind_eq_some_iff] at hy
    obtain ⟨x, hx, hy⟩ := hy
    exact (hf x.1).allInline hk x.2 y (hp.allInline hk s x hs hx) hy

/-- The token to come is known. -/
instance peek_bind {f f' : Lexeme → Read α}
    [hf : ∀ t, Moves source (t :: known) (f t) (f' (moved source t))] :
    Moves source known (peek >>= f) (peek >>= f') where
  run_eq hk s hs := by
    have hmore := (hf (s.rest.headD noToken)).run_eq (allInline_headD hs hk) s hs
    rw [← headD_moved] at hmore
    exact hmore
  allInline hk s x hs hx := (hf (s.rest.headD noToken)).allInline (allInline_headD hs hk) s x hs hx

instance peekSecond_bind {f f' : Lexeme → Read α}
    [hf : ∀ t, Moves source (t :: known) (f t) (f' (moved source t))] :
    Moves source known (peekSecond >>= f) (peekSecond >>= f') where
  run_eq hk s hs := by
    have hmore := (hf (s.rest.tail.headD noToken)).run_eq
      (allInline_headD (allInline_tail hs) hk) s hs
    have htail : (moved source s.rest).tail = moved source s.rest.tail := List.map_tail.symm
    rw [← headD_moved, ← htail] at hmore
    exact hmore
  allInline hk s x hs hx :=
    (hf (s.rest.tail.headD noToken)).allInline (allInline_headD (allInline_tail hs) hk) s x hs hx

instance {f f' : Unit → Read β} [Moves source known p p']
    [∀ u, Moves source known (f u) (f' u)] :
    Moves source known (SeqRight.seqRight p f) (SeqRight.seqRight p' f') :=
  inferInstanceAs (Moves source known (p >>= fun _ => f ()) (p' >>= fun _ => f' ()))

instance {f f' : Unit → Read α} [hp : Moves source known p p']
    [hf : ∀ u, Moves source known (f u) (f' u)] :
    Moves source known (HOrElse.hOrElse p f) (HOrElse.hOrElse p' f') where
  run_eq hk s hs := by
    rw [run_orElse, run_orElse, hp.run_eq hk s hs, (hf ()).run_eq hk s hs, Option.map_or]
  allInline hk s x hs hx := by
    rw [run_orElse, Option.or_eq_some_iff] at hx
    exact hx.elim (hp.allInline hk s x hs) fun h => (hf ()).allInline hk s x hs h.2

instance {b b' : Bool} [hb : Same known b b'] [hp : Moves source known p p']
    [hq : Moves source known q q'] :
    Moves source known (if b then p else q) (if b' then p' else q') where
  run_eq hk := by
    rw [← hb.eq hk]
    split
    · exact hp.run_eq hk
    · exact hq.run_eq hk
  allInline hk := by
    split
    · exact hp.allInline hk
    · exact hq.allInline hk

instance {c : Prop} [Decidable c] [hp : Moves source known p p'] [hq : Moves source known q q'] :
    Moves source known (if c then p else q) (if c then p' else q') := by
  split
  · exact hp
  · exact hq

instance [hp : Moves source known p p'] : Moves source known (maybe p) (maybe p') where
  run_eq hk s hs := by
    rw [run_maybe, run_maybe, hp.run_eq hk s hs]
    cases p.run s <;> rfl
  allInline hk s x hs hx := by
    rw [run_maybe] at hx
    cases hx
    cases h : p.run s with
    | none => exact hs
    | some y => exact hp.allInline hk s y hs h

instance : Moves source known take take where
  run_eq _ s hs := by
    obtain ⟨rest, last⟩ := s
    cases rest with
    | nil => rfl
    | cons t rest =>
      have hrun (t : Lexeme) (rest : List Lexeme) (last : Place) : take.run ⟨t :: rest, last⟩ =
          if t.isEnding then none else some (t, ⟨rest, t.stop⟩) := by
        change (if t.isEnding then failure else do
          set (Progress.mk rest t.stop)
          return t : Read Lexeme).run _ = _
        split <;> rfl
      have hending : (moved source t).isEnding = t.isEnding := rfl
      have hmoved : moved source (Progress.mk (t :: rest) last) =
          ⟨moved source t :: moved source rest, last.moved source⟩ := rfl
      rw [hmoved, hrun, hrun, hending]
      split <;> rfl
  allInline _ s x hs hx := by
    have hrest := rest_eq_of_take hx
    exact fun t ht => hs t (by rw [hrest]; exact List.mem_cons_of_mem _ ht)

instance {f : Lexeme → Bool} [∀ t, Same (t :: known) (f t) (f (moved source t))] :
    Moves source known (takeIf f) (takeIf f) := by
  unfold takeIf
  infer_instance

instance (s : String) : Moves source known (symbol s) (symbol s) := by
  unfold symbol
  infer_instance

instance (s : String) : Moves source known (keyword s) (keyword s) := by
  unfold keyword
  infer_instance

instance : Moves source known name name := by unfold name; infer_instance

instance (m : Mode) : Moves source known (goOn m) (goOn m) := by unfold goOn; infer_instance

instance (m : Mode) [Moves source known p p'] :
    Moves source known (maybeOn m p) (maybeOn m p') := by
  unfold maybeOn
  infer_instance

instance : Moves source known remaining remaining where
  run_eq _ s _ := by
    have hrun (s : Progress) : remaining.run s = some (s.rest.length + 1, s) := rfl
    have hlength : (moved source s).rest.length = s.rest.length := List.length_map _
    rw [hrun, hrun, hlength]
    rfl
  allInline _ s x hs hx := by
    cases hx
    exact hs

instance (fuel : Nat) [Moves source known p p'] :
    Moves source known (manyWith fuel p) (manyWith fuel p') := by
  induction fuel with
  | zero => unfold manyWith; infer_instance
  | succ fuel ih =>
    have hmore (o : Option α) : Moves source known (match o with
        | some a => do return a :: (← manyWith fuel p)
        | none => return []) (match moved source o with
        | some a => do return a :: (← manyWith fuel p')
        | none => return []) := by
      cases o with
      | none => exact inferInstanceAs (Moves source known (pure []) (pure []))
      | some a => exact inferInstanceAs (Moves source known
          (manyWith fuel p >>= fun as => pure (a :: as))
          (manyWith fuel p' >>= fun as => pure (moved source a :: as)))
    exact inferInstanceAs (Moves source known (maybe p >>= _) (maybe p' >>= _))

instance [Moves source known p p'] : Moves source known (many p) (many p') := by
  unfold many
  infer_instance

instance (m : Mode) [Moves source known p p'] :
    Moves source known (commas m p) (commas m p') := by
  unfold commas
  infer_instance

instance (close : String) [Moves source known p p'] :
    Moves source known (listUntil close p) (listUntil close p') := by
  unfold listUntil
  infer_instance

instance : Moves source known terminator terminator := by unfold terminator; infer_instance

instance (fuel : Nat) (isClose : Lexeme → Bool)
    [∀ t known, Same (t :: known) (isClose t) (isClose (moved source t))]
    [∀ known, Moves source known p p'] :
    Moves source known (terminatedWith fuel isClose p) (terminatedWith fuel isClose p') := by
  induction fuel generalizing known with
  | zero => unfold terminatedWith; infer_instance
  | succ fuel ih => unfold terminatedWith; infer_instance

instance (close : String) [∀ known, Moves source known p p'] :
    Moves source known (terminatedUntil close p) (terminatedUntil close p') := by
  unfold terminatedUntil
  infer_instance

instance : Moves source known (get : Read Progress) get where
  run_eq _ _ _ := rfl
  allInline _ s x hs hx := by
    cases hx
    exact hs

end Moves

end Grammar

end TypeWeave.Go
