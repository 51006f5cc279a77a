import TypeWeave.Go.Declaration
import TypeWeave.Proofs.Text.Replace

/-!
# Writing struct tags

A tag is written as pairs `key:"value"` with a blank between them, where a backslash goes before
each backslash and each double quote of a value. A literal holds a tag as it is between raw quotes,
or escaped once more between double quotes. Main statements: `unescape_escape`, `pairs_write` and
`tagLookup_write`, which says that what was written is read back from either literal.
-/

namespace TypeWeave.Go.Tag

/-- A backslash goes before a backslash and before a double quote. -/
def escapeChar (c : Char) : List Char := if c = '\\' ∨ c = '"' then ['\\', c] else [c]

/-- Escape the characters of a value. -/
def escape (cs : List Char) : List Char := cs.flatMap escapeChar

/-- A text that can be the key of a pair. -/
def IsKey (key : String) : Prop :=
  key.toList ≠ [] ∧ ∀ c ∈ key.toList, Text.isBlank c = false ∧ c ≠ ':' ∧ c ≠ '"'

instance (key : String) : Decidable (IsKey key) :=
  @instDecidableAnd _ _ inferInstance (List.decidableBAll _ _)

/-- A key with its value, as it is written. -/
def writePair (p : String × String) : List Char :=
  p.1.toList ++ ':' :: '"' :: (escape p.2.toList ++ ['"'])

/-- The tag of pairs. -/
def write (ps : List (String × String)) : String :=
  String.ofList (Text.intercalate [' '] (ps.map writePair))

/-- The literal with a text between double quotes. -/
def interpreted (s : String) : String := String.ofList ('"' :: (escape s.toList ++ ['"']))

/-- The literal with a text between raw quotes. -/
def raw (s : String) : String := String.ofList ('\x60' :: (s.toList ++ ['\x60']))

/-- Put a backslash before each backslash only. -/
private def doubleSlashes (cs : List Char) : List Char :=
  cs.flatMap fun c => if c = '\\' then ['\\', '\\'] else [c]

/-- What is written of a value does not start with a quote. -/
private theorem head?_escape_ne (cs : List Char) : (escape cs).head? ≠ some '"' := by
  cases cs with
  | nil => simp [escape]
  | cons c cs =>
    rw [escape, List.flatMap_cons, escapeChar]
    split
    · simp
    · rename_i h
      rw [not_or] at h
      simpa using h.2

/-- A backslash that no quote follows escapes none. -/
private theorem dropPrefix?_quote {cs : List Char} (h : cs.head? ≠ some '"') :
    Text.dropPrefix? ['\\', '"'] ('\\' :: cs) = none := by
  cases cs with
  | nil => rfl
  | cons d ds =>
    have hd : '"' ≠ d := by simpa [eq_comm] using h
    simp [Text.dropPrefix?, hd]

/-- Undoing the escapes of quotes leaves those of backslashes. -/
private theorem replace_escape (cs : List Char) :
    Text.replace ['\\', '"'] ['"'] (escape cs) = doubleSlashes cs := by
  induction cs with
  | nil => rfl
  | cons c cs ih =>
    have hhead := head?_escape_ne cs
    rw [escape, List.flatMap_cons, ← escape, escapeChar, doubleSlashes, List.flatMap_cons,
      ← doubleSlashes]
    by_cases hslash : c = '\\'
    · subst hslash
      rw [if_pos (Or.inl rfl), if_pos rfl, List.cons_append, List.cons_append, List.nil_append,
        Text.replace_cons _ (dropPrefix?_quote (by simp)),
        Text.replace_cons _ (dropPrefix?_quote hhead), ih]
      rfl
    · by_cases hquote : c = '"'
      · subst hquote
        have hdrop : Text.dropPrefix? ['\\', '"'] ('\\' :: '"' :: escape cs) = some (escape cs) := by
          simp [Text.dropPrefix?]
        rw [if_pos (Or.inr rfl), if_neg hslash, List.cons_append, List.cons_append,
          List.nil_append, Text.replace_of_dropPrefix? _ hdrop, ih]
      · have hdrop : Text.dropPrefix? ['\\', '"'] (c :: escape cs) = none := by
          simp [Text.dropPrefix?, Ne.symm hslash]
        rw [if_neg (by simp [hslash, hquote]), if_neg hslash, List.singleton_append,
          List.singleton_append, Text.replace_cons _ hdrop, ih]

/-- Undoing the escapes of backslashes gives the text back. -/
private theorem replace_doubleSlashes (cs : List Char) :
    Text.replace ['\\', '\\'] ['\\'] (doubleSlashes cs) = cs := by
  induction cs with
  | nil => rfl
  | cons c cs ih =>
    rw [doubleSlashes, List.flatMap_cons, ← doubleSlashes]
    by_cases hslash : c = '\\'
    · subst hslash
      have hdrop : Text.dropPrefix? ['\\', '\\'] ('\\' :: '\\' :: doubleSlashes cs) =
          some (doubleSlashes cs) := by simp [Text.dropPrefix?]
      rw [if_pos rfl, List.cons_append, List.cons_append, List.nil_append,
        Text.replace_of_dropPrefix? _ hdrop, ih, List.singleton_append]
    · have hdrop : Text.dropPrefix? ['\\', '\\'] (c :: doubleSlashes cs) = none := by
        simp [Text.dropPrefix?, Ne.symm hslash]
      rw [if_neg hslash, List.singleton_append, Text.replace_cons _ hdrop, ih]

/-- A text that was escaped is given back, whatever backslashes and quotes it holds. -/
theorem unescape_escape (cs : List Char) : unescape (escape cs) = cs := by
  rw [unescape, replace_escape, replace_doubleSlashes]

/-- The text between two quotes. -/
theorem between_quoted (q : Char) (cs : List Char) : between (q :: (cs ++ [q])) = cs := by
  rw [between, List.tail_cons, List.dropLast_concat]

/-- A text between two quotes starts and ends with that quote. -/
theorem enclosedBy_quoted (q q' : Char) (cs : List Char) :
    enclosedBy q (q' :: (cs ++ [q'])) = true ↔ q' = q := by
  simp [enclosedBy, List.getLast?_cons]

/-- The literal between double quotes stands for its text. -/
theorem unquote_interpreted (s : String) : unquote (interpreted s) = s := by
  have hraw : ¬enclosedBy '\x60' ('"' :: (escape s.toList ++ ['"'])) = true :=
    fun h => absurd ((enclosedBy_quoted _ _ _).1 h) (by decide)
  rw [unquote, interpreted, String.toList_ofList]
  rw [if_neg hraw, if_pos ((enclosedBy_quoted _ _ _).2 rfl), between_quoted, unescape_escape,
    String.ofList_toList]

/-- The literal between raw quotes stands for its text. -/
theorem unquote_raw (s : String) : unquote (raw s) = s := by
  rw [unquote, raw, String.toList_ofList]
  rw [if_pos ((enclosedBy_quoted _ _ _).2 rfl), between_quoted, String.ofList_toList]

/-- A value ends at the first quote that is not escaped. -/
theorem value?_escape (cs rest : List Char) :
    value? (escape cs ++ '"' :: rest) = some (escape cs, rest) := by
  induction cs with
  | nil => rfl
  | cons c cs ih =>
    rw [escape, List.flatMap_cons, ← escape, escapeChar]
    split
    · rename_i h
      have hline : c ≠ '\n' := by rintro rfl; revert h; decide
      simp [value?, hline, ih]
    · rename_i h
      rw [not_or] at h
      simp [value?, h.1, h.2, ih]

/-- The characters of a key are key characters. -/
theorem IsKey.all {key : String} (h : IsKey key) : ∀ c ∈ key.toList, isKeyChar c = true := by
  intro c hc
  obtain ⟨hblank, hcolon, hquote⟩ := h.2 c hc
  simp [isKeyChar, hblank, hcolon, hquote]

/-- A pair at the front of a tag is found. -/
theorem pairsFrom_writePair (fuel : Nat) {p : String × String} (h : IsKey p.1) (rest : List Char) :
    pairsFrom (fuel + 1) (writePair p ++ rest) =
      (p.1.toList, escape p.2.toList) :: pairsFrom fuel rest := by
  obtain ⟨c, cs, hcs⟩ := List.exists_cons_of_ne_nil h.1
  have hall := h.all
  rw [hcs, List.forall_mem_cons] at hall
  have hcolon : isKeyChar ':' = false := by decide
  have htake : (cs ++ ':' :: '"' :: (escape p.2.toList ++ '"' :: rest)).takeWhile isKeyChar = cs := by
    rw [List.takeWhile_append_of_pos hall.2, List.takeWhile_cons_of_neg (by simp [hcolon]),
      List.append_nil]
  have hdrop : (cs ++ ':' :: '"' :: (escape p.2.toList ++ '"' :: rest)).dropWhile isKeyChar =
      ':' :: '"' :: (escape p.2.toList ++ '"' :: rest) := by
    rw [List.dropWhile_append_of_pos hall.2, List.dropWhile_cons_of_neg (by simp [hcolon])]
  have hpair : writePair p ++ rest =
      c :: (cs ++ ':' :: '"' :: (escape p.2.toList ++ '"' :: rest)) := by
    simp [writePair, hcs]
  rw [hpair, pairsFrom, if_pos hall.1]
  dsimp only
  rw [htake, hdrop, valueAfterKey?, value?_escape, hcs]

/-- The blank between two pairs is passed over. -/
theorem pairsFrom_blank (fuel : Nat) (cs : List Char) :
    pairsFrom (fuel + 1) (' ' :: cs) = pairsFrom fuel cs := by
  have hblank : ¬isKeyChar ' ' = true := by decide
  rw [pairsFrom, if_neg hblank]

/-- The pairs of a tag are those that were written, with escaped values. -/
theorem pairsFrom_intercalate {ps : List (String × String)} (hkeys : ∀ p ∈ ps, IsKey p.1)
    {fuel : Nat} (hfuel : (Text.intercalate [' '] (ps.map writePair)).length ≤ fuel) :
    pairsFrom fuel (Text.intercalate [' '] (ps.map writePair)) =
      ps.map fun p => (p.1.toList, escape p.2.toList) := by
  induction ps generalizing fuel with
  | nil => cases fuel <;> rfl
  | cons p ps ih =>
    obtain ⟨hp, hps⟩ := List.forall_mem_cons.1 hkeys
    have hlength : 2 ≤ (writePair p).length := by simp [writePair]; omega
    cases ps with
    | nil =>
      simp only [List.map_cons, List.map_nil, Text.intercalate] at hfuel ⊢
      obtain ⟨fuel, rfl⟩ := Nat.exists_eq_add_one_of_ne_zero (by omega : fuel ≠ 0)
      have hpair := pairsFrom_writePair fuel hp []
      rw [List.append_nil] at hpair
      rw [hpair]
      cases fuel <;> rfl
    | cons q qs =>
      rw [List.map_cons] at ih
      simp only [List.map_cons, Text.intercalate, List.append_assoc, List.singleton_append,
        List.length_append, List.length_cons] at hfuel ⊢
      obtain ⟨fuel, rfl⟩ := Nat.exists_eq_add_of_le (by omega : 2 ≤ fuel)
      rw [Nat.add_comm, pairsFrom_writePair _ hp, pairsFrom_blank,
        ih hps (by omega)]
      rfl

/-- The pairs of a tag are those that were written, with escaped values. -/
theorem pairs_write {ps : List (String × String)} (hkeys : ∀ p ∈ ps, IsKey p.1) :
    pairs (write ps).toList = ps.map fun p => (p.1.toList, escape p.2.toList) := by
  rw [pairs, write, String.toList_ofList]
  exact pairsFrom_intercalate hkeys (Nat.le_refl _)

/-- Looking for a key among escaped pairs. -/
theorem lookup_escape (ps : List (String × String)) (key : String) :
    (ps.map fun p => (p.1.toList, escape p.2.toList)).lookup key.toList =
      (ps.lookup key).map fun v => escape v.toList := by
  induction ps with
  | nil => rfl
  | cons p ps ih =>
    obtain ⟨k, v⟩ := p
    by_cases hk : key = k
    · subst hk
      simp
    · have hlist : key.toList ≠ k.toList := fun h => hk (String.toList_inj.1 h)
      simp [List.lookup_cons, beq_eq_false_iff_ne.2 hk, beq_eq_false_iff_ne.2 hlist, ih]

/-- A key that was written has the value of its first pair, and no other key has one. -/
theorem lookup_write {ps : List (String × String)} (hkeys : ∀ p ∈ ps, IsKey p.1) (key : String) :
    lookup (write ps) key = ps.lookup key := by
  rw [lookup, pairs_write hkeys, lookup_escape, Option.map_map]
  have hvalue : ((fun v => String.ofList (unescape v)) ∘ fun v : String => escape v.toList) = id := by
    funext v
    simp only [Function.comp, unescape_escape, String.ofList_toList, id]
  rw [hvalue, Option.map_id, id]

/-- What was written as the tag of a member is read back: a key has the value of its first pair, and
a key that was not written has none. Both literals of the tag stand for it, so that they give the
same values. -/
theorem tagLookup_write {ps : List (String × String)} (hkeys : ∀ p ∈ ps, IsKey p.1) :
    let tag := write ps
    (∀ (m : Member) (key : String), m.tag = some tag → m.tagLookup key = ps.lookup key) ∧
      unquote (interpreted tag) = tag ∧ unquote (raw tag) = tag ∧
      ∀ (m m' : Member) (key : String), m.tag = some (unquote (interpreted tag)) →
        m'.tag = some (unquote (raw tag)) → m.tagLookup key = m'.tagLookup key := by
  intro tag
  refine ⟨fun m key hm => ?_, unquote_interpreted tag, unquote_raw tag, fun m m' key hm hm' => ?_⟩
  · rw [Member.tagLookup, hm, Option.bind_some]
    exact lookup_write hkeys key
  · rw [Member.tagLookup, Member.tagLookup, hm, hm', unquote_interpreted, unquote_raw]

/-- A value that looks like a pair is no pair, and a backslash before a quote comes back. -/
theorem tagLookup_write_nested :
    let ps := [("json", "a\\\""), ("note", " x:\"y\" "), ("json", "b")]
    let m : Member := { name := "F", typeName := "T", tag := some (write ps) }
    (∀ p ∈ ps, IsKey p.1) ∧
      write ps = "json:\"a\\\\\\\"\" note:\" x:\\\"y\\\" \" json:\"b\"" ∧
      m.tagLookup "json" = some "a\\\"" ∧ m.tagLookup "note" = some " x:\"y\" " ∧
      m.tagLookup "x" = none ∧ unquote (interpreted (write ps)) = write ps := by
  intro ps m
  have hkeys : ∀ p ∈ ps, IsKey p.1 := by decide +kernel
  obtain ⟨hlookup, hinterpreted, -, -⟩ := tagLookup_write hkeys
  refine ⟨hkeys, by decide +kernel, ?_, ?_, ?_, hinterpreted⟩
  · exact (hlookup m "json" rfl).trans (by decide +kernel)
  · exact (hlookup m "note" rfl).trans (by decide +kernel)
  · exact (hlookup m "x" rfl).trans (by decide +kernel)

end TypeWeave.Go.Tag
