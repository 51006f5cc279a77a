import TypeWeave.Proofs.Except
import TypeWeave.Proofs.Text.LetterCase
import TypeWeave.Proofs.Text.Search
import TypeWeave.Template.Filter.Table
import Mathlib.Data.List.TakeWhile

/-!
# Names between snake case and camel case

The two substitutions behind snake case, of which the first takes whole words and the second pairs of
characters, come to one rule that looks at each place of a name alone. From this rule: the words of a
snake-case name survive camel case, and the underscores of a name are doubled exactly where one stands
in front of a capitalized word. Main statements: `splitBeforeCapital_splitCapitalized`,
`camelcase_snakecase` and `isDoubled_snakecase_iff`.
-/

namespace TypeWeave.Template.NameCase

open Text (IsDoubled isDoubled_cons_iff)

variable {c d : Char} {cs ds rest small : List Char}

theorem isCapital_iff : isCapital c = true ↔ 65 ≤ c.toNat ∧ c.toNat ≤ 90 := by
  simp only [isCapital, Bool.and_eq_true, decide_eq_true_eq]
  rfl

theorem isSmall_iff : isSmall c = true ↔ 97 ≤ c.toNat ∧ c.toNat ≤ 122 := by
  simp only [isSmall, Bool.and_eq_true, decide_eq_true_eq]
  rfl

theorem endsWord_iff :
    endsWord c = true ↔ isSmall c = true ∨ 48 ≤ c.toNat ∧ c.toNat ≤ 57 := by
  simp only [endsWord, Bool.or_eq_true, Bool.and_eq_true, decide_eq_true_eq]
  rfl

theorem endsWord_of_isSmall (h : isSmall c = true) : endsWord c = true := endsWord_iff.2 (Or.inl h)

theorem isCapital_of_endsWord (h : endsWord c = true) : isCapital c = false := by
  rw [Bool.eq_false_iff, ne_eq, isCapital_iff]
  rw [endsWord_iff, isSmall_iff] at h
  omega

theorem endsWord_of_isCapital (h : isCapital c = true) : endsWord c = false := by
  rw [Bool.eq_false_iff]
  intro hends
  rw [isCapital_of_endsWord hends] at h
  cases h

@[simp] theorem isCapital_underscore : isCapital '_' = false := rfl

@[simp] theorem endsWord_underscore : endsWord '_' = false := rfl

/-- Whether an underscore is put between a character and the text behind it: the text starts with a
capital, and the character ends a word or a small letter follows the capital. -/
def isBoundary (c : Char) : List Char → Bool
  | [] => false
  | d :: rest => isCapital d && (endsWord c || (c != '\n' && rest.head?.any isSmall))

/-- An underscore at every boundary of a text. -/
def parted : List Char → List Char
  | [] => []
  | c :: cs => if isBoundary c cs then c :: '_' :: parted cs else c :: parted cs

theorem head?_splitCapitalized (fuel : Nat) (cs : List Char) :
    (splitCapitalized fuel cs).head? = cs.head? := by
  fun_cases splitCapitalized fuel cs <;> simp_all

theorem splitBeforeCapital_cons (c : Char) (cs : List Char) : splitBeforeCapital (c :: cs) =
    if endsWord c && cs.head?.any isCapital then c :: '_' :: splitBeforeCapital cs
    else c :: splitBeforeCapital cs := by
  cases cs with
  | nil => simp [splitBeforeCapital]
  | cons d ds => rfl

/-- Behind the end of a word a boundary is told from one character. -/
theorem isBoundary_of_endsWord (h : endsWord c = true) (cs : List Char) :
    isBoundary c cs = cs.head?.any isCapital := by
  cases cs with
  | nil => rfl
  | cons d ds => simp [isBoundary, h]

/-- The first substitution leaves a small letter with the same boundary behind it. -/
theorem splitBeforeCapital_append (hsmall : ∀ c ∈ small, isSmall c = true)
    (hhead : ds.head? = cs.head?) (h : splitBeforeCapital ds = parted cs) :
    splitBeforeCapital (small ++ ds) = parted (small ++ cs) := by
  induction small with
  | nil => exact h
  | cons c small ih =>
    obtain ⟨hc, hsmall⟩ := List.forall_mem_cons.1 hsmall
    have hends := endsWord_of_isSmall hc
    have hnext : (small ++ ds).head? = (small ++ cs).head? := by
      simp only [List.head?_append, hhead]
    rw [List.cons_append, List.cons_append, splitBeforeCapital_cons, parted, ih hsmall,
      isBoundary_of_endsWord hends, hends, Bool.true_and, hnext]

/-- The second substitution passes over what the first one has matched, up to its small letters. -/
theorem splitBeforeCapital_matched (hd : isCapital d = true) (c : Char) (ds : List Char) :
    splitBeforeCapital (c :: '_' :: d :: ds) = c :: '_' :: d :: splitBeforeCapital ds := by
  have hends := endsWord_of_isCapital hd
  simp [splitBeforeCapital_cons, hends]

/-- In front of a capital with a small letter behind it is a boundary, except at a line end, and none
is behind it. -/
theorem parted_matched (hc : c ≠ '\n') (hd : isCapital d = true)
    (hrest : rest.head?.any isSmall = true) :
    parted (c :: d :: rest) = c :: '_' :: d :: parted rest := by
  have hfirst : isBoundary c (d :: rest) = true := by simp [isBoundary, hc, hd, hrest]
  have hsecond : isBoundary d rest = false := by
    cases rest with
    | nil => rfl
    | cons s rest =>
      have hs := isCapital_of_endsWord (endsWord_of_isSmall hrest)
      simp [isBoundary, hs]
  rw [parted, if_pos hfirst, parted, hsecond, if_neg Bool.false_ne_true]

theorem isEmpty_takeWhile_isSmall (cs : List Char) :
    (cs.takeWhile isSmall).isEmpty = !cs.head?.any isSmall := by
  cases cs with
  | nil => rfl
  | cons c cs => cases h : isSmall c <;> simp [h]

/-- Where the first substitution has put no underscore, the second one puts it at each boundary. -/
theorem splitBeforeCapital_splitCapitalized {fuel : Nat} (h : cs.length ≤ fuel) :
    splitBeforeCapital (splitCapitalized fuel cs) = parted cs := by
  fun_induction splitCapitalized fuel cs with
  | case1 cs =>
    obtain rfl := List.length_eq_zero_iff.1 (Nat.le_zero.1 h)
    rfl
  | case2 fuel c d rest small hmatch ih =>
    simp only [small, isEmpty_takeWhile_isSmall, Bool.not_not, Bool.and_eq_true, bne_iff_ne]
      at hmatch
    obtain ⟨⟨hc, hd⟩, hrest⟩ := hmatch
    have hlength := (List.dropWhile_suffix (l := rest) isSmall).length_le
    simp only [List.length_cons] at h
    rw [List.cons_append, List.cons_append, List.cons_append, splitBeforeCapital_matched hd,
      parted_matched hc hd hrest,
      splitBeforeCapital_append (fun _ => List.mem_takeWhile_imp) (head?_splitCapitalized _ _)
        (ih (by omega)), List.takeWhile_append_dropWhile]
  | case3 fuel c d rest small hmatch ih =>
    have hboundary : isBoundary c (d :: rest) = (endsWord c && isCapital d) := by
      simp only [small, isEmpty_takeWhile_isSmall, Bool.not_not] at hmatch
      cases hd : isCapital d <;> simp_all [isBoundary]
    rw [splitBeforeCapital_cons, ih (by simpa using h), head?_splitCapitalized,
      parted.eq_2 c (d :: rest), hboundary]
    rfl
  | case4 fuel cs hfuel hcons =>
    obtain ⟨fuel, rfl⟩ := Nat.exists_eq_succ_of_ne_zero hfuel
    rcases cs with _ | ⟨c, _ | ⟨d, rest⟩⟩
    · rfl
    · rfl
    · exact (hcons fuel c d rest rfl rfl).elim

/-- Snake case is an underscore at every boundary, in lower case. -/
theorem snake_eq (cs : List Char) : snake cs = Text.lower (parted cs) :=
  congrArg Text.lower (splitBeforeCapital_splitCapitalized (Nat.le_refl _))

/-- A boundary stands behind an underscore when a capitalized word does. -/
theorem isBoundary_underscore_iff : isBoundary '_' cs = true ↔
    ∃ d s, isCapital d = true ∧ isSmall s = true ∧ [d, s] <+: cs := by
  match cs with
  | [] => simp [isBoundary]
  | [d] => simp [isBoundary]
  | d :: s :: rest => simp [isBoundary, List.cons_prefix_cons]

/-- A text in which a capitalized word stands behind an underscore. -/
def HasPartedWord (cs : List Char) : Prop :=
  ∃ d s, isCapital d = true ∧ isSmall s = true ∧ ['_', d, s] <:+: cs

theorem hasPartedWord_cons_iff :
    HasPartedWord (c :: cs) ↔ c = '_' ∧ isBoundary '_' cs = true ∨ HasPartedWord cs := by
  simp only [HasPartedWord, isBoundary_underscore_iff, List.infix_cons_iff, List.cons_prefix_cons]
  constructor
  · rintro ⟨d, s, hd, hs, ⟨rfl, h⟩ | h⟩
    · exact Or.inl ⟨rfl, d, s, hd, hs, h⟩
    · exact Or.inr ⟨d, s, hd, hs, h⟩
  · rintro (⟨rfl, d, s, hd, hs, h⟩ | ⟨d, s, hd, hs, h⟩)
    · exact ⟨d, s, hd, hs, Or.inl ⟨rfl, h⟩⟩
    · exact ⟨d, s, hd, hs, Or.inr h⟩

theorem head?_parted (cs : List Char) : (parted cs).head? = cs.head? := by
  cases cs with
  | nil => rfl
  | cons c cs => rw [parted]; split <;> rfl

/-- A boundary is in front of a capital, so the underscore there is not in front of another one. -/
theorem head?_ne_underscore_of_isBoundary (h : isBoundary c cs = true) : cs.head? ≠ some '_' := by
  cases cs with
  | nil => simp
  | cons d rest =>
    rintro ⟨rfl⟩
    simp [isBoundary] at h

/-- Two underscores stand in a row where they stood before, and where a boundary follows one. -/
theorem isDoubled_parted_iff : IsDoubled (parted cs) ↔ IsDoubled cs ∨ HasPartedWord cs := by
  induction cs with
  | nil => simp [parted, HasPartedWord]
  | cons c cs ih =>
    rw [hasPartedWord_cons_iff, isDoubled_cons_iff, parted]
    split
    · rename_i hboundary
      have hhead := head?_ne_underscore_of_isBoundary hboundary
      rw [isDoubled_cons_iff, isDoubled_cons_iff, head?_parted, ih]
      by_cases hc : c = '_'
      · subst hc
        simp [hboundary]
      · simp [hc, hhead]
    · rename_i hboundary
      rw [isDoubled_cons_iff, head?_parted, ih]
      by_cases hc : c = '_'
      · subst hc
        simp only [hboundary]
        tauto
      · simp [hc]

/-- Snake case has two underscores in a row exactly when the name has, or has one in front of a
capitalized word. -/
theorem isDoubled_snake_iff (cs : List Char) :
    IsDoubled (snake cs) ↔ IsDoubled cs ∨ HasPartedWord cs := by
  rw [snake_eq, Text.isDoubled_lower_iff, isDoubled_parted_iff]

/-- A word of a snake-case name: a small letter, then at least one small letter or digit. -/
structure Word where
  first : Char
  others : List Char
  isSmall_first : isSmall first = true
  others_ne_nil : others ≠ []
  endsWord_of_mem : ∀ c ∈ others, endsWord c = true

/-- Small letters, digits and capitals are ASCII. -/
theorem ascii_of_endsWord (h : endsWord c = true) : c.toNat < 128 := by
  rw [endsWord_iff, isSmall_iff] at h
  omega

theorem toLower_of_endsWord (h : endsWord c = true) : c.toLower = c :=
  Text.forall_ascii (P := fun c => endsWord c = true → c.toLower = c) (by decide)
    (ascii_of_endsWord h) h

/-- A small letter has a capital, of which it is the lower form. -/
theorem toUpper_of_isSmall (h : isSmall c = true) :
    isCapital c.toUpper = true ∧ c.toUpper.toLower = c :=
  Text.forall_ascii
    (P := fun c => isSmall c = true → isCapital c.toUpper = true ∧ c.toUpper.toLower = c)
    (by decide) (ascii_of_endsWord (endsWord_of_isSmall h)) h

namespace Word

variable (w : Word)

/-- The characters of a word. -/
def chars : List Char := w.first :: w.others

/-- The characters of a word with the first one in upper case. -/
def capitalized : List Char := w.first.toUpper :: w.others

theorem endsWord_of_mem_chars (hc : c ∈ w.chars) : endsWord c = true := by
  rcases List.mem_cons.1 hc with rfl | hc
  · exact endsWord_of_isSmall w.isSmall_first
  · exact w.endsWord_of_mem c hc

theorem underscore_not_mem_chars : '_' ∉ w.chars := fun h =>
  absurd (w.endsWord_of_mem_chars h) (by simp)

theorem isCapital_toUpper_first : isCapital w.first.toUpper = true :=
  (toUpper_of_isSmall w.isSmall_first).1

theorem upperFirst_chars : upperFirst w.chars = w.capitalized := by
  rw [chars, upperFirst, Text.upperChar,
    if_pos (ascii_of_endsWord (endsWord_of_isSmall w.isSmall_first))]
  rfl

theorem map_toLower_capitalized : w.capitalized.map Char.toLower = w.chars := by
  rw [capitalized, List.map_cons, (toUpper_of_isSmall w.isSmall_first).2, chars,
    List.map_congr_left fun c hc => toLower_of_endsWord (w.endsWord_of_mem c hc), List.map_id']

theorem ascii_of_mem_capitalized (hc : c ∈ w.capitalized) : c.toNat < 128 := by
  rcases List.mem_cons.1 hc with rfl | hc
  · have := isCapital_iff.1 w.isCapital_toUpper_first
    omega
  · exact ascii_of_endsWord (w.endsWord_of_mem c hc)

end Word

/-- The snake-case name of some words. -/
def joined (words : List Word) : List Char := Text.intercalate ['_'] (words.map Word.chars)

/-- The camel-case name of some words. -/
def capitalized (words : List Word) : List Char := words.flatMap Word.capitalized

/-- Camel case capitalizes the words and leaves out the underscores. -/
theorem camel_joined (words : List Word) : camel (joined words) = capitalized words := by
  have hwords : (Text.splitOn ['_'] (joined words)).filter (!·.isEmpty) = words.map Word.chars := by
    cases words with
    | nil => rfl
    | cons w words =>
      rw [joined, Text.splitOn_intercalate (by simp) (by simp [Word.underscore_not_mem_chars]),
        List.filter_eq_self]
      simp [Word.chars]
  rw [camel, hwords, List.flatMap_map]
  simp only [Word.upperFirst_chars]
  rfl

/-- A text without capitals has no boundaries. -/
theorem parted_of_not_isCapital (h : ∀ c ∈ cs, isCapital c = false) : parted cs = cs := by
  induction cs with
  | nil => rfl
  | cons c cs ih =>
    obtain ⟨-, hcs⟩ := List.forall_mem_cons.1 h
    have hnone : isBoundary c cs = false := by
      cases cs with
      | nil => rfl
      | cons d ds => rw [isBoundary, hcs d List.mem_cons_self, Bool.false_and]
    rw [parted, hnone, if_neg Bool.false_ne_true, ih hcs]

/-- No boundary is among small letters and digits. -/
theorem parted_of_endsWord (h : ∀ c ∈ cs, endsWord c = true) : parted cs = cs :=
  parted_of_not_isCapital fun c hc => isCapital_of_endsWord (h c hc)

/-- The boundary behind small letters and digits is in front of the next capital. -/
theorem parted_append_of_endsWord (hne : cs ≠ []) (h : ∀ c ∈ cs, endsWord c = true)
    (hd : isCapital d = true) : parted (cs ++ d :: ds) = cs ++ '_' :: parted (d :: ds) := by
  induction cs with
  | nil => contradiction
  | cons c cs ih =>
    obtain ⟨hc, hcs⟩ := List.forall_mem_cons.1 h
    rw [List.cons_append, List.cons_append, parted, isBoundary_of_endsWord hc]
    cases cs with
    | nil => simp [hd]
    | cons e cs =>
      have he : isCapital e = false := isCapital_of_endsWord (hcs e List.mem_cons_self)
      rw [ih (List.cons_ne_nil e cs) hcs]
      simp [he]

/-- A boundary is not inside a capitalized word. -/
theorem parted_capitalized_append (w : Word) (ds : List Char) :
    parted (w.capitalized ++ ds) = w.first.toUpper :: parted (w.others ++ ds) := by
  obtain ⟨e, es, he⟩ := List.exists_cons_of_ne_nil w.others_ne_nil
  have hnone : isBoundary w.first.toUpper (w.others ++ ds) = false := by
    have hcapital := isCapital_of_endsWord (w.endsWord_of_mem e (he ▸ List.mem_cons_self))
    simp [he, isBoundary, hcapital]
  rw [Word.capitalized, List.cons_append, parted, hnone, if_neg Bool.false_ne_true]

/-- The boundaries of a camel-case name are those between its words. -/
theorem parted_capitalized (words : List Word) :
    parted (capitalized words) = Text.intercalate ['_'] (words.map Word.capitalized) := by
  induction words with
  | nil => rfl
  | cons w words ih =>
    rw [capitalized, List.flatMap_cons, parted_capitalized_append]
    cases words with
    | nil =>
      rw [List.flatMap_nil, List.append_nil, parted_of_endsWord w.endsWord_of_mem]
      rfl
    | cons v words =>
      have hnext : (v :: words).flatMap Word.capitalized =
          v.first.toUpper :: (v.others ++ words.flatMap Word.capitalized) := rfl
      rw [hnext, parted_append_of_endsWord w.others_ne_nil w.endsWord_of_mem
        v.isCapital_toUpper_first, ← hnext, ← capitalized, ih]
      simp [Text.intercalate, Word.capitalized]

/-- Snake case tells the words of a camel-case name apart again. -/
theorem snake_capitalized (words : List Word) : snake (capitalized words) = joined words := by
  have hascii : ∀ c ∈ Text.intercalate ['_'] (words.map Word.capitalized), c.toNat < 128 := by
    intro c hc
    by_cases hunderscore : c = '_'
    · rw [hunderscore]
      decide
    · obtain ⟨p, hp, hcp⟩ := (Text.mem_intercalate (by simpa using hunderscore) _).1 hc
      obtain ⟨w, -, rfl⟩ := List.mem_map.1 hp
      exact w.ascii_of_mem_capitalized hcp
  rw [snake_eq, parted_capitalized, Text.lower_of_ascii hascii, Text.map_intercalate, joined,
    List.map_map]
  congr 1
  exact List.map_congr_left fun w _ => w.map_toLower_capitalized

section Filters

variable (ev : Evaluator) (env : Env) (safe : Bool) (store : Store)

/-- A filter without arguments on a value. -/
def filtered (name : String) (v : Value) : Eval Value := Filter.applyNamed ev env name v ⟨[], []⟩

theorem run_camelcase (s : String) : (filtered ev env "camelcase" (.text s safe)).run store =
    .ok (.ofString (String.ofList (camel s.toList)), store) := rfl

theorem run_snakecase (s : String) : (filtered ev env "snakecase" (.text s safe)).run store =
    .ok (.ofString (String.ofList (snake s.toList)), store) := rfl

theorem run_camelcase_joined (words : List Word) :
    (filtered ev env "camelcase" (.text (String.ofList (joined words)) safe)).run store =
      .ok (.ofString (String.ofList (capitalized words)), store) := by
  rw [run_camelcase, String.toList_ofList, camel_joined]

theorem run_snakecase_capitalized (words : List Word) :
    (filtered ev env "snakecase" (.text (String.ofList (capitalized words)) safe)).run store =
      .ok (.ofString (String.ofList (joined words)), store) := by
  rw [run_snakecase, String.toList_ofList, snake_capitalized]

/-- Camel case loses nothing of a snake-case name of words of two or more characters: the snake case
of it is the name, and so the camel case of that is the same again. -/
theorem camelcase_snakecase (words : List Word) :
    let name : Value := .text (String.ofList (joined words)) safe
    let camelName : Value := .ofString (String.ofList (capitalized words))
    (filtered ev env "camelcase" name).run store = .ok (camelName, store) ∧
      (do filtered ev env "snakecase" (← filtered ev env "camelcase" name)).run store =
        .ok (.ofString (String.ofList (joined words)), store) ∧
      (do filtered ev env "camelcase" (← filtered ev env "snakecase" (←
        filtered ev env "camelcase" name))).run store = .ok (camelName, store) := by
  intro name camelName
  have hcamel := run_camelcase_joined ev env safe store words
  have hsnake := run_snakecase_capitalized ev env false store words
  have hagain := run_camelcase_joined ev env false store words
  refine ⟨hcamel, ?_, ?_⟩
  · rw [StateT.run_bind]
    exact Except.bind_eq_ok.2 ⟨_, hcamel, hsnake⟩
  · rw [StateT.run_bind]
    refine Except.bind_eq_ok.2 ⟨_, hcamel, ?_⟩
    rw [StateT.run_bind]
    exact Except.bind_eq_ok.2 ⟨_, hsnake, hagain⟩

/-- The `snakecase` filter answers for every text. Its answer has two underscores in a row exactly
when the text has, or has an underscore in front of a capitalized word. -/
theorem isDoubled_snakecase_iff (s : String) :
    ∃ answer : String,
      (filtered ev env "snakecase" (.text s safe)).run store = .ok (.ofString answer, store) ∧
        (IsDoubled answer.toList ↔ IsDoubled s.toList ∨ HasPartedWord s.toList) := by
  refine ⟨_, run_snakecase ev env safe store s, ?_⟩
  rw [String.toList_ofList, isDoubled_snake_iff]

end Filters

/-- A name with a single underscore, not at its start, gets two in a row. -/
theorem isDoubled_snakecase_partedWord :
    ¬ IsDoubled "foo_Bar".toList ∧ "foo_Bar".toList.head? ≠ some '_' ∧
      "foo_Bar".toList.all (·.toNat < 128) = true ∧
      ∃ answer : String,
        (∀ ev env safe (store : Store),
          (filtered ev env "snakecase" (.text "foo_Bar" safe)).run store =
            .ok (.ofString answer, store)) ∧
          answer = "foo__bar" ∧ IsDoubled answer.toList :=
  ⟨by decide, by decide, by decide, _, fun ev env safe store => run_snakecase ev env safe store _,
    by decide, by decide⟩

end TypeWeave.Template.NameCase
