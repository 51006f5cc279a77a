import TypeWeave.Proofs.Template.NameCase

/-!
# What snake case puts into a name

Snake case puts an underscore in front of each place where a word starts, which is a capital behind
another character, and lowers the rest. So the lower form of an ASCII name is what is left of its
snake case without these underscores, and a name without capitals is its own snake case. Main
statements: `parted_eq_underscored` and `snakecase_underscored`.
-/

namespace TypeWeave.Template.NameCase

variable {c : Char} {cs : List Char} {marked : Nat → Bool}

/-- A text with an underscore in front of each of its characters whose place is marked. -/
def underscored (marked : Nat → Bool) : List Char → List Char
  | [] => []
  | c :: cs => (if marked 0 then ['_', c] else [c]) ++ underscored (fun i => marked (i + 1)) cs

theorem mem_underscored (h : c ∈ underscored marked cs) : c = '_' ∨ c ∈ cs := by
  induction cs generalizing marked with
  | nil => cases h
  | cons d ds ih =>
    rcases List.mem_append.1 h with h | h
    · have hd : c = '_' ∨ c = d := by split at h <;> simp_all
      exact hd.imp_right fun hd => List.mem_cons.2 (Or.inl hd)
    · exact (ih h).imp_right (List.mem_cons_of_mem d)

/-- Characters are changed in a text with underscores like in the text without them. -/
theorem map_underscored {f : Char → Char} (hf : f '_' = '_') (marked : Nat → Bool)
    (cs : List Char) : (underscored marked cs).map f = underscored marked (cs.map f) := by
  induction cs generalizing marked with
  | nil => rfl
  | cons c cs ih =>
    rw [underscored, List.map_append, ih, List.map_cons, underscored]
    split <;> simp [hf]

/-- Whether a word starts at a place of a text: a boundary stands in front of it. -/
def isWordStart (cs : List Char) : Nat → Bool
  | 0 => false
  | i + 1 =>
    match cs.drop i with
    | [] => false
    | c :: rest => isBoundary c rest

/-- A word starts behind a character, at a capital that a small letter follows or that stands behind
a small letter or digit; behind a line end it is the latter only. -/
theorem isWordStart_iff {i : Nat} : isWordStart cs i = true ↔
    ∃ before c d after, cs = before ++ c :: d :: after ∧ i = before.length + 1 ∧
      isCapital d = true ∧ (endsWord c = true ∨ c ≠ '\n' ∧ after.head?.any isSmall = true) := by
  constructor
  · intro h
    cases i with
    | zero => cases h
    | succ i =>
      simp only [isWordStart] at h
      split at h
      · cases h
      · rename_i c rest hdrop
        cases rest with
        | nil => cases h
        | cons d after =>
          have hlength : i < cs.length := by
            by_contra hge
            rw [List.drop_eq_nil_of_le (Nat.le_of_not_lt hge)] at hdrop
            cases hdrop
          refine ⟨cs.take i, c, d, after, ?_, ?_, ?_⟩
          · rw [← hdrop, List.take_append_drop]
          · rw [List.length_take_of_le hlength.le]
          · simpa [isBoundary] using h
  · rintro ⟨before, c, d, after, rfl, rfl, hd, hc⟩
    simpa [isWordStart, isBoundary, hd] using hc

/-- A word starts at a capital that is not the first character. -/
theorem capital_of_isWordStart {i : Nat} (h : isWordStart cs i = true) :
    0 < i ∧ ∃ c, cs[i]? = some c ∧ isCapital c = true := by
  obtain ⟨before, c, d, after, rfl, rfl, hd, -⟩ := isWordStart_iff.1 h
  exact ⟨Nat.succ_pos _, d, by simp, hd⟩

/-- The boundaries of a text are in front of the places where words start. -/
theorem parted_eq_underscored (cs : List Char) :
    parted cs = underscored (isWordStart cs) cs := by
  have hcons (c : Char) (cs : List Char) :
      parted (c :: cs) = c :: underscored (fun i => isWordStart (c :: cs) (i + 1)) cs := by
    induction cs generalizing c with
    | nil => rfl
    | cons d ds ih =>
      rw [parted, ih d]
      change _ = c :: ((if isBoundary c (d :: ds) then ['_', d] else [d]) ++ _)
      split <;> rfl
  cases cs with
  | nil => rfl
  | cons c cs => exact hcons c cs

/-- The lower form of an ASCII character is one, no capital, and its own lower form. -/
theorem toLower_spec (hc : c.toNat < 128) :
    c.toLower.toNat < 128 ∧ isCapital c.toLower = false ∧ c.toLower.toLower = c.toLower :=
  Text.forall_ascii (P := fun c => c.toLower.toNat < 128 ∧ isCapital c.toLower = false ∧
    c.toLower.toLower = c.toLower) (by decide) hc

theorem isUpper_eq_isCapital (c : Char) : c.isUpper = isCapital c := by
  have hupper : c.isUpper = true ↔ 65 ≤ c.toNat ∧ c.toNat ≤ 90 := decide_eq_true_iff
  rw [Bool.eq_iff_iff, isCapital_iff, hupper]

section Ascii

variable (hascii : ∀ c ∈ cs, c.toNat < 128)
include hascii

/-- Snake case of ASCII text is its lower form with underscores where words start. -/
theorem snake_of_ascii : snake cs = underscored (isWordStart cs) (Text.lower cs) := by
  have hparted : ∀ c ∈ parted cs, c.toNat < 128 := by
    intro c hc
    rw [parted_eq_underscored] at hc
    rcases mem_underscored hc with rfl | hc
    · decide
    · exact hascii c hc
  rw [snake_eq, Text.lower_of_ascii hparted, parted_eq_underscored, map_underscored rfl,
    Text.lower_of_ascii hascii]

/-- Every character of the snake case of ASCII text is a lower form. -/
theorem exists_toLower_of_mem_snake (hc : c ∈ snake cs) :
    ∃ d : Char, d.toNat < 128 ∧ c = d.toLower := by
  rw [snake_of_ascii hascii, Text.lower_of_ascii hascii] at hc
  rcases mem_underscored hc with rfl | hc
  · exact ⟨'_', by decide, rfl⟩
  · obtain ⟨d, hd, rfl⟩ := List.mem_map.1 hc
    exact ⟨d, hascii d hd, rfl⟩

theorem isCapital_of_mem_snake (hc : c ∈ snake cs) : isCapital c = false := by
  obtain ⟨d, hd, rfl⟩ := exists_toLower_of_mem_snake hascii hc
  exact (toLower_spec hd).2.1

/-- Snake case leaves ASCII text in snake case as it is. -/
theorem snake_snake : snake (snake cs) = snake cs := by
  have hlower : ∀ c ∈ snake cs, c.toNat < 128 ∧ c.toLower = c := by
    intro c hc
    obtain ⟨d, hd, rfl⟩ := exists_toLower_of_mem_snake hascii hc
    exact ⟨(toLower_spec hd).1, (toLower_spec hd).2.2⟩
  rw [snake_eq (snake cs), parted_of_not_isCapital fun c hc => isCapital_of_mem_snake hascii hc,
    Text.lower_of_ascii fun c hc => (hlower c hc).1,
    List.map_congr_left fun c hc => (hlower c hc).2, List.map_id']

end Ascii

/-- The `snakecase` filter answers for every ASCII text with the lower form of it, to which nothing is
added but an underscore in front of each place where a word starts. Such a place is that of a capital
and not the first one. The answer has no capitals, and the filter leaves it as it is. -/
theorem snakecase_underscored (ev : Evaluator) (env : Env) (safe : Bool) (store : Store) {s : String}
    (hs : ∀ c ∈ s.toList, c.toNat < 128) :
    ∃ answer : String,
      (filtered ev env "snakecase" (.text s safe)).run store = .ok (.ofString answer, store) ∧
      answer.toList = underscored (isWordStart s.toList) (Text.lower s.toList) ∧
      (∀ i, isWordStart s.toList i = true →
        0 < i ∧ ∃ c, s.toList[i]? = some c ∧ c.isUpper = true) ∧
      (∀ c ∈ answer.toList, c.isUpper = false) ∧
      (filtered ev env "snakecase" (.ofString answer)).run store = .ok (.ofString answer, store) := by
  refine ⟨_, run_snakecase ev env safe store s, ?_, fun i hi => ?_, fun c hc => ?_, ?_⟩
  · rw [String.toList_ofList, snake_of_ascii hs]
  · obtain ⟨hpos, c, hget, hc⟩ := capital_of_isWordStart hi
    exact ⟨hpos, c, hget, isUpper_eq_isCapital c ▸ hc⟩
  · rw [String.toList_ofList] at hc
    rw [isUpper_eq_isCapital, isCapital_of_mem_snake hs hc]
  · have hrun := run_snakecase ev env false store (String.ofList (snake s.toList))
    rw [String.toList_ofList, snake_snake hs] at hrun
    exact hrun

/-- Words start behind small letters, digits, capitals and underscores, but not behind a line end. -/
theorem snakecase_underscored_mixed :
    (∀ c ∈ "x2HTTPServer_Log\nErr".toList, c.toNat < 128) ∧
    ∀ (ev : Evaluator) (env : Env) (store : Store), ∃ answer : String,
      (filtered ev env "snakecase" (.text "x2HTTPServer_Log\nErr" false)).run store =
        .ok (.ofString answer, store) ∧
      answer = "x2_http_server__log\nerr" ∧
      answer.toList = underscored (isWordStart "x2HTTPServer_Log\nErr".toList)
        (Text.lower "x2HTTPServer_Log\nErr".toList) ∧
      (∀ c ∈ answer.toList, c.isUpper = false) ∧
      (filtered ev env "snakecase" (.ofString answer)).run store = .ok (.ofString answer, store) := by
  have hs : ∀ c ∈ "x2HTTPServer_Log\nErr".toList, c.toNat < 128 := by simp
  refine ⟨hs, fun ev env store => ?_⟩
  obtain ⟨answer, hrun, hanswer, -, hupper, hagain⟩ :=
    snakecase_underscored ev env false store hs
  refine ⟨answer, hrun, ?_, hanswer, hupper, hagain⟩
  rw [← String.toList_inj, hanswer]
  decide

end TypeWeave.Template.NameCase
