import TypeWeave.Formatter
import TypeWeave.Proofs.Except
import TypeWeave.Proofs.Go.Marked
import TypeWeave.Proofs.Text.Lines

/-!
# Numbered listings of refused sources

A refused source is told with its lines behind their numbers. The lines are those of the wide rule,
while Go counts rows by newlines alone. A number is that of a row, and the text behind it is the row,
for every number exactly when the source has no character that ends lines but newlines. Main
statements: `getElem?_wideLines_iff` and `message_format_tells`.
-/

namespace TypeWeave.Failure

open Go (Place)
open Go.Marker (LineAt)
open Text (isLineEnd wideLines)

variable {source line first rest : List Char} {k : Nat}

/-- The row of the place behind some text, as Go counts rows. -/
def rowBehind (before : List Char) : Nat := (before.foldl Place.after {}).row

/-- A row of a source: its number from zero and its text. The end behind a last newline is none. -/
def IsRow (source : List Char) (k : Nat) (line : List Char) : Prop :=
  ∃ before after, LineAt source before line after ∧ rowBehind before = k ∧ line ++ after ≠ []

/-- Every newline starts a row, and nothing else does. -/
theorem rowBehind_eq (before : List Char) : rowBehind before = before.count '\n' := by
  have hfold (p : Place) : (before.foldl Place.after p).row = p.row + before.count '\n' := by
    induction before generalizing p with
    | nil => rfl
    | cons c before ih =>
      rw [List.foldl_cons, ih, Place.after, List.count_cons]
      split <;> simp
      omega
  exact (hfold {}).trans (Nat.zero_add _)

theorem isRow_of_not_mem (h : '\n' ∉ source) :
    IsRow source k line ↔ k = 0 ∧ line = source ∧ source ≠ [] := by
  unfold IsRow
  simp only [Go.Marker.lineAt_iff_of_not_mem h]
  constructor
  · rintro ⟨_, _, ⟨rfl, rfl, rfl⟩, rfl, hne⟩
    exact ⟨rfl, rfl, by simpa using hne⟩
  · rintro ⟨rfl, rfl, hne⟩
    exact ⟨[], [], ⟨rfl, rfl, rfl⟩, rfl, by simpa using hne⟩

theorem isRow_append_iff (hfirst : '\n' ∉ first) : IsRow (first ++ '\n' :: rest) k line ↔
    k = 0 ∧ line = first ∨ ∃ j, k = j + 1 ∧ IsRow rest j line := by
  have hcount (before : List Char) :
      rowBehind (first ++ '\n' :: before) = rowBehind before + 1 := by
    simp [rowBehind_eq, List.count_eq_zero.2 hfirst]
  unfold IsRow
  simp only [Go.Marker.lineAt_append_iff hfirst]
  constructor
  · rintro ⟨_, after, ⟨rfl, rfl, rfl⟩ | ⟨before, rfl, hline⟩, rfl, hne⟩
    · exact Or.inl ⟨rfl, rfl⟩
    · exact Or.inr ⟨_, hcount before, before, after, hline, rfl, hne⟩
  · rintro (⟨rfl, rfl⟩ | ⟨_, rfl, before, after, hline, rfl, hne⟩)
    · exact ⟨[], '\n' :: rest, Or.inl ⟨rfl, rfl, rfl⟩, rfl, by simp⟩
    · exact ⟨_, after, Or.inr ⟨before, rfl, hline⟩, hcount before, hne⟩

/-- Without other characters that end lines, the lines of the wide rule are the rows. -/
theorem getElem?_wideLines_iff (h : ∀ c ∈ source, isLineEnd c = true → c = '\n') :
    (wideLines source)[k]? = some line ↔ IsRow source k line := by
  induction hn : source.length using Nat.strongRecOn generalizing source k with
  | ind n ih =>
    have hinner {cs : List Char} (hcs : ∀ c ∈ cs, c ∈ source) (hnewline : '\n' ∉ cs) :
        ∀ c ∈ cs, isLineEnd c = false := fun c hc => by
      rw [Bool.eq_false_iff]
      exact fun hend => hnewline (h c (hcs c hc) hend ▸ hc)
    by_cases hnewline : '\n' ∈ source
    · obtain ⟨first, rest, rfl, hfirst⟩ := List.eq_append_cons_of_mem hnewline
      rw [isRow_append_iff hfirst, Text.wideLines_append_newline,
        Text.wideLines_inner_newline (hinner (by simp +contextual) hfirst)]
      cases k with
      | zero => simp [eq_comm]
      | succ k =>
        have hrest := ih rest.length (by simp at hn; omega) (k := k)
          (fun c hc => h c (by simp [hc])) rfl
        simp [hrest]
    · rw [isRow_of_not_mem hnewline]
      by_cases hne : source = []
      · simp [hne]
      · rw [Text.wideLines_of_inner hne (hinner (fun _ => id) hnewline)]
        cases k <;> simp [hne, eq_comm]

/-- Every character but the newlines is in a row. -/
theorem exists_isRow_of_mem {c : Char} (hc : c ∈ source) (hne : c ≠ '\n') :
    ∃ k line, IsRow source k line ∧ c ∈ line := by
  induction hn : source.length using Nat.strongRecOn generalizing source with
  | ind n ih =>
    by_cases hnewline : '\n' ∈ source
    · obtain ⟨first, rest, rfl, hfirst⟩ := List.eq_append_cons_of_mem hnewline
      simp only [List.mem_append, List.mem_cons, hne, false_or] at hc
      rcases hc with hc | hc
      · exact ⟨0, first, (isRow_append_iff hfirst).2 (Or.inl ⟨rfl, rfl⟩), hc⟩
      · obtain ⟨k, line, hrow, hline⟩ := ih rest.length (by simp at hn; omega) hc rfl
        exact ⟨k + 1, line, (isRow_append_iff hfirst).2 (Or.inr ⟨k, rfl, hrow⟩), hline⟩
    · exact ⟨0, source, (isRow_of_not_mem hnewline).2 ⟨rfl, rfl, List.ne_nil_of_mem hc⟩, hc⟩

/-- The lines of the wide rule are the rows exactly when no other character ends lines. -/
theorem wideLines_are_rows_iff (source : List Char) :
    (∀ k line, (wideLines source)[k]? = some line ↔ IsRow source k line) ↔
      ∀ c ∈ source, isLineEnd c = true → c = '\n' := by
  refine ⟨fun h c hc hend => ?_, fun h k line => getElem?_wideLines_iff h⟩
  by_contra hne
  obtain ⟨k, line, hrow, hline⟩ := exists_isRow_of_mem hc hne
  have hmem := List.mem_of_getElem? ((h k line).2 hrow)
  rw [Text.isLineEnd_of_mem_wideLines hmem hline] at hend
  cases hend

/-- The lines in front of a row are those of the text in front of it. -/
theorem wideLines_of_lineAt {before after : List Char} (h : LineAt source before line after) :
    wideLines source = wideLines before ++ wideLines (line ++ after) := by
  rcases h.starts with rfl | hlast
  · rw [h.eq]
    rfl
  · obtain ⟨cs, rfl⟩ := List.getLast?_eq_some_iff.1 hlast
    rw [h.eq, List.append_assoc, List.singleton_append, Text.wideLines_append_newline]

/-- A line behind its number, which counts from one. -/
def listed (k : Nat) (line : List Char) : String :=
  String.ofList (Text.padLeft 4 ' ' (toString (k + 1)).toList ++ [' ', ' '] ++ line)

/-- A refused source is told with the diagnostic and then with its lines, each behind its number. A
row starts at the number behind those of the lines in front of it, and this is never less than the
number of the row. Each number has the text of its row exactly when only newlines end lines. -/
theorem message_format_tells (source diagnostic : String) :
    let shown := wideLines source.toList
    (Failure.format source diagnostic).message =
        "formatting generated source failed: " ++ diagnostic ++ "\n" ++
          "\n".intercalate (shown.mapIdx listed) ∧
      (∀ line ∈ shown, ∀ c ∈ line, isLineEnd c = false) ∧
      (∀ before line after, LineAt source.toList before line after →
        shown = wideLines before ++ wideLines (line ++ after) ∧
          rowBehind before ≤ (wideLines before).length) ∧
      ((∀ k line, shown[k]? = some line ↔ IsRow source.toList k line) ↔
        ∀ c ∈ source.toList, isLineEnd c = true → c = '\n') :=
  ⟨rfl, fun _ hline _ => Text.isLineEnd_of_mem_wideLines hline,
    fun before _ _ h => ⟨wideLines_of_lineAt h, rowBehind_eq before ▸ Text.count_newline_le before⟩,
    wideLines_are_rows_iff _⟩

/-- A source with a line separator in a comment, and a flaw in the row behind it. -/
def separated : String := "package p\n\n// one\u2028two\nfunc \x7b\n"

/-- The number of the row with the flaw has the end of the comment behind it. -/
theorem numbered_separated :
    (numbered separated)[3]? = some "   4  two" ∧
      IsRow separated.toList 3 "func \x7b".toList ∧
      ∃ diagnostic, Formatter.check separated = .error (.format separated diagnostic) := by
  refine ⟨by decide, ⟨"package p\n\n// one\u2028two\n".toList, ['\n'], ?_, by decide, by decide⟩, ?_⟩
  · exact ⟨by decide, by decide, by decide, by decide⟩
  · exact ⟨"<generated>:4:1: syntax error", by decide +kernel⟩

end TypeWeave.Failure
