import TypeWeave.Proofs.Go.Marked
import TypeWeave.Proofs.Text.LineEnd

/-!
# Marks of generated files and line ends

The mark of a generated file takes up its whole line. With a carriage return behind it a line is no
mark any more, while a line that starts the package clause still does. So all that is left of the
marks is the one on a last line that no line end follows. Main statements: `isGenerated_crlf` and
`isGenerated_crlf_eq_iff`.
-/

namespace TypeWeave.Go.Marker

open Text (crlf)

/-- Whether the last of some lines marks a generated file before the package clause. -/
def isMarkedLast : List (List Char) → Bool
  | [] => false
  | [line] => isMarker line
  | line :: rest => !startsPackage line true && isMarkedLast rest

/-- Whether a source says that it is generated in a last line without line end. -/
def isMarkedAtEnd (source : List Char) : Bool := isMarkedLast (Text.splitOn ['\n'] source)

section Lines

variable {line source : List Char}

theorem isMarkedAtEnd_of_not_mem (h : '\n' ∉ line) : isMarkedAtEnd line = isMarker line := by
  rw [isMarkedAtEnd, Text.splitOn_singleton_of_not_mem h, isMarkedLast]

theorem isMarkedAtEnd_append (h : '\n' ∉ line) (rest : List Char) :
    isMarkedAtEnd (line ++ '\n' :: rest) = (!startsPackage line true && isMarkedAtEnd rest) := by
  obtain ⟨first, lines, hlines⟩ := Text.exists_splitOn_eq_cons '\n' [] rest
  rw [isMarkedAtEnd, isMarkedAtEnd, Text.splitOn_singleton_append h, hlines, isMarkedLast]
  nofun

/-- What is said in the last line is said. -/
theorem isGenerated_of_isMarkedAtEnd (h : isMarkedAtEnd source = true) :
    isGenerated source = true := by
  induction hn : source.length using Nat.strongRecOn generalizing source with
  | ind n ih =>
    by_cases hnewline : '\n' ∈ source
    · obtain ⟨line, rest, rfl, hline⟩ := List.eq_append_cons_of_mem hnewline
      rw [isMarkedAtEnd_append hline, Bool.and_eq_true] at h
      have hrest := ih rest.length (by rw [← hn]; simp; omega) h.2 rfl
      rw [isGenerated_append hline, h.1, hrest, Bool.or_true, Bool.and_true]
    · rw [isMarkedAtEnd_of_not_mem hnewline] at h
      rw [isGenerated_of_not_mem hnewline, startsPackage_of_isMarker h, h]
      rfl

/-- A line with a carriage return behind it is no mark. -/
theorem isMarker_return (line : List Char) : isMarker (line ++ ['\r']) = false := by
  rw [← Bool.not_eq_true]
  intro h
  unfold isMarker at h
  split at h
  · rename_i rest hrest
    obtain ⟨behind, hbehind⟩ := Option.isSome_iff_exists.1 h
    have hclosing := Text.eq_append_of_dropPrefix? hbehind
    have hline := congrArg List.getLast? (Text.eq_append_of_dropPrefix? hrest)
    have hlast : rest.getLast? = some '.' := by
      rw [← List.head?_reverse, hclosing]
      rfl
    rw [List.getLast?_append, List.getLast?_append, hlast] at hline
    simp at hline
  · cases h

/-- A literal is at the front of a text whatever other character follows the text. -/
theorem dropPrefix?_concat {ps : List Char} {c : Char} (hc : c ∉ ps) (cs : List Char) :
    Text.dropPrefix? ps (cs ++ [c]) = (Text.dropPrefix? ps cs).map (· ++ [c]) := by
  induction ps generalizing cs with
  | nil => rfl
  | cons p ps ih =>
    rw [List.mem_cons, not_or] at hc
    cases cs with
    | nil => simp [Text.dropPrefix?, Ne.symm hc.1]
    | cons d cs =>
      rw [List.cons_append, Text.dropPrefix?, Text.dropPrefix?, ih hc.2]
      split <;> rfl

/-- A line starts the package clause with a carriage return behind it or without. -/
theorem startsPackage_return (line : List Char) :
    startsPackage (line ++ ['\r']) true = startsPackage line true := by
  unfold startsPackage
  rw [dropPrefix?_concat (by decide)]
  cases Text.dropPrefix? "package".toList line with
  | none => rfl
  | some rest =>
    cases rest with
    | nil => rfl
    | cons c rest => rfl

/-- With carriage returns, only a last line without line end can mark a file. -/
theorem isGenerated_crlf (source : List Char) :
    isGenerated (crlf source) = isMarkedAtEnd source := by
  induction hn : source.length using Nat.strongRecOn generalizing source with
  | ind n ih =>
    by_cases hnewline : '\n' ∈ source
    · obtain ⟨line, rest, rfl, hline⟩ := List.eq_append_cons_of_mem hnewline
      have hcrlf : crlf (line ++ '\n' :: rest) = (line ++ ['\r']) ++ '\n' :: crlf rest := by
        simp [Text.crlf_eq_self hline]
      have hline' : '\n' ∉ line ++ ['\r'] := by simp [hline]
      have hrest := ih rest.length (by rw [← hn]; simp; omega) rest rfl
      rw [hcrlf, isGenerated_append hline', isMarker_return, startsPackage_return,
        isMarkedAtEnd_append hline, hrest, Bool.false_or]
    · rw [Text.crlf_eq_self hnewline, isMarkedAtEnd_of_not_mem hnewline,
        isGenerated_of_not_mem hnewline]
      cases hmarker : isMarker source with
      | false => rw [Bool.and_false]
      | true => rw [startsPackage_of_isMarker hmarker]; rfl

/-- Carriage returns change whether a file is taken for generated exactly if it is, and not by a
last line without line end. -/
theorem isGenerated_crlf_eq_iff (source : List Char) :
    isGenerated (crlf source) = isGenerated source ↔
      (isGenerated source = true → isMarkedAtEnd source = true) := by
  rw [isGenerated_crlf, Bool.eq_iff_iff]
  exact ⟨Iff.mpr, fun h => ⟨isGenerated_of_isMarkedAtEnd, h⟩⟩

end Lines

end TypeWeave.Go.Marker
