import TypeWeave.Generation.Plan
import TypeWeave.Proofs.Except
import TypeWeave.Proofs.File.Names
import TypeWeave.Proofs.Go.Embedded

/-!
# Names that accepted settings give

Settings whose values have all been checked give the output, its temporary files and, for a suffix
without a slash, the templates names that are read as paths of a single part.
-/

namespace TypeWeave

namespace Settings

/-- The file names that the check lets through. -/
theorem checkOutputName_eq_ok {s t : String} :
    checkOutputName s = .ok t ↔ (".go".toList <:+ s.toList ∧ '/' ∉ s.toList ∧ '\\' ∉ s.toList ∧
      ¬"_test.go".toList <:+ s.toList) ∧ s = t := by
  rw [← Text.endsWith_string_iff, ← Text.endsWith_string_iff]
  unfold checkOutputName
  split
  · rename_i h
    exact iff_of_false nofun fun ⟨⟨hgo, hslash, hback, _⟩, _⟩ => by
      simp [hgo, hslash, hback, String.contains_char_eq] at h
  · rename_i h
    split
    · rename_i htest
      exact iff_of_false nofun fun ⟨⟨_, _, _, hnot⟩, _⟩ => hnot htest
    · rename_i htest
      simp only [Bool.or_eq_true, Bool.not_eq_true', String.contains_char_eq, decide_eq_true_eq,
        not_or, Bool.not_eq_false] at h
      simp [h, htest]

/-- The suffixes that the check lets through. -/
theorem checkTemplateSuffix_eq_ok {s t : String} :
    checkTemplateSuffix s = .ok t ↔ (".".toList <+: s.toList ∧ 2 ≤ s.toList.length) ∧ s = t := by
  rw [String.length_toList, ← String.startsWith_string_iff]
  unfold checkTemplateSuffix
  split
  · rename_i h
    exact iff_of_false nofun fun ⟨⟨hdot, hlength⟩, _⟩ => by
      simp [hdot, Nat.not_lt.2 hlength] at h
  · rename_i h
    simp only [Bool.or_eq_true, Bool.not_eq_true', decide_eq_true_eq, not_or, Bool.not_eq_false,
      Nat.not_lt] at h
    simp [h]

end Settings

/-- Settings that every check lets through as they are. -/
structure Settings.Accepted (s : Settings) : Prop where
  outputName : checkOutputName s.outputName = .ok s.outputName
  templateSuffix : checkTemplateSuffix s.templateSuffix = .ok s.templateSuffix
  formatter : checkFormatter s.formatter = .ok s.formatter
  command : checkCommand s.command = .ok s.command
  workers : checkWorkers s.workers = .ok s.workers
  logLevel : checkLogLevel s.logLevel = .ok s.logLevel

namespace Generation

open File (IsPlain Path)

/-- Plans with checked names, whose writer makes names of its own for temporary files. -/
structure Plan.Accepted (p : Plan) : Prop where
  outputName : Settings.checkOutputName p.outputName = .ok p.outputName
  templateSuffix : Settings.checkTemplateSuffix p.templateSuffix = .ok p.templateSuffix
  tags : ∀ tag ∈ p.writer.tags, '/' ∉ tag.toList

/-- The plan of accepted settings is accepted. -/
theorem Plan.accepted_of_settings {run : Command.Runner} {s : Settings} {p : Plan}
    (hs : s.Accepted) (h : Plan.ofSettings run s = .ok p) : p.Accepted := by
  obtain ⟨formatter, -, h⟩ := Except.bind_eq_ok.1 h
  have htags : ∀ tag ∈ File.Atomic.tags, '/' ∉ tag.toList := by decide
  cases h
  exact ⟨hs.outputName, hs.templateSuffix, htags⟩

namespace Plan.Accepted

variable {p : Plan}

/-- A text that ends with three characters is read as a path of one part if it has no slash. -/
private theorem isPlain_of_length {n : String} (hslash : '/' ∉ n.toList)
    (hlength : 3 ≤ n.toList.length) : IsPlain n ∧ n ≠ ".." := by
  refine ⟨⟨?_, ?_, hslash⟩, ?_⟩
  all_goals
    rintro rfl
    revert hlength
    decide

/-- The output has a plain name. -/
theorem isPlain_outputName (hp : p.Accepted) : IsPlain p.outputName ∧ p.outputName ≠ ".." := by
  obtain ⟨⟨hsuffix, hslash, -, -⟩, -⟩ := Settings.checkOutputName_eq_ok.1 hp.outputName
  exact isPlain_of_length hslash hsuffix.length_le

/-- Temporary files have plain names. -/
theorem isPlain_temporaryName (hp : p.Accepted) {tag : String} (h : tag ∈ p.writer.tags) :
    IsPlain (File.Atomic.temporaryName p.outputName tag) ∧
      File.Atomic.temporaryName p.outputName tag ≠ ".." := by
  have hname := hp.isPlain_outputName.1.slash_not_mem
  have htag := hp.tags tag h
  have hlist : (File.Atomic.temporaryName p.outputName tag).toList =
      ['.'] ++ p.outputName.toList ++ ['.'] ++ tag.toList ++ ['.', 't', 'm', 'p'] := by
    simp [File.Atomic.temporaryName]
  refine isPlain_of_length ?_ ?_
  · simp [hlist, hname, htag]
  · simp [hlist]
    omega

/-- With a suffix without a slash, templates of names have plain names. -/
theorem isPlain_template (hp : p.Accepted) (hslash : '/' ∉ p.templateSuffix.toList) {name : String}
    (hname : Go.Lexeme.isName name.toList = true) :
    IsPlain (name ++ p.templateSuffix) ∧ name ++ p.templateSuffix ≠ ".." := by
  obtain ⟨hne, hall⟩ := Bool.and_eq_true_iff.1 hname
  have hnot : Go.Lexeme.isNameRest '/' = false := by decide +kernel
  refine isPlain_of_length ?_ ?_
  · rw [String.toList_append, List.mem_append, not_or]
    refine ⟨fun hmem => ?_, hslash⟩
    rw [List.all_eq_true.1 hall _ hmem] at hnot
    cases hnot
  · have hpos : 1 ≤ name.toList.length := List.length_pos_iff.2 (by simpa using hne)
    have := (Settings.checkTemplateSuffix_eq_ok.1 hp.templateSuffix).1.2
    rw [String.toList_append, List.length_append]
    omega

end Plan.Accepted

end Generation

end TypeWeave
