import TypeWeave.CommandLine.Program
import TypeWeave.Proofs.Console.Verbatim

/-!
# What a report says

A report tells the results of a run one by one, and ends early only when a directory without
bindings has a name that is markup. What it tells of a result is then on the screen, and holds the
path and the message as they are if the console shows them so. Main statement: `finish_verbatim`.
-/

namespace TypeWeave.CommandLine

open Console.Markup Generation

/-- A result without a failure and without output: its directory has no bindings. -/
def IsUnbound (r : Result) : Prop := r.failure = none ∧ r.outputFile = none

/-- What is told of a failure. -/
def failureText (r : Result) (f : Failure) : String := r.directory.text ++ ": " ++ f.message

/-- What is told of a directory without bindings. -/
def unboundText (r : Result) : String := r.directory.text ++ ": no template bindings"

/-- What is told of a directory without bindings does not end in a backslash. -/
private theorem getLast?_unboundText (r : Result) :
    (unboundText r).toList.getLast? ≠ some '\\' := by
  rw [unboundText, String.toList_append, List.getLast?_append_of_ne_nil _ (by simp)]
  decide

/-- A result can be told, but for a directory without bindings that has a tag in its path. -/
theorem exists_told_eq_ok (dryRun : Bool) {r : Result}
    (htag : IsUnbound r → ¬HasTag (unboundText r).toList) : ∃ s, told dryRun r = .ok s := by
  unfold told
  cases hfailure : r.failure with
  | some f =>
    obtain ⟨text, htext⟩ := Console.exists_error_eq_ok (r.directory.text ++ ": " ++ f.message)
    exact ⟨.ofError text, by simp only [htext]; rfl⟩
  | none =>
    cases hfile : r.outputFile with
    | none =>
      have hremark := Console.remark_eq_shownText (htag ⟨hfailure, hfile⟩) (getLast?_unboundText r)
      rw [unboundText] at hremark
      exact ⟨_, by rw [hremark]; rfl⟩
    | some file =>
      dsimp only
      split
      · exact ⟨_, rfl⟩
      · obtain ⟨text, htext⟩ := Console.exists_success_eq_ok
          (file.text ++ " (" ++ toString r.bindings ++ " bindings)")
        exact ⟨.ofError text, by rw [htext]; rfl⟩

/-- A verbatim failure is told as it is. -/
theorem told_of_failure (dryRun : Bool) {r : Result} {f : Failure} (hf : r.failure = some f)
    (h : IsVerbatim (failureText r f).toList) : ∃ tail, (tail = "\n" ∨ tail = "\\\n") ∧
      told dryRun r = .ok (.ofError ("Error: " ++ failureText r f ++ tail)) := by
  obtain ⟨tail, htail, herror⟩ := Console.error_eq h
  refine ⟨tail, htail, ?_⟩
  unfold told
  rw [hf]
  dsimp only
  rw [← failureText, herror]
  rfl

/-- A verbatim path of a directory without bindings is told as it is. -/
theorem told_of_isUnbound (dryRun : Bool) {r : Result} (hr : IsUnbound r)
    (htag : ¬HasTag (unboundText r).toList) (h : IsVerbatim (unboundText r).toList) :
    told dryRun r = .ok (.ofError (unboundText r ++ "\n")) := by
  unfold told
  rw [hr.1, hr.2]
  dsimp only
  rw [← unboundText, Console.remark_eq htag (getLast?_unboundText r) h]
  rfl

namespace Report

/-- A report of results that can be told does not end early, and holds what is told of each. -/
theorem ofResults_of_told (dryRun : Bool) {rs : List Result}
    (h : ∀ r ∈ rs, ∃ s, told dryRun r = .ok s) :
    (ofResults dryRun rs).fault = none ∧ ∀ r ∈ rs, ∀ s, told dryRun r = .ok s →
      ∃ before after, (ofResults dryRun rs).screen.err = before ++ s.err ++ after := by
  induction rs with
  | nil => exact ⟨rfl, by simp⟩
  | cons r rs ih =>
    obtain ⟨⟨screen, hscreen⟩, hrs⟩ := List.forall_mem_cons.1 h
    obtain ⟨hfault, hmore⟩ := ih hrs
    have herr : (ofResults dryRun (r :: rs)).screen.err =
        screen.err ++ (ofResults dryRun rs).screen.err := by
      rw [ofResults, hscreen]
      rfl
    refine ⟨by rw [ofResults, hscreen]; exact hfault, List.forall_mem_cons.2 ⟨?_, ?_⟩⟩
    · intro s hs
      obtain rfl := Except.ok.inj (hscreen.symm.trans hs)
      exact ⟨"", (ofResults dryRun rs).screen.err, by rw [herr, String.empty_append]⟩
    · intro r' hr' s hs
      obtain ⟨before, after, heq⟩ := hmore r' hr' s hs
      exact ⟨screen.err ++ before, after, by rw [herr, heq]; simp only [String.append_assoc]⟩

end Report

/-- The results of a run are all told, if no directory without bindings has a tag in its path. For
each failure, standard error then holds the path and the message character for character, and for
each directory without bindings the path, wherever what is told is printable, holds no code of an
emoji, and has no backslash before a bracket that begins no tag. -/
theorem Call.finish_verbatim (dryRun : Bool) (logged : Screen) (run : Generation.Report)
    {results : List Result} (hresults : run.results = .ok results)
    (htag : ∀ r ∈ results, IsUnbound r → ¬HasTag (unboundText r).toList) :
    let ended := Call.finish dryRun logged run
    ended.escaped = none ∧
    (∀ r ∈ results, ∀ f, r.failure = some f →
      IsVerbatim (r.directory.text ++ ": " ++ f.message).toList →
      ∃ before tail after, (tail = "\n" ∨ tail = "\\\n") ∧ ended.screen.err =
        before ++ ("Error: " ++ (r.directory.text ++ ": " ++ f.message) ++ tail) ++ after) ∧
    ∀ r ∈ results, IsUnbound r →
      IsVerbatim (r.directory.text ++ ": no template bindings").toList →
      ∃ before after, ended.screen.err =
        before ++ (r.directory.text ++ ": no template bindings" ++ "\n") ++ after := by
  obtain ⟨hfault, hscreen⟩ := Report.ofResults_of_told dryRun
    fun r hr => exists_told_eq_ok dryRun (htag r hr)
  have hfinish : Call.finish dryRun logged run =
      { exit := if (Report.ofResults dryRun results).failed = 0 then .success else .failure
        screen := logged ++ (Report.ofResults dryRun results).screen
        workspace := run.workspace } := by
    unfold Call.finish
    rw [hresults]
    dsimp only
    rw [hfault]
  have hwhole {r : Result} (hr : r ∈ results) {line : String}
      (hline : told dryRun r = .ok (.ofError line)) : ∃ before after,
        (logged ++ (Report.ofResults dryRun results).screen).err = before ++ line ++ after := by
    obtain ⟨before, after, heq⟩ := hscreen r hr _ hline
    refine ⟨logged.err ++ before, after, ?_⟩
    have herr : (logged ++ (Report.ofResults dryRun results).screen).err =
        logged.err ++ (before ++ line ++ after) := congrArg (logged.err ++ ·) heq
    rw [herr]
    simp only [String.append_assoc]
  intro ended
  refine ⟨by rw [show ended = _ from hfinish], fun r hr f hf h => ?_, fun r hr hunbound h => ?_⟩
  · obtain ⟨tail, htail, htold⟩ := told_of_failure dryRun hf h
    obtain ⟨before, after, heq⟩ := hwhole hr htold
    exact ⟨before, tail, after, htail, by rw [show ended = _ from hfinish]; exact heq⟩
  · obtain ⟨before, after, heq⟩ :=
      hwhole hr (told_of_isUnbound dryRun hunbound (htag r hr hunbound) h)
    exact ⟨before, after, by rw [show ended = _ from hfinish]; exact heq⟩

/-- A run that came to some results and left nothing. -/
def runOf (results : List Result) : Generation.Report :=
  { results := .ok results, workspace := ⟨.empty, []⟩, notices := [], aborted := false }

/-- A directory whose files are in two packages, of which the second is named on some line. -/
def conflicting (directory : File.Path) (line : Int) : Result :=
  { directory := directory
    failure := some (.source (directory.child "b.go") line 1 "package q conflicts with p") }

/-- Brackets in a path and the position in a file are told as they are. -/
theorem Call.finish_verbatim_bracketed :
    let ended := Call.finish false {} (runOf
      [conflicting ⟨.relative, ["a[b]"]⟩ 13, { directory := ⟨.relative, ["c"]⟩ }])
    ended.escaped = none ∧
    (∃ before tail after, (tail = "\n" ∨ tail = "\\\n") ∧ ended.screen.err = before ++
      ("Error: " ++ "a[b]: a[b]/b.go:13:1: package q conflicts with p" ++ tail) ++ after) ∧
    ∃ before after, ended.screen.err = before ++ "c: no template bindings\n" ++ after := by
  intro ended
  obtain ⟨hescaped, hfailures, hunbound⟩ := Call.finish_verbatim false {} (runOf
      [conflicting ⟨.relative, ["a[b]"]⟩ 13, { directory := ⟨.relative, ["c"]⟩ }]) rfl (by
    intro r hr hunbound
    rcases List.mem_pair.1 hr with rfl | rfl
    · cases hunbound.1
    · decide +kernel)
  refine ⟨hescaped, ?_, ?_⟩
  · obtain ⟨before, tail, after, htail, heq⟩ := hfailures _ List.mem_cons_self _ rfl
      (by decide +kernel)
    refine ⟨before, tail, after, htail, heq.trans ?_⟩
    have htext : (File.Path.text ⟨.relative, ["a[b]"]⟩ ++ ": " ++ Failure.message (.source
        ((⟨.relative, ["a[b]"]⟩ : File.Path).child "b.go") 13 1 "package q conflicts with p")) =
          "a[b]: a[b]/b.go:13:1: package q conflicts with p" := by decide +kernel
    exact congrArg (fun text => before ++ ("Error: " ++ text ++ tail) ++ after) htext
  · obtain ⟨before, after, heq⟩ := hunbound _ (List.mem_cons_of_mem _ List.mem_cons_self)
      ⟨rfl, rfl⟩ (by decide +kernel)
    exact ⟨before, after, heq⟩

/-- A path that is a closing tag ends the report, and the hundredth line of a file is told as the
emoji of that name. -/
theorem Call.not_verbatim_closingTag :
    "[/x]".toList.all Text.isPrintable = true ∧
    (Call.finish false {} (runOf [{ directory := ⟨.relative, ["[", "x]"]⟩ }])).escaped =
      some (.markup (.notOpen "/x".toList 5)) ∧
    (Call.finish false {} (runOf [conflicting ⟨.relative, ["p"]⟩ 100])).screen.err =
      "Error: p: p/b.go💯1: package q conflicts with p\n" := by
  decide +kernel

end TypeWeave.CommandLine
