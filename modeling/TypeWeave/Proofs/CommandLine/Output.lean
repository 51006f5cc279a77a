import TypeWeave.Proofs.CommandLine.Report
import TypeWeave.Proofs.Console.ControlSequence
import TypeWeave.Proofs.Generation.Isolation

/-!
# Exit codes and standard output

A report counts each result that failed, whatever stands before and behind it, and writes the sources
of a dry run to standard output and nothing else. Only their control sequences are left out, as
standard output is no terminal. Main statement: `finish_exit_and_output`.
-/

namespace TypeWeave.CommandLine

open Console.Markup Generation
open Console.ControlSequence
  (HasSequence strip strip_eq_self strip_append strip_sequence strip_eq_self_iff flatMap_strip_eq_iff)

/-- The sources of the results that have an output file, in the order of the results. -/
def sources (results : List Result) : List String :=
  (results.filter fun r => r.succeeded && r.outputFile.isSome).map fun r => r.source.getD ""

/-- A text without its control sequences. -/
def stripped (text : String) : String := String.ofList (strip text.toList)

/-- Only a dry run writes to standard output, and only the source of a result with an output file. -/
theorem out_of_told {dryRun : Bool} {r : Result} {s : Screen} (h : told dryRun r = .ok s) :
    s.out = if dryRun then String.join ((sources [r]).map stripped) else "" := by
  have hquiet {text : Except Console.Markup.Fault String} (h : text.map Screen.ofError = .ok s) :
      s.out = "" := by
    obtain ⟨line, -, rfl⟩ := Except.map_eq_ok.1 h
    rfl
  unfold told at h
  split at h
  · rename_i f hf
    rw [hquiet h]
    simp [sources, Result.succeeded, hf]
  · rename_i hf hfile
    rw [hquiet h]
    simp [sources, hfile]
  · rename_i file hf hfile
    split at h
    · rename_i hdry
      obtain rfl := Except.ok.inj h
      simp [hdry, sources, Result.succeeded, hf, hfile, stripped]
    · rename_i hdry
      rw [hquiet h, if_neg hdry]

namespace Report

variable {dryRun : Bool} {rs : List Result}

/-- The report of results that can be told writes what each of them writes, in their order, and counts
those that failed. -/
theorem ofResults_spec (h : ∀ r ∈ rs, ∃ s, told dryRun r = .ok s) :
    (ofResults dryRun rs).fault = none ∧
    (ofResults dryRun rs).screen.out =
      (if dryRun then String.join ((sources rs).map stripped) else "") ∧
    ((ofResults dryRun rs).failed = 0 ↔ ∀ r ∈ rs, r.succeeded = true) := by
  induction rs with
  | nil => cases dryRun <;> exact ⟨rfl, rfl, by simp [ofResults]⟩
  | cons r rs ih =>
    obtain ⟨⟨s, hs⟩, hrs⟩ := List.forall_mem_cons.1 h
    obtain ⟨hfault, hout, hfailed⟩ := ih hrs
    have hreport : ofResults dryRun (r :: rs) =
        { ofResults dryRun rs with
          screen := s ++ (ofResults dryRun rs).screen
          failed := weight r + (ofResults dryRun rs).failed } := by
      rw [ofResults, hs]
    have hsources : sources (r :: rs) = sources [r] ++ sources rs := by
      rw [sources, sources, sources, ← List.map_append, ← List.filter_append]
      rfl
    refine ⟨?_, ?_, ?_⟩
    · rw [hreport]
      exact hfault
    · have happend : (ofResults dryRun (r :: rs)).screen.out =
          s.out ++ (ofResults dryRun rs).screen.out := by
        rw [hreport]
        rfl
      rw [happend, out_of_told hs, hout, hsources]
      cases dryRun <;> simp
    · rw [hreport, List.forall_mem_cons, ← hfailed, Nat.add_eq_zero_iff]
      exact and_congr_left fun _ => by unfold weight; split <;> simp_all

end Report

/-- What is written of some texts is all of them exactly when none of them holds a control sequence. -/
theorem join_stripped_eq_iff (texts : List String) :
    String.join (texts.map stripped) = String.join texts ↔ ∀ s ∈ texts, ¬HasSequence s.toList := by
  have hiff := flatMap_strip_eq_iff (texts.map String.toList)
  rw [List.flatMap_map, ← List.flatMap_def, List.forall_mem_map] at hiff
  rw [← hiff, ← String.toList_inj, String.toList_join, String.toList_join, List.flatMap_map]
  simp only [stripped, String.toList_ofList]

/-- A path without an opening bracket is told without a fault. -/
theorem exists_told_of_not_mem (dryRun : Bool) {r : Result}
    (h : '[' ∉ r.directory.text.toList) : ∃ s, told dryRun r = .ok s := by
  refine exists_told_eq_ok dryRun fun _ => ?_
  rintro ⟨before, tag, after, heq, -⟩
  have hbracket : '[' ∈ (unboundText r).toList := by
    rw [heq]
    simp
  rw [unboundText, String.toList_append, List.mem_append] at hbracket
  exact hbracket.elim h (by decide)

namespace Call

/-- A call whose results can be told ends with their report. It fails when one of them failed. -/
theorem finish_of_told (dryRun : Bool) (log : String) {run : Generation.Report}
    {results : List Result} (hresults : run.results = .ok results)
    (htold : ∀ r ∈ results, ∃ s, told dryRun r = .ok s) :
    Call.finish dryRun (.ofError log) run =
      { exit := if ∀ r ∈ results, r.succeeded = true then .success else .failure
        screen := .ofError log ++ (Report.ofResults dryRun results).screen
        workspace := run.workspace } := by
  obtain ⟨hfault, -, hfailed⟩ := Report.ofResults_spec htold
  unfold Call.finish
  rw [hresults]
  dsimp only
  rw [hfault]
  simp only [hfailed]

/-- Such a call writes the sources of a dry run to standard output and nothing else. -/
theorem out_finish (dryRun : Bool) (log : String) {run : Generation.Report}
    {results : List Result} (hresults : run.results = .ok results)
    (htold : ∀ r ∈ results, ∃ s, told dryRun r = .ok s) :
    (Call.finish dryRun (.ofError log) run).screen.out =
      if dryRun then String.join ((sources results).map stripped) else "" := by
  obtain ⟨-, hout, -⟩ := Report.ofResults_spec htold
  rw [finish_of_told dryRun log hresults htold, ← hout]
  exact String.empty_append

/-- A call whose results have no opening bracket in their paths tells all of them. Its exit code is 0
when all of them succeeded, and 1 otherwise. Standard output is empty unless the run is dry, and then
it holds the sources of the results with an output file in the order of the results, without their
control sequences; so it is these sources exactly when none of them holds a control sequence. -/
theorem finish_exit_and_output (dryRun : Bool) (log : String) (run : Generation.Report)
    {results : List Result} (hresults : run.results = .ok results)
    (hpath : ∀ r ∈ results, '[' ∉ r.directory.text.toList) :
    let ended := Call.finish dryRun (.ofError log) run
    ended.escaped = none ∧
    ended.exit.code = (if ∀ r ∈ results, r.succeeded = true then 0 else 1) ∧
    (dryRun = false → ended.screen.out = "") ∧
    (dryRun = true →
      ended.screen.out = String.join ((sources results).map stripped) ∧
      (ended.screen.out = String.join (sources results) ↔
        ∀ s ∈ sources results, ¬HasSequence s.toList)) := by
  have htold : ∀ r ∈ results, ∃ s, told dryRun r = .ok s :=
    fun r hr => exists_told_of_not_mem dryRun (hpath r hr)
  have hfinish := finish_of_told dryRun log hresults htold
  have hout := out_finish dryRun log hresults htold
  intro ended
  refine ⟨congrArg Ended.escaped hfinish, ?_, ?_, ?_⟩
  · refine (congrArg (fun e : Ended => e.exit.code) hfinish).trans ?_
    dsimp only
    split <;> rfl
  · rintro rfl
    exact hout
  · rintro rfl
    exact ⟨hout, by rw [show ended.screen.out = _ from hout]; exact join_stripped_eq_iff _⟩

end Call

/-- A failed directory and one without bindings before one that has output. -/
def mixedResults : List Result :=
  [conflicting ⟨.relative, ["a"]⟩ 13, { directory := ⟨.relative, ["c"]⟩ }, sampleResult]

/-- What failed is told by the exit code, and standard output is the source there is, or nothing. -/
theorem Call.finish_exit_and_output_mixedResults :
    (runOf mixedResults).results = .ok mixedResults ∧
    (∀ r ∈ mixedResults, '[' ∉ r.directory.text.toList) ∧
    let dry := Call.finish true (.ofError "") (runOf mixedResults)
    let real := Call.finish false (.ofError "") (runOf mixedResults)
    (dry.escaped = none ∧ real.escaped = none) ∧ (dry.exit.code = 1 ∧ real.exit.code = 1) ∧
    real.screen.out = "" ∧ dry.screen.out = String.join (sources mixedResults) ∧
    sources mixedResults =
      ["// Code generated by embedgen. DO NOT EDIT.\n\npackage p\n\nfunc f() \x7b\x7d\n"] := by
  have hpath : ∀ r ∈ mixedResults, '[' ∉ r.directory.text.toList := by decide
  have hsources : sources mixedResults =
      ["// Code generated by embedgen. DO NOT EDIT.\n\npackage p\n\nfunc f() \x7b\x7d\n"] := rfl
  have hplain : ∀ s ∈ sources mixedResults, ¬HasSequence s.toList := by
    intro s hs
    rw [hsources, List.mem_singleton] at hs
    rw [hs]
    exact strip_eq_self_iff.1 (strip_eq_self (by decide))
  obtain ⟨hdry, hdryExit, -, hout⟩ :=
    Call.finish_exit_and_output true "" (runOf mixedResults) rfl hpath
  obtain ⟨hreal, hrealExit, hquiet, -⟩ :=
    Call.finish_exit_and_output false "" (runOf mixedResults) rfl hpath
  have hfailed : ¬∀ r ∈ mixedResults, r.succeeded = true := by decide
  rw [if_neg hfailed] at hdryExit hrealExit
  exact ⟨rfl, hpath, ⟨hdry, hreal⟩, ⟨hdryExit, hrealExit⟩, hquiet rfl, (hout rfl).2.2 hplain,
    hsources⟩

/-- A workspace whose template has a comment that starts with a control sequence. -/
def boldWorkspace : File.Workspace where
  tree := ⟨[(["p"], .directory),
    (["p", "T.tmpl"], .file (Text.Utf8.encode "// \x1b[1mbold\n".toList)),
    (["p", "a.go"], .file (Text.Utf8.encode "package p\ntype A struct\x7bT\x7d\n".toList))]⟩
  here := []

/-- What generation for it comes to. -/
def boldResult : Result where
  directory := ⟨.relative, ["p"]⟩
  outputFile := some ⟨.relative, ["p", "embedgen_gen.go"]⟩
  bindings := 1
  source := some "// Code generated by embedgen. DO NOT EDIT.\n\npackage p\n\n// \x1b[1mbold\n"

private theorem list_boldWorkspace :
    boldWorkspace.list ⟨.relative, ["p"]⟩ = .ok ["T.tmpl", "a.go"] :=
  File.Workspace.list_of_pairwise (by decide) rfl rfl (by decide)

theorem results_boldWorkspace : (Generation.run samplePlan 1 true false boldWorkspace
    [⟨.relative, ["p"]⟩]).results = .ok [boldResult] := by
  have hdirectory : (directory samplePlan true boldWorkspace ⟨.relative, ["p"]⟩).result =
      .ok boldResult := by
    unfold directory
    rw [Go.Package.scan_eq, Go.Package.sourceFiles, list_boldWorkspace]
    decide +kernel
  obtain ⟨sideBySide, hresults, -⟩ :=
    run_eq samplePlan 1 true false boldWorkspace [⟨.relative, ["p"]⟩]
  rw [hresults, (each_cons ..).1, (isolated_eq ..).1, hdirectory]
  rfl

/-- What its source has before the control sequence. -/
def boldLead : List Char := "// Code generated by embedgen. DO NOT EDIT.\n\npackage p\n\n// ".toList

theorem stripped_boldResult : (sources [boldResult]).map stripped =
    ["// Code generated by embedgen. DO NOT EDIT.\n\npackage p\n\n// bold\n"] := by
  have htail : Console.ControlSequence.IsTail "[1m".toList :=
    ⟨['1'], 'm', rfl, List.forall_mem_singleton.2 rfl, rfl⟩
  have hlead : '\x1b' ∉ boldLead := by decide
  have hstrip : strip (boldLead ++ '\x1b' :: ("[1m".toList ++ "bold\n".toList)) =
      boldLead ++ "bold\n".toList := by
    rw [strip_append hlead, strip_sequence htail, strip_eq_self (by decide)]
  exact congrArg (fun cs => [String.ofList cs]) hstrip

/-- The control sequence of a comment is missing from what a dry run writes. -/
theorem Call.not_sources_boldWorkspace :
    let run := Generation.run samplePlan 1 true false boldWorkspace [⟨.relative, ["p"]⟩]
    run.results = .ok [boldResult] ∧ (∀ r ∈ [boldResult], '[' ∉ r.directory.text.toList) ∧
    (Call.finish true (.ofError "") run).screen.out =
      "// Code generated by embedgen. DO NOT EDIT.\n\npackage p\n\n// bold\n" ∧
    (Call.finish true (.ofError "") run).screen.out ≠ String.join (sources [boldResult]) := by
  intro run
  have hresults : run.results = .ok [boldResult] := results_boldWorkspace
  have hpath : ∀ r ∈ [boldResult], '[' ∉ r.directory.text.toList := by decide
  have hout := Call.out_finish true "" hresults fun r hr =>
    exists_told_of_not_mem true (hpath r hr)
  rw [stripped_boldResult] at hout
  exact ⟨hresults, hpath, hout, by rw [hout]; decide⟩

end TypeWeave.CommandLine
