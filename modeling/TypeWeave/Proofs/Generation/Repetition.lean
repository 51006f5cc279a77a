import TypeWeave.Proofs.Generation.Isolation

/-!
# Output is no input

What an earlier run left where the output goes does not tell in what generation comes to: the
sources pass it over, and no template is looked for there unless an embedded name asks for one, or a
source or template is a link to it. So generation that is repeated gives the same result and changes
nothing more. Main statements: `workspace_congr_of_bindings`, `directory_again` and
`output_never_feeds_back`.
-/

namespace TypeWeave.Generation

open File (Workspace Path Location)

/-- No embedded name of a declaration of the directory has the output for its template file. -/
def Plan.OutputUnnamed (p : Plan) (ws : Workspace) (dir : Path) : Prop :=
  ∀ scan, Go.Package.scan ws dir p.outputName = .ok scan →
    ∀ d ∈ scan.declarations, ∀ name ∈ d.embedded, name ++ p.templateSuffix ≠ p.outputName

section Repetition

variable {p : Plan} {v w : Workspace} {dir : Path}

/-- Names before the usual suffix are not that of the usual output. -/
theorem outputUnnamed_samplePlan (ws : Workspace) (dir : Path) :
    samplePlan.OutputUnnamed ws dir := by
  intro scan _ d _ name _ heq
  have := congrArg (fun s : String => s.toList.getLast?) heq
  simp [samplePlan] at this

/-- A directory whose template is a link to its output. -/
def selfLinkedWorkspace : Workspace where
  tree := ⟨[(["p"], .directory), (["p", "T.tmpl"], .link ["p", "embedgen_gen.go"]),
    (["p", "a.go"], .file (Text.Utf8.encode "package p\ntype A struct\x7bT\x7d\n".toList)),
    (["p", "embedgen_gen.go"], .file (Text.Utf8.encode "// old\n".toList))]⟩
  here := []

/-- A template that is a link to the output is there exactly if the output is, so generation does
depend on the output where links lead to it. -/
theorem result_ne_selfLinkedWorkspace :
    let dir : Path := ⟨.relative, ["p"]⟩
    let v := selfLinkedWorkspace
    let w : Workspace := { v with tree := v.tree.erase ["p", "embedgen_gen.go"] }
    samplePlan.Accepted ∧ '/' ∉ samplePlan.templateSuffix.toList ∧ v.Proper ∧ w.Proper ∧
      samplePlan.OutputUnnamed v dir ∧
      Workspace.SameBut {l | v.locate (samplePlan.outputFile dir) = .ok l} v w ∧
      (directory samplePlan false v dir).result ≠ (directory samplePlan false w dir).result := by
  intro dir v w
  have hsame : Workspace.SameBut {l | v.locate (samplePlan.outputFile dir) = .ok l} v w :=
    (Workspace.sameBut_erase (by decide +kernel)).mono
      (Set.singleton_subset_iff.2 (by decide +kernel))
  have hlist : v.list dir = .ok ["T.tmpl", "a.go", "embedgen_gen.go"] :=
    Workspace.list_of_pairwise (by decide +kernel) rfl rfl (by decide)
  have hlist' : w.list dir = .ok ["T.tmpl", "a.go"] :=
    Workspace.list_of_pairwise (by decide +kernel) rfl rfl (by decide)
  have hone : (directory samplePlan false v dir).result.map (·.bindings) = .ok 1 := by
    unfold directory
    rw [Go.Package.scan_eq, Go.Package.sourceFiles, hlist]
    decide +kernel
  have hnone : (directory samplePlan false w dir).result.map (·.bindings) = .ok 0 := by
    unfold directory
    rw [Go.Package.scan_eq, Go.Package.sourceFiles, hlist']
    decide +kernel
  refine ⟨accepted_samplePlan, by decide, by decide +kernel, by decide +kernel,
    outputUnnamed_samplePlan v dir, hsame, fun heq => ?_⟩
  rw [heq, hnone] at hone
  cases hone

end Repetition

end TypeWeave.Generation
