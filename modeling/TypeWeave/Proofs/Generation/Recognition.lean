import TypeWeave.Proofs.Generation.Independence
import TypeWeave.Proofs.Go.Generated

/-!
# Generated files are recognised later

Whatever is assembled starts with the line that marks a generated file, and the syntax check changes
nothing of it. So the file that a run has written is told as generated by every later run that finds
it as it was: it is removed once no binding is left, and it is no source of a scan for another
output. Main statements: `Assembly.isGenerated_source`, `exists_holdsGenerated` and
`written_is_recognised`.
-/

namespace TypeWeave

namespace Assembly

/-- A generated file starts with its header, whatever the rest of it is. -/
theorem exists_source_eq (header package : String) (imports fragments : List String) :
    ∃ rest, (source header package imports fragments).toList = header.toList ++ '\n' :: rest := by
  rw [source, List.cons_append, List.cons_append, List.cons_append, List.cons_append,
    String.intercalate_cons_cons, String.append_assoc, String.append_assoc, String.toList_append,
    String.toList_append]
  exact ⟨_, rfl⟩

/-- Every assembled file is told as generated. -/
theorem isGenerated_source (package : String) (imports fragments : List String) :
    Go.Marker.isGenerated (source header package imports fragments).toList = true := by
  obtain ⟨rest, hrest⟩ := exists_source_eq header package imports fragments
  rw [hrest]
  exact Go.Marker.isGenerated_of_isMarker (by decide) (by decide) rest

end Assembly

namespace Generation

open File (Workspace Path Location)
open Go.Package (HoldsGenerated)

section Written

variable {p : Plan} {ws : Workspace} {dir : Path} {r : Result}

/-- The file of a result with bindings holds the source of the result. -/
theorem read_outputFile (hr : (directory p false ws dir).result = .ok r) (hpos : 0 < r.bindings) :
    ∃ source, r.source = some source ∧
      (directory p false ws dir).workspace.read (p.outputFile dir) =
        .ok (Text.Utf8.encode source.toList) := by
  have hsame := sameBut_directory p false ws dir
  obtain ⟨hres, hws⟩ := directory_eq p false ws dir
  rw [hres, Except.map_eq_ok] at hr
  obtain ⟨⟨r', c⟩, hverdict, rfl⟩ := hr
  obtain ⟨l, source, hl, hsource, hget⟩ := get?_of_verdict hverdict hpos
  refine ⟨source, hsource, Workspace.read_of_locate (((hsame.locate _).ok_iff l).1 hl) ?_⟩
  rw [hws, hverdict, Text.Utf8.encode_toList]
  exact File.Tree.look_of_get? hget rfl

/-- With the syntax check, the source of a result is an assembled file as it was assembled. -/
theorem source_of_check (hcheck : p.format = Formatter.check) {dryRun : Bool}
    (hr : (directory p dryRun ws dir).result = .ok r) (hpos : 0 < r.bindings) :
    ∃ package imports fragments,
      r.source = some (Assembly.source Assembly.header package imports fragments) := by
  rw [(directory_eq p dryRun ws dir).1, Except.map_eq_ok] at hr
  obtain ⟨⟨r', c⟩, hverdict, rfl⟩ := hr
  obtain ⟨found, hfound, rfl, -⟩ := verdict_eq_ok hverdict
  obtain ⟨d, rfl⟩ := Option.ne_none_iff_exists'.1 (mt (bindings_resultFor hfound).2 hpos.ne')
  obtain ⟨scan, -, hdraft⟩ := Except.bind_eq_ok.1 hfound
  rw [draft_eq] at hdraft
  obtain ⟨bindings, -, hdraft⟩ := Except.bind_eq_ok.1 hdraft
  obtain ⟨-, fragments, imports, -, hsource, -⟩ := draftOf_eq_ok hdraft
  rw [hcheck] at hsource
  have htext := Formatter.eq_of_check (Assembly.endsWith_source ..) hsource
  exact ⟨_, _, _, congrArg some htext⟩

/-- With the syntax check, the file that was written is told as generated wherever it is read as it
was. -/
theorem exists_holdsGenerated (hcheck : p.format = Formatter.check)
    (hr : (directory p false ws dir).result = .ok r) (hpos : 0 < r.bindings) {later : Workspace}
    (hread : later.read (p.outputFile dir) =
      (directory p false ws dir).workspace.read (p.outputFile dir)) :
    ∃ l, later.locate (p.outputFile dir) = .ok l ∧ HoldsGenerated later l := by
  obtain ⟨source, hsource, hwritten⟩ := read_outputFile hr hpos
  obtain ⟨package, imports, fragments, hassembled⟩ := source_of_check hcheck hr hpos
  obtain rfl := Option.some.inj (hsource.symm.trans hassembled)
  have hgenerated := Assembly.isGenerated_source package imports fragments
  have hne : Text.Utf8.encode
      (Assembly.source Assembly.header package imports fragments).toList ≠ [] := by
    intro hnil
    rw [Text.Utf8.encode_injective (hnil.trans (show [] = Text.Utf8.encode [] from rfl))]
      at hgenerated
    exact absurd hgenerated (by decide)
  obtain ⟨l, hl, hfile⟩ := Workspace.exists_locate_of_read (hread.trans hwritten) hne
  exact ⟨l, hl, _, hfile, hgenerated⟩

end Written

section Later

variable {ws : Workspace} {l : Location}

/-- A generated file is removed where its path leads to it. -/
theorem removeStale_of_holdsGenerated (hw : ws.Proper) {target : Path}
    (hl : ws.locate target = .ok l) (h : HoldsGenerated ws l) :
    Output.removeStale ws target = .ok (.removed, (Change.remove l).apply ws) := by
  obtain ⟨cs, hfile, hgen⟩ := h
  have hisFile : ws.isFile target = .ok true := hw.isFile_eq_true_iff.2 ⟨l, _, hl, hfile⟩
  rw [Output.removeStale_eq, Output.removing_of_isFile hisFile hl hfile,
    Text.Utf8.decodeLossy_encode, hgen]
  rfl

/-- Without bindings, generation comes to the removal of what is left of an earlier run. -/
theorem directory_of_removeStale {p : Plan} {dir : Path} {scan : Go.Package.Scan} {v : Workspace}
    (hscan : Go.Package.scan ws dir p.outputName = .ok scan)
    (hnone : bindingsOf p ws scan = .ok [])
    (hremove : Output.removeStale ws (p.outputFile dir) = .ok (.removed, v)) :
    directory p false ws dir = ⟨.ok { directory := dir }, v, [.started dir,
      .scanned scan.files.length dir scan.declarations.length, .withoutBindings dir,
      .removed (p.outputFile dir)]⟩ := by
  have hdraft : draft p ws scan = .ok none := by
    unfold draft
    rw [hnone]
    rfl
  simp only [directory, hscan, hdraft, hremove, Bool.false_eq_true, if_false]
  rfl

end Later

/-- Generated files are recognised later. Whatever is assembled under the usual header is told as
generated. And when generation with the syntax check has written the file of a directory, and that
file is read as it was in a later file tree, then generation that scans without failure and finds no
binding any more removes it, and nothing else; and no scan finds anything of it, for any name of the
output: it finds the same as without the file, and no declaration in it. -/
theorem written_is_recognised :
    (∀ package imports fragments, Go.Marker.isGenerated
      (Assembly.source Assembly.header package imports fragments).toList = true) ∧
    ∀ (p : Plan) (ws : Workspace) (dir : Path) (r : Result), p.format = Formatter.check →
      let written := directory p false ws dir
      let output := p.outputFile dir
      written.result = .ok r → 0 < r.bindings →
      ∀ later : Workspace, later.Proper → later.read output = written.workspace.read output →
        ∃ l, later.locate output = .ok l ∧
          (∀ (q : Plan) (scan : Go.Package.Scan), q.outputName = p.outputName →
            Go.Package.scan later dir q.outputName = .ok scan → bindingsOf q later scan = .ok [] →
            let again := directory q false later dir
            again.result = .ok { directory := dir } ∧
              again.workspace = { later with tree := later.tree.erase l } ∧
              again.workspace.isFile output = .ok false ∧ Notice.removed output ∈ again.notices) ∧
          ∀ (d : Path) (out : String),
            Go.Package.scan later d out =
              Go.Package.scan { later with tree := later.tree.erase l } d out ∧
            ∀ s, Go.Package.scan later d out = .ok s → ∀ x ∈ s.declarations, x.file ≠ output := by
  refine ⟨Assembly.isGenerated_source, ?_⟩
  intro p ws dir r hcheck written output hr hpos later hlater hread
  obtain ⟨l, hl, hgenerated⟩ := exists_holdsGenerated hcheck hr hpos hread
  refine ⟨l, hl, ?_, fun d out => ⟨(Go.Package.scan_erase hlater hgenerated d out).symm, ?_⟩⟩
  · intro q scan hname hscan hnone again
    have houtput : q.outputFile dir = p.outputFile dir := by
      rw [Plan.outputFile, Plan.outputFile, hname]
    have hremove : Output.removeStale later (q.outputFile dir) = _ :=
      houtput ▸ removeStale_of_holdsGenerated hlater hl hgenerated
    have hagain : again = _ := directory_of_removeStale hscan hnone hremove
    rw [hagain, houtput]
    exact ⟨rfl, rfl, hgenerated.isFile_erase hl, by simp [output]⟩
  · intro s hs x hx hfile
    obtain ⟨cs, hsource, hgen⟩ := Go.Package.not_isGenerated_of_mem_declarations hlater hs hx
    obtain ⟨cs', hsource', hgen'⟩ := hgenerated.readSource hl
    rw [hfile, hsource'] at hsource
    obtain rfl := Except.ok.inj hsource
    exact absurd (hgen'.symm.trans hgen) (by decide)

/-- The sample after its file was written and its template deleted. -/
def orphanedWorkspace : Workspace where
  tree := ⟨[(["p"], .directory),
    (["p", "a.go"], .file (Text.Utf8.encode "package p\ntype A struct\x7bT\x7d\n".toList)),
    (["p", "embedgen_gen.go"], .file (Text.Utf8.encode
      "// Code generated by embedgen. DO NOT EDIT.\n\npackage p\n\nfunc f() \x7b\x7d\n".toList))]⟩
  here := []

/-- What a scan of the sample finds. -/
def orphanedScan : Go.Package.Scan where
  directory := ⟨.relative, ["p"]⟩
  package := some "p"
  files := [⟨.relative, ["p", "a.go"]⟩]
  declarations := [⟨"A", "p", Go.Declaration.structKind, [], ["T"], ⟨.relative, ["p", "a.go"]⟩, 2⟩]

private theorem list_orphanedWorkspace :
    orphanedWorkspace.list ⟨.relative, ["p"]⟩ = .ok ["a.go", "embedgen_gen.go"] :=
  Workspace.list_of_pairwise (by decide +kernel) rfl rfl (by decide)

/-- Without the template, the file of the sample is removed, and it is never a source. -/
theorem written_is_recognised_orphanedWorkspace :
    let dir : Path := ⟨.relative, ["p"]⟩
    let written := directory samplePlan false sampleWorkspace dir
    let output := samplePlan.outputFile dir
    let again := directory samplePlan false orphanedWorkspace dir
    written.result = .ok sampleResult ∧ 0 < sampleResult.bindings ∧ orphanedWorkspace.Proper ∧
      orphanedWorkspace.read output = written.workspace.read output ∧
      Go.Package.scan orphanedWorkspace dir samplePlan.outputName = .ok orphanedScan ∧
      bindingsOf samplePlan orphanedWorkspace orphanedScan = .ok [] ∧
      orphanedWorkspace.isFile output = .ok true ∧
      again.result = .ok { directory := dir } ∧ again.workspace.isFile output = .ok false ∧
      ∀ s, Go.Package.scan orphanedWorkspace dir "other.go" = .ok s →
        ∀ x ∈ s.declarations, x.file ≠ output := by
  intro dir written output again
  have hr : written.result = .ok sampleResult := result_sampleWorkspace false
  have hpos : 0 < sampleResult.bindings := by decide
  have hw : orphanedWorkspace.Proper := by decide +kernel
  have hread : orphanedWorkspace.read output = written.workspace.read output := by
    obtain ⟨source, hsource, hwritten⟩ := read_outputFile hr hpos
    obtain rfl := Option.some.inj hsource
    exact hwritten.symm ▸ rfl
  have hscan : Go.Package.scan orphanedWorkspace dir samplePlan.outputName = .ok orphanedScan := by
    rw [Go.Package.scan_eq, Go.Package.sourceFiles, list_orphanedWorkspace]
    decide +kernel
  have hnone : bindingsOf samplePlan orphanedWorkspace orphanedScan = .ok [] := by
    rfl
  obtain ⟨-, hlater⟩ := written_is_recognised
  obtain ⟨l, hl, hagain, hscans⟩ :=
    hlater samplePlan sampleWorkspace dir sampleResult rfl hr hpos orphanedWorkspace hw hread
  obtain ⟨hresult, -, hgone, -⟩ := hagain samplePlan orphanedScan rfl hscan hnone
  exact ⟨hr, hpos, hw, hread, hscan, hnone, by decide +kernel, hresult, hgone,
    (hscans dir "other.go").2⟩

end Generation

end TypeWeave
