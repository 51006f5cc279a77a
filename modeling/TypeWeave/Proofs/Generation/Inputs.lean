import TypeWeave.Proofs.Generation.Repetition

/-!
# Inputs and output stay apart

What generation for a directory reads are its source files and the template files of the names that
their declarations embed. The output is never a source file. With a suffix without a slash the
template files lie directly in the directory, and the output is one of them only when an embedded
name asks for it; with a slash they may lie anywhere. A link lies where it stands, wherever it
leads. Main statements: `readsTemplate_iff`, `readsTemplate_iff_exists_binding` and
`keepsApart_iff`.
-/

namespace TypeWeave.Generation

open File (Workspace Path Location)
open Template (Catalog)

/-- Places of source files that generation for a directory scans. -/
def Plan.ScansSource (p : Plan) (ws : Workspace) (dir : Path) (l : Location) : Prop :=
  ∃ files, Go.Package.sourceFiles ws dir p.outputName = .ok files ∧
    ∃ file ∈ files, ws.locate file = .ok l

/-- Names that are embedded in the declarations of a directory. -/
def Plan.Embeds (p : Plan) (ws : Workspace) (dir : Path) (name : String) : Prop :=
  ∃ scan, Go.Package.scan ws dir p.outputName = .ok scan ∧
    ∃ d ∈ scan.declarations, name ∈ d.embedded

/-- Places of template files that generation for a directory reads. -/
def Plan.ReadsTemplate (p : Plan) (ws : Workspace) (dir : Path) (l : Location) : Prop :=
  ∃ scan, Go.Package.scan ws dir p.outputName = .ok scan ∧
    ∃ d ∈ scan.declarations, ∃ name ∈ d.embedded, ∃ bytes,
      ws.locate (Catalog.templatePath p.templateSuffix (ws.resolve d.directory) name) = .ok l ∧
        ws.tree.look l = .ok (.file bytes)

/-- Templates are read from the directory alone, and the output is none of what is read. -/
structure Plan.KeepsApart (p : Plan) (ws : Workspace) (dir : Path) : Prop where
  beside : ∀ l, p.ReadsTemplate ws dir l → ∃ k n, ws.locate dir = .ok k ∧ l = k ++ [n]
  source : ∀ l, ws.locate (p.outputFile dir) = .ok l → ¬p.ScansSource ws dir l
  template : ∀ l, ws.locate (p.outputFile dir) = .ok l → ¬p.ReadsTemplate ws dir l

section Inputs

variable {p : Plan} {ws : Workspace} {dir : Path} {l : Location}

/-- No embedded name has the output for its template file. -/
theorem Plan.outputUnnamed_iff :
    p.OutputUnnamed ws dir ↔ ∀ name, p.Embeds ws dir name →
      name ++ p.templateSuffix ≠ p.outputName :=
  ⟨fun h name ⟨scan, hscan, d, hd, hname⟩ => h scan hscan d hd name hname,
    fun h scan hscan d hd name hname => h name ⟨scan, hscan, d, hd, hname⟩⟩

/-- Template files are looked for in the directory itself. -/
theorem readsTemplate_iff_exists_embeds (hw : ws.Proper) :
    p.ReadsTemplate ws dir l ↔ ∃ name bytes, p.Embeds ws dir name ∧
      ws.locate (Catalog.templatePath p.templateSuffix dir name) = .ok l ∧
        ws.tree.look l = .ok (.file bytes) := by
  have hsame {scan : Go.Package.Scan} (hscan : Go.Package.scan ws dir p.outputName = .ok scan)
      {d : Go.Declaration} (hd : d ∈ scan.declarations) (name : String) :
      ws.locate (Catalog.templatePath p.templateSuffix (ws.resolve d.directory) name) =
        ws.locate (Catalog.templatePath p.templateSuffix dir name) := by
    obtain ⟨found, hscanned, hdecls, -⟩ := Go.Package.scan_eq_ok hw hscan
    obtain ⟨x, hx, -, -, hdir, -⟩ := hscanned.of_mem_declarations (hdecls ▸ hd)
    obtain ⟨k, hk, hkdir⟩ := exists_locate_of_scanned hw hscanned (List.ne_nil_of_mem hx)
    rw [hdir, Catalog.templatePath, hw.locate_resolve_join hk hkdir]
    rfl
  constructor
  · rintro ⟨scan, hscan, d, hd, name, hname, bytes, hl, hfile⟩
    exact ⟨name, bytes, ⟨scan, hscan, d, hd, hname⟩, hsame hscan hd name ▸ hl, hfile⟩
  · rintro ⟨name, bytes, ⟨scan, hscan, d, hd, hname⟩, hl, hfile⟩
    exact ⟨scan, hscan, d, hd, name, hname, bytes, (hsame hscan hd name).trans hl, hfile⟩

/-- With a suffix without a slash, the templates that are read are the files of the directory that
have the name of an embedded type before the suffix. -/
theorem readsTemplate_iff (hp : p.Accepted) (hw : ws.Proper)
    (hslash : '/' ∉ p.templateSuffix.toList) :
    p.ReadsTemplate ws dir l ↔ ∃ k name bytes, p.Embeds ws dir name ∧ ws.locate dir = .ok k ∧
      l = k ++ [name ++ p.templateSuffix] ∧ ws.tree.look l = .ok (.file bytes) := by
  rw [readsTemplate_iff_exists_embeds hw]
  have hchild {name : String} (h : p.Embeds ws dir name) :
      File.IsPlain (name ++ p.templateSuffix) ∧ name ++ p.templateSuffix ≠ ".." := by
    obtain ⟨scan, hscan, d, hd, hname⟩ := h
    obtain ⟨found, hscanned, hdecls, -⟩ := Go.Package.scan_eq_ok hw hscan
    obtain ⟨-, -, -, -, -, hnames⟩ := hscanned.of_mem_declarations (hdecls ▸ hd)
    exact hp.isPlain_template hslash (hnames name hname)
  constructor
  · rintro ⟨name, bytes, hembeds, hl, hfile⟩
    obtain ⟨hplain, hdots⟩ := hchild hembeds
    obtain ⟨k, hk, -, -, rfl⟩ := (Workspace.locate_child_eq_ok hplain hdots).1 hl
    exact ⟨k, name, bytes, hembeds, hk, rfl, hfile⟩
  · rintro ⟨k, name, bytes, hembeds, hk, rfl, hfile⟩
    exact ⟨name, bytes, hembeds, (hw.locate_child_of_look hk hfile).2, hfile⟩

/-- The templates that are read are those of the bindings, if all can be loaded. -/
theorem readsTemplate_iff_exists_binding (hw : ws.Proper) {scan : Go.Package.Scan}
    (hscan : Go.Package.scan ws dir p.outputName = .ok scan) {bs : List Binding}
    (hbs : bindingsOf p ws scan = .ok bs) :
    p.ReadsTemplate ws dir l ↔ ∃ b ∈ bs, ws.locate b.template.path = .ok l := by
  have hfresh := map_bindingsOf p ws scan
  rw [hbs] at hfresh
  have hresolve : ∀ d ∈ scan.declarations, ws.resolve d.directory = ws.resolve dir := by
    obtain ⟨found, hscanned, hdecls, -⟩ := Go.Package.scan_eq_ok hw hscan
    intro d hd
    obtain ⟨-, -, -, -, hdir, -⟩ := hscanned.of_mem_declarations (hdecls ▸ hd)
    rw [hdir]
  have hall := Binding.ofDeclarationsAfresh_eq_ok hresolve hfresh.symm
  have hpaths := Binding.map_path_of_forall₂ hall
  rw [List.map_map] at hpaths
  change bs.map (fun b => b.template.path) = _ at hpaths
  constructor
  · rintro ⟨scan', hscan', d, hd, name, hname, bytes, hl, hfile⟩
    obtain rfl := Except.ok.inj (hscan.symm.trans hscan')
    rw [hresolve d hd] at hl
    have hx := Binding.mem_requested.2
      ⟨hd, hname, hw.isFile_eq_true_iff.2 ⟨l, bytes, hl, hfile⟩⟩
    obtain ⟨b, hb, hpath⟩ := List.mem_map.1 (hpaths ▸ List.mem_map_of_mem hx)
    exact ⟨b, hb, hpath ▸ hl⟩
  · rintro ⟨b, hb, hl⟩
    obtain ⟨⟨d, name⟩, hx, hpath⟩ :=
      List.mem_map.1 (hpaths ▸ List.mem_map_of_mem (f := fun b : Binding => b.template.path) hb)
    obtain ⟨hd, hname, hregular⟩ := Binding.mem_requested.1 hx
    obtain ⟨l', bytes, hl', hfile⟩ := hw.isFile_eq_true_iff.1 hregular
    obtain rfl := Except.ok.inj (hl'.symm.trans (hpath ▸ hl))
    exact ⟨scan, hscan, d, hd, name, hname, bytes, by rw [hresolve d hd]; exact hl', hfile⟩

/-- The output is no source file. -/
theorem not_scansSource (hp : p.Accepted) (hw : ws.Proper)
    (hl : ws.locate (p.outputFile dir) = .ok l) : ¬p.ScansSource ws dir l := by
  rintro ⟨files, hfiles, file, hfile, hlocate⟩
  obtain ⟨names, rfl, -, hnames⟩ := Go.Package.sourceFiles_eq_ok hw hfiles
  obtain ⟨n, hn, rfl⟩ := List.mem_map.1 hfile
  obtain ⟨hname, hsource, -⟩ := (hnames n).1 hn
  obtain ⟨k, -, -, -, rfl⟩ :=
    (Workspace.locate_child_eq_ok hname.toIsPlain hname.ne_dots).1 hlocate
  obtain ⟨-, -, -, -, hout⟩ := hp.isOutput hl
  rw [hout.isSource_eq_false List.getLast?_concat] at hsource
  cases hsource

/-- Generation changes a file tree at most where the output goes, which is the place of no source
file. With a suffix without a slash inputs and output stay apart, unless there is a file where the
output goes that an embedded name asks for as its template. -/
theorem keepsApart_iff (hp : p.Accepted) (hw : ws.Proper) (dir : Path) (dryRun : Bool) :
    (∀ l, (directory p dryRun ws dir).workspace.tree.get? l ≠ ws.tree.get? l →
        ws.locate (p.outputFile dir) = .ok l) ∧
      (∀ l, ws.locate (p.outputFile dir) = .ok l → ¬p.ScansSource ws dir l) ∧
      ('/' ∉ p.templateSuffix.toList → (p.KeepsApart ws dir ↔
        ∀ l bytes, ws.locate (p.outputFile dir) = .ok l → ws.tree.look l = .ok (.file bytes) →
          p.OutputUnnamed ws dir)) := by
  refine ⟨fun l hne => ?_, fun l hl => not_scansSource hp hw hl, fun hslash => ⟨?_, ?_⟩⟩
  · by_contra hl
    exact hne ((sameBut_directory p dryRun ws dir).get?_eq hl).symm
  · intro h l bytes hl hfile
    rw [Plan.outputUnnamed_iff]
    intro name hembeds hname
    obtain ⟨k, hk, -, rfl, -⟩ := hp.isOutput hl
    exact h.template _ hl ((readsTemplate_iff hp hw hslash).2
      ⟨k, name, bytes, hembeds, hk, by rw [hname], hfile⟩)
  · intro h
    refine ⟨fun l hreads => ?_, fun l hl => not_scansSource hp hw hl, fun l hl hreads => ?_⟩
    · obtain ⟨k, name, -, -, hk, rfl, -⟩ := (readsTemplate_iff hp hw hslash).1 hreads
      exact ⟨k, _, hk, rfl⟩
    · obtain ⟨k, name, bytes, hembeds, -, rfl, hfile⟩ := (readsTemplate_iff hp hw hslash).1 hreads
      obtain ⟨-, -, -, -, hout⟩ := hp.isOutput hl
      have hname : name ++ p.templateSuffix = p.outputName := by simpa [Plan.IsOutput] using hout
      exact Plan.outputUnnamed_iff.1 (h _ bytes hl hfile) name hembeds hname

/-- In the sample inputs and output stay apart, also when an old output is there. -/
theorem keepsApart_sampleWorkspace :
    let dir : Path := ⟨.relative, ["p"]⟩
    let out : Location := ["p", "embedgen_gen.go"]
    let ws : Workspace := { sampleWorkspace with tree := sampleWorkspace.tree.set out (.file []) }
    samplePlan.Accepted ∧ ws.Proper ∧ '/' ∉ samplePlan.templateSuffix.toList ∧
      ws.locate (samplePlan.outputFile dir) = .ok out ∧ ¬samplePlan.ScansSource ws dir out ∧
      samplePlan.KeepsApart ws dir := by
  intro dir out ws
  have hw : ws.Proper := by decide +kernel
  have hslash : '/' ∉ samplePlan.templateSuffix.toList := by decide
  have hout : ws.locate (samplePlan.outputFile dir) = .ok out := by decide +kernel
  obtain ⟨-, hsource, hiff⟩ := keepsApart_iff accepted_samplePlan hw dir false
  exact ⟨accepted_samplePlan, hw, hslash, hout, hsource out hout,
    (hiff hslash).2 fun _ _ _ _ => outputUnnamed_samplePlan ws dir⟩

/-- A directory with an embedded type whose template lies in another directory. -/
def strayWorkspace : Workspace where
  tree := ⟨[(["p"], .directory),
    (["p", "T."], .directory),
    (["p", "a.go"], .file (Text.Utf8.encode "package p\ntype A struct\x7bT\x7d\n".toList)),
    (["q"], .directory),
    (["q", "x.tmpl"], .file (Text.Utf8.encode "// elsewhere\n".toList))]⟩
  here := []

/-- With a suffix with a slash a template is read that does not lie in the directory. -/
theorem not_keepsApart_strayWorkspace :
    let s : Settings := { formatter := "check", templateSuffix := "./../../q/x.tmpl" }
    let dir : Path := ⟨.relative, ["p"]⟩
    ∃ p r, s.Accepted ∧ Plan.ofSettings (fun _ _ => .error .notFound) s = .ok p ∧
      strayWorkspace.Proper ∧ (directory p false strayWorkspace dir).result = .ok r ∧
      r.bindings = 1 ∧ p.ReadsTemplate strayWorkspace dir ["q", "x.tmpl"] ∧
      ¬p.KeepsApart strayWorkspace dir := by
  intro s dir
  let p : Plan := {
    outputName := s.outputName
    templateSuffix := s.templateSuffix
    format := Formatter.check
    writer := {} }
  let r : Result := {
    directory := dir
    outputFile := some ⟨.relative, ["p", "embedgen_gen.go"]⟩
    bindings := 1
    source := some "// Code generated by embedgen. DO NOT EDIT.\n\npackage p\n\n// elsewhere\n" }
  have hs : s.Accepted := ⟨Settings.checkOutputName_eq_ok.2 (by decide +kernel),
    Settings.checkTemplateSuffix_eq_ok.2 (by decide +kernel), rfl, rfl, rfl, by decide +kernel⟩
  have hlist : strayWorkspace.list dir = .ok ["T.", "a.go"] :=
    Workspace.list_of_pairwise (by decide +kernel) rfl rfl (by decide)
  let d : Go.Declaration :=
    ⟨"A", "p", Go.Declaration.structKind, [], ["T"], ⟨.relative, ["p", "a.go"]⟩, 2⟩
  have hscan : Go.Package.scan strayWorkspace dir p.outputName =
      .ok ⟨dir, some "p", [⟨.relative, ["p", "a.go"]⟩], [d]⟩ := by
    rw [Go.Package.scan_eq, Go.Package.sourceFiles, hlist]
    decide +kernel
  have hresult : (directory p false strayWorkspace dir).result = .ok r := by
    unfold directory
    rw [hscan]
    decide +kernel
  have hreads : p.ReadsTemplate strayWorkspace dir ["q", "x.tmpl"] :=
    ⟨_, hscan, d, List.mem_singleton_self d, "T", by decide, _, by decide +kernel, rfl⟩
  refine ⟨p, r, hs, rfl, by decide +kernel, hresult, rfl, hreads, fun h => ?_⟩
  obtain ⟨k, n, hk, heq⟩ := h.beside _ hreads
  have hp : strayWorkspace.locate dir = .ok ["p"] := by decide +kernel
  obtain rfl := Except.ok.inj (hp.symm.trans hk)
  simp at heq

end Inputs

end TypeWeave.Generation
