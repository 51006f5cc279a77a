import TypeWeave.Generation.Plan
import TypeWeave.Proofs.Assembly
import TypeWeave.Proofs.Binding
import TypeWeave.Proofs.Generation.Effect
import TypeWeave.Proofs.Go.Package

/-!
# What a generated file means

The file that is generated for a directory is told by the directory alone: by its source files in
order of their names, the template files beside them, and what the templates render to. Main
statements: `draft_eq`, by which drafts need no catalog, and `directory_meaning`.
-/

namespace TypeWeave

namespace Generation

open File (Workspace Path)
open Template (Catalog Rendering)

/-- The draft that comes of some bindings. -/
def draftOf (p : Plan) (scan : Go.Package.Scan) (bindings : List Binding) :
    Except Failure (Option Draft) := do
  if bindings.isEmpty then return none
  let (fragments, imports) ← Binding.renderAll Imports.empty bindings
  let source := Assembly.source Assembly.header (scan.package.getD "") imports.paths fragments
  return some ⟨bindings.length, imports.paths, ← p.format source⟩

/-- A draft does not depend on the numbers of templates. -/
theorem draftOf_forget (p : Plan) (scan : Go.Package.Scan) (bindings : List Binding) :
    draftOf p scan (bindings.map Binding.forget) = draftOf p scan bindings := by
  unfold draftOf
  rw [Binding.renderAll_forget, List.isEmpty_map, List.length_map]

/-- The bindings there are, with or without a catalog. -/
theorem map_bindingsOf (p : Plan) (ws : Workspace) (scan : Go.Package.Scan) :
    (bindingsOf p ws scan).map (List.map Binding.forget) =
      Binding.ofDeclarationsAfresh ws p.templateSuffix scan.declarations :=
  (Binding.forgets_ofDeclarations scan.declarations _
    (Template.Catalog.coherent_empty ws p.templateSuffix)).1

/-- A draft is what comes of the bindings there are, with or without a catalog. -/
theorem draft_eq (p : Plan) (ws : Workspace) (scan : Go.Package.Scan) :
    draft p ws scan = (Binding.ofDeclarationsAfresh ws p.templateSuffix scan.declarations).bind
      (draftOf p scan) := by
  change (bindingsOf p ws scan).bind (draftOf p scan) = _
  rw [← map_bindingsOf]
  cases bindingsOf p ws scan with
  | error f => rfl
  | ok bindings => exact (draftOf_forget p scan bindings).symm

/-- A draft has a package, the texts of bindings and their imports, as the formatter gives them. -/
theorem draftOf_eq_ok {p : Plan} {scan : Go.Package.Scan} {bindings : List Binding} {d : Draft}
    (h : draftOf p scan bindings = .ok (some d)) :
    bindings ≠ [] ∧ ∃ fragments imports,
      Binding.renderAll Imports.empty bindings = .ok (fragments, imports) ∧
      p.format (Assembly.source Assembly.header (scan.package.getD "") imports.paths fragments) =
        .ok d.source ∧
      d.bindings = bindings.length ∧ d.imports = imports.paths := by
  unfold draftOf at h
  split at h
  · cases h
  · rename_i hne
    obtain ⟨⟨fragments, imports⟩, hrender, h⟩ := Except.bind_eq_ok.1 h
    obtain ⟨text, hformat, h⟩ := Except.bind_eq_ok.1 h
    cases h
    exact ⟨by simpa using hne, fragments, imports, hrender, hformat, rfl, rfl⟩

/-- A draft comes of declarations. -/
theorem declarations_ne_nil_of_draft {p : Plan} {ws : Workspace} {scan : Go.Package.Scan}
    {d : Draft} (h : draft p ws scan = .ok (some d)) : scan.declarations ≠ [] := by
  intro hnil
  rw [draft_eq, hnil] at h
  obtain ⟨bindings, hbindings, h⟩ := Except.bind_eq_ok.1 h
  obtain rfl : [] = bindings := Except.ok.inj hbindings
  exact (draftOf_eq_ok h).1 rfl

/-- What the template file of an embedded name renders to for a declaration, with the paths that it
asks to import. Every request is for a path. -/
structure RendersTo (ws : Workspace) (suffix : String) (dir : Path) (x : Go.Declaration × String)
    (rd : Rendering × List String) : Prop where
  rendered : ∃ bytes text compiled, ws.read (Catalog.templatePath suffix dir x.2) = .ok bytes ∧
    Text.Utf8.decode bytes = .ok text ∧
    Template.compile (String.ofList (Text.normalizeNewlines text)) = .ok compiled ∧
    compiled.render x.1 x.2 = .ok rd.1
  paths : rd.1.imports.map Imports.pathOf? = rd.2.map some

/-- The rendering of a binding is that of the template file of the name. -/
theorem rendersTo_of_binding {ws : Workspace} {suffix : String} {dir : Path}
    {x : Go.Declaration × String} {b : Binding} {rd : Rendering × List String}
    (hb : Binding.Of ws suffix dir x b) (h : Binding.Rendered b rd.1 rd.2) :
    RendersTo ws suffix dir x rd := by
  refine ⟨?_, h.paths⟩
  obtain ⟨hdecl, ht⟩ := hb
  unfold Catalog.loadAfresh at ht
  split at ht
  · cases ht
  · rename_i bytes hread
    split at ht
    · cases ht
    · rename_i text htext
      split at ht
      · cases ht
      · rename_i compiled hcompiled
        have hrender := h.render
        rw [← Except.ok.inj ht, hdecl] at hrender
        exact ⟨bytes, text, compiled, hread, htext, hcompiled, hrender⟩

/-- A directory with a source file is one. -/
theorem exists_locate_of_scanned {ws : Workspace} (hw : ws.Proper) {dir : Path} {out : String}
    {found : List (String × Go.Extraction.Contents)} (h : Go.Package.Scanned ws dir out found)
    (hne : found ≠ []) : ∃ l, ws.locate dir = .ok l ∧ ws.tree.get? l = some .directory := by
  obtain ⟨⟨n, c⟩, hx⟩ := List.exists_mem_of_ne_nil found hne
  obtain ⟨hn, -, hfile, -⟩ := (h.mem_iff n c).1 hx
  obtain ⟨l, bytes, hl, -⟩ := hw.isFile_eq_true_iff.1 hfile
  obtain ⟨k, hk, hdir, -⟩ := (Workspace.locate_child_eq_ok hn.toIsPlain hn.ne_dots).1 hl
  exact ⟨k, hk, hdir⟩

/-- Templates are looked for by the absolute path of a directory, which is as good as any path of
it. -/
theorem requested_resolve {ws : Workspace} (hw : ws.Proper) {dir : Path} {l : File.Location}
    (hl : ws.locate dir = .ok l) (hd : ws.tree.get? l = some .directory) (suffix : String)
    (ds : List Go.Declaration) :
    Binding.requested ws suffix (ws.resolve dir) ds = Binding.requested ws suffix dir ds := by
  have hhas : Binding.hasTemplate ws suffix (ws.resolve dir) =
      Binding.hasTemplate ws suffix dir := by
    funext name
    rw [Bool.eq_iff_iff, Binding.hasTemplate_iff, Binding.hasTemplate_iff]
    exact hw.test_resolve_join hl hd _ _ true
  unfold Binding.requested
  rw [hhas]

/-- A template file below the absolute path of a directory renders to what it does below any path of
the directory. -/
theorem rendersTo_resolve {ws : Workspace} (hw : ws.Proper) {dir : Path} {l : File.Location}
    (hl : ws.locate dir = .ok l) (hd : ws.tree.get? l = some .directory) {suffix : String}
    {x : Go.Declaration × String} {rd : Rendering × List String}
    (h : RendersTo ws suffix (ws.resolve dir) x rd) : RendersTo ws suffix dir x rd := by
  obtain ⟨⟨bytes, text, compiled, hread, hrest⟩, hpaths⟩ := h
  exact ⟨⟨bytes, text, compiled, (hw.read_resolve_join hl hd _ bytes).1 hread, hrest⟩, hpaths⟩

/-- Items that go with items that go with items. -/
private theorem forall₂_through {α β γ : Type} {R : α → β → Prop} {S : β → γ → Prop}
    {T : α → γ → Prop} (h : ∀ a b c, R a b → S b c → T a c) {as : List α} {bs : List β}
    {cs : List γ} (hab : List.Forall₂ R as bs) (hbc : List.Forall₂ S bs cs) :
    List.Forall₂ T as cs := by
  induction hab generalizing cs with
  | nil =>
    cases hbc
    exact .nil
  | cons hr _ ih =>
    cases hbc with
    | cons hs hbc => exact .cons (h _ _ _ hr hs) (ih hbc)

/-- The plan of settings with the syntax check. -/
theorem ofSettings_eq_ok {run : Command.Runner} {s : Settings} {p : Plan}
    (hcheck : s.formatter = Formatter.checkName) (h : Plan.ofSettings run s = .ok p) :
    p.outputName = s.outputName ∧ p.templateSuffix = s.templateSuffix ∧
      p.format = Formatter.check := by
  obtain ⟨formatter, hf, h⟩ := Except.bind_eq_ok.1 h
  rw [hcheck] at hf
  obtain rfl : Formatter.syntaxCheck = formatter := Except.ok.inj hf
  cases h
  exact ⟨rfl, rfl, rfl⟩

/-- With the syntax check, a result with bindings says what was asked for in the directory. Its
source is the assembly of what the template files of the embedded names render to: for each
declaration of the source files in order of their names, and each of its embedded names that has a
template file beside it, in order of first appearance. There are as many bindings as renderings; the
imports are the paths that these ask for, in strictly increasing order; and the package is that of
every declaration. -/
theorem directory_meaning {run : Command.Runner} {s : Settings} {p : Plan} {dryRun : Bool}
    {ws : Workspace} {dir : Path} {r : Result} (hcheck : s.formatter = Formatter.checkName)
    (hp : Plan.ofSettings run s = .ok p) (hw : ws.Proper)
    (hr : (directory p dryRun ws dir).result = .ok r) (hpos : 0 < r.bindings) :
    ∃ found package renders,
      Go.Package.Scanned ws dir s.outputName found ∧
      List.Forall₂ (RendersTo ws s.templateSuffix dir)
        (Binding.requested ws s.templateSuffix dir (Go.Package.declarationsOf found)) renders ∧
      r.source = some (Assembly.source Assembly.header package r.imports
        (renders.map fun rd => rd.1.text)) ∧
      r.bindings = renders.length ∧
      r.imports.Pairwise (· < ·) ∧
      (∀ path, path ∈ r.imports ↔ ∃ rd ∈ renders, path ∈ rd.2) ∧
      ∀ d ∈ Go.Package.declarationsOf found, d.package = package := by
  obtain ⟨hname, hsuffix, hformat⟩ := ofSettings_eq_ok hcheck hp
  rw [(directory_eq p dryRun ws dir).1, Except.map_eq_ok] at hr
  obtain ⟨⟨r', c⟩, hverdict, rfl⟩ := hr
  obtain ⟨drafted?, hdrafted, rfl, -⟩ := verdict_eq_ok hverdict
  obtain ⟨d, rfl⟩ := Option.ne_none_iff_exists'.1
    (mt (bindings_resultFor hdrafted).2 hpos.ne')
  obtain ⟨scan, hscan, hdraft⟩ := Except.bind_eq_ok.1 hdrafted
  have hne := declarations_ne_nil_of_draft hdraft
  rw [draft_eq] at hdraft
  obtain ⟨bindings, hbindings, hdraft⟩ := Except.bind_eq_ok.1 hdraft
  obtain ⟨-, fragments, imports, hrender, hsource, hcount, himports⟩ := draftOf_eq_ok hdraft
  obtain ⟨found, hscanned, hdecls, hpackage⟩ := Go.Package.scan_eq_ok hw hscan
  rw [hdecls] at hbindings
  have hinside : ∀ d ∈ Go.Package.declarationsOf found,
      ws.resolve d.directory = ws.resolve dir := by
    intro d hd
    obtain ⟨-, -, -, -, hdir, -⟩ := hscanned.of_mem_declarations hd
    rw [hdir]
  have hof := Binding.ofDeclarationsAfresh_eq_ok hinside hbindings
  obtain ⟨renders, hrenders, rfl, hordered, hmem⟩ := Binding.renderAll_eq_ok hrender
  have hfound : found ≠ [] := by
    rintro rfl
    exact hne hdecls
  obtain ⟨l, hl, hdir⟩ := exists_locate_of_scanned hw hscanned hfound
  obtain ⟨x, hx⟩ := List.exists_mem_of_ne_nil found hfound
  have hx := hpackage x hx
  rw [hx, hformat] at hsource
  refine ⟨found, x.2.package, renders, hname ▸ hscanned, ?_, ?_, ?_, ?_, ?_, ?_⟩
  · rw [← hsuffix, ← requested_resolve hw hl hdir]
    refine forall₂_through (fun x b rd hb hrd => ?_) hof hrenders
    exact rendersTo_resolve hw hl hdir (rendersTo_of_binding hb hrd)
  · have htext := Formatter.eq_of_check (Assembly.endsWith_source ..) hsource
    simp only [resultFor, Draft.result, htext, himports, Option.getD_some]
  · simpa [resultFor, Draft.result, hcount] using hrenders.length_eq
  · change d.imports.Pairwise (· < ·)
    rw [himports]
    exact hordered Imports.ordered_empty
  · intro path
    simpa [resultFor, Draft.result, himports, Imports.empty] using hmem path
  · intro d hd
    obtain ⟨y, hy, -, hd, -⟩ := hscanned.of_mem_declarations hd
    exact hd.trans (Option.some.inj ((hpackage y hy).symm.trans hx))

/-- A directory with a source file and a template beside it. -/
def sampleWorkspace : Workspace where
  tree := ⟨[(["p"], .directory),
    (["p", "T.tmpl"], .file (Text.Utf8.encode "func f() \x7b\x7d\n".toList)),
    (["p", "a.go"], .file (Text.Utf8.encode "package p\ntype A struct\x7bT\x7d\n".toList))]⟩
  here := []

private theorem list_sampleWorkspace :
    sampleWorkspace.list ⟨.relative, ["p"]⟩ = .ok ["T.tmpl", "a.go"] :=
  Workspace.list_of_pairwise (by decide +kernel) rfl rfl (by decide)

/-- The plan of settings that ask for the syntax check. -/
def samplePlan : Plan where
  outputName := "embedgen_gen.go"
  templateSuffix := ".tmpl"
  format := Formatter.check
  writer := {}

/-- What generation for the sample comes to. -/
def sampleResult : Result where
  directory := ⟨.relative, ["p"]⟩
  outputFile := some ⟨.relative, ["p", "embedgen_gen.go"]⟩
  bindings := 1
  source := some "// Code generated by embedgen. DO NOT EDIT.\n\npackage p\n\nfunc f() \x7b\x7d\n"

/-- Generation for the sample succeeds. -/
theorem result_sampleWorkspace (dryRun : Bool) :
    (directory samplePlan dryRun sampleWorkspace ⟨.relative, ["p"]⟩).result = .ok sampleResult := by
  unfold directory
  rw [Go.Package.scan_eq, Go.Package.sourceFiles, list_sampleWorkspace]
  cases dryRun <;> decide +kernel

/-- The meaning of what is generated for the sample: its one declaration is bound to its one
template. -/
theorem directory_meaning_sampleWorkspace :
    let s : Settings := { formatter := "check" }
    let dir : Path := ⟨.relative, ["p"]⟩
    let p := samplePlan
    let r := sampleResult
    s.formatter = Formatter.checkName ∧
      Plan.ofSettings (fun _ _ => .error .notFound) s = .ok p ∧ sampleWorkspace.Proper ∧
      (directory p true sampleWorkspace dir).result = .ok r ∧ 0 < r.bindings ∧
      ∃ found package renders,
        Go.Package.Scanned sampleWorkspace dir s.outputName found ∧
        List.Forall₂ (RendersTo sampleWorkspace s.templateSuffix dir)
          (Binding.requested sampleWorkspace s.templateSuffix dir
            (Go.Package.declarationsOf found)) renders ∧
        r.source = some (Assembly.source Assembly.header package r.imports
          (renders.map fun rd => rd.1.text)) ∧
        r.bindings = renders.length ∧
        r.imports.Pairwise (· < ·) ∧
        (∀ path, path ∈ r.imports ↔ ∃ rd ∈ renders, path ∈ rd.2) ∧
        ∀ d ∈ Go.Package.declarationsOf found, d.package = package := by
  intro s dir p r
  have hcheck : s.formatter = Formatter.checkName := rfl
  have hp : Plan.ofSettings (fun _ _ => .error .notFound) s = .ok p := rfl
  have hw : sampleWorkspace.Proper := by decide +kernel
  have hpos : 0 < r.bindings := by decide
  have hr := result_sampleWorkspace true
  exact ⟨hcheck, hp, hw, hr, hpos, directory_meaning hcheck hp hw hr hpos⟩

end Generation

end TypeWeave
