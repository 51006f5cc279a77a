import TypeWeave.Generation.Output
import TypeWeave.Proofs.File.LineEnd
import TypeWeave.Proofs.Go.Generated
import TypeWeave.Proofs.Go.LineEnd.Contents
import TypeWeave.Proofs.Go.LineEnd.Marker

/-!
# Scans and line ends

Carriage returns in some files of a directory change what a scan finds, and whether a file from an
earlier run is removed, through the marks of generated files only: a mark with a carriage return
behind it is none. Where no mark is lost a scan finds the same files with the same names in them.
Main statement: `crlfAt_spec`.
-/

namespace TypeWeave

open File
open Text (crlf crlfBytes)

namespace Go.Package

variable {ws : Workspace} {dir : Path} {out : String} {changed : Location → Bool}

/-- A source file of a directory that gets carriage returns, with its text. -/
structure IsChanged (ws : Workspace) (dir : Path) (out : String) (changed : Location → Bool)
    (n : String) (cs : List Char) : Prop where
  isSource : isSource out n = true
  entry : ∃ k l, ws.locate dir = .ok k ∧ ws.tree.follow (k ++ [n]) = .ok l ∧
    ws.tree.get? l = some (.file (Text.Utf8.encode cs)) ∧ changed l = true

/-- Two scans that found the same files, with the same names declared and embedded. -/
structure SameNames (s s' : Scan) : Prop where
  directory : s'.directory = s.directory
  package : s'.package = s.package
  files : s'.files = s.files
  names : s'.declarations.map (fun d => (d.name, d.embedded)) =
    s.declarations.map fun d => (d.name, d.embedded)

/-- The same source files are found. -/
theorem sourceFiles_crlfAt (ws : Workspace) (dir : Path) (out : String) :
    sourceFiles (ws.crlfAt changed) dir out = sourceFiles ws dir out := by
  have hisFile : (ws.crlfAt changed).isFile = ws.isFile := funext ws.isFile_crlfAt
  rw [sourceFiles, ws.list_crlfAt, hisFile, sourceFiles]

/-- What is read of a source file is the same, or it has got carriage returns. -/
theorem exists_readSource_crlfAt (hw : ws.Proper) {n : String} (hn : isSource out n = true)
    {bytes : List UInt8} (hfile : HasFile ws dir n bytes) {cs : List Char}
    (hread : readSource ws (dir.child n) = .ok cs) (changed : Location → Bool) :
    ∃ cs', readSource (ws.crlfAt changed) (dir.child n) = .ok cs' ∧
      (cs' = cs ∨ cs' = crlf cs ∧ IsChanged ws dir out changed n cs) := by
  obtain ⟨k, hk, hlook⟩ := (hfile.readSource_eq_ok_iff hw).1 hread
  obtain ⟨l, hl, -, hfile, -⟩ := Tree.look_eq_ok hlook
  have hk' : (ws.crlfAt changed).locate dir = .ok k := (ws.locate_crlfAt dir).trans hk
  have hl' : (ws.crlfAt changed).tree.follow (k ++ [n]) = .ok l :=
    (ws.tree.follow_crlfAt _).trans hl
  have hget := Workspace.get?_crlfAt_of_file hfile changed
  have hread' {cs' : List Char} (h : (ws.crlfAt changed).tree.get? l =
      some (.file (Text.Utf8.encode cs'))) :
      readSource (ws.crlfAt changed) (dir.child n) = .ok cs' :=
    have hfile' : HasFile (ws.crlfAt changed) dir n (Text.Utf8.encode cs') :=
      ⟨k, hk', Tree.look_of_follow hl' h⟩
    (hfile'.readSource_eq_ok_iff hw.crlfAt).2 hfile'
  by_cases hchanged : changed l = true
  · rw [if_pos hchanged, ← Text.Utf8.encode_crlf] at hget
    exact ⟨crlf cs, hread' hget, .inr ⟨rfl, hn, k, l, hk, hl, hfile, hchanged⟩⟩
  · rw [if_neg hchanged] at hget
    exact ⟨cs, hread' hget, .inl rfl⟩

/-- Changed files keep their marks, and tokens are within their lines. -/
def IsKept (ws : Workspace) (dir : Path) (out : String) (changed : Location → Bool) : Prop :=
  ∀ n cs, IsChanged ws dir out changed n cs → Marker.isGenerated (crlf cs) = Marker.isGenerated cs ∧
    (Marker.isGenerated cs = false → ∀ t ∈ Lexeme.tokens cs, Lexeme.IsSturdy t.text.toList)

/-- One more file comes to the same. -/
theorem exists_scanStep_crlfAt (hw : ws.Proper) (hkept : IsKept ws dir out changed) {n : String}
    (hn : isSource out n = true) (hfile : ∃ bytes, HasFile ws dir n bytes) {s t s' : Scan}
    (h : scanStep ws s (dir.child n) = .ok t) (hs : SameNames s s') :
    ∃ t', scanStep (ws.crlfAt changed) s' (dir.child n) = .ok t' ∧ SameNames t t' := by
  obtain ⟨bytes, hfile⟩ := hfile
  obtain ⟨cs, hread, hcases⟩ := scanStep_cases h
  obtain ⟨cs', hread', hcs'⟩ := exists_readSource_crlfAt hw hn hfile hread changed
  have hgen : Marker.isGenerated cs' = Marker.isGenerated cs := by
    rcases hcs' with rfl | ⟨rfl, hchanged⟩
    · rfl
    · exact (hkept n cs hchanged).1
  rcases hcases with ⟨hg, rfl⟩ | ⟨hg, c, hc, hagree, rfl⟩
  · exact ⟨s', scanStep_of_isGenerated hread' (hgen.trans hg) s', hs⟩
  · obtain ⟨c', hc', hpackage, hnames⟩ : ∃ c', parseFile dir (n, cs') = .ok c' ∧
        c'.package = c.package ∧ c'.declarations.map (fun d => (d.name, d.embedded)) =
          c.declarations.map fun d => (d.name, d.embedded) := by
      rcases hcs' with rfl | ⟨rfl, hchanged⟩
      · exact ⟨c, hc, rfl, rfl⟩
      · exact ⟨c.moved, Extraction.contents_crlf ((hkept n cs hchanged).2 hg) hc,
          Extraction.package_moved hc, Extraction.names_moved hc⟩
    have hadd : scanStep (ws.crlfAt changed) s' (dir.child n) = s'.add (dir.child n) cs' := by
      rw [scanStep, hread']
      exact if_neg (by simp [hgen, hg])
    have hagree' : ∀ package, s'.package = some package → c'.package = package := by
      rw [hs.package, hpackage]
      exact hagree
    refine ⟨_, hadd.trans (Scan.add_of_eq hc' hagree'), ?_⟩
    exact ⟨hs.directory, congrArg some hpackage, congrArg (· ++ _) hs.files,
      by rw [List.map_append, List.map_append, hs.names, hnames]⟩

/-- So do any number of files. -/
theorem exists_foldlM_scanStep_crlfAt (hw : ws.Proper) (hkept : IsKept ws dir out changed)
    {names : List String}
    (hnames : ∀ n ∈ names, isSource out n = true ∧ ∃ bytes, HasFile ws dir n bytes)
    {s t s' : Scan} (h : (names.map dir.child).foldlM (scanStep ws) s = .ok t)
    (hs : SameNames s s') :
    ∃ t', (names.map dir.child).foldlM (scanStep (ws.crlfAt changed)) s' = .ok t' ∧
      SameNames t t' := by
  induction names generalizing s s' with
  | nil =>
    obtain rfl := Except.pure_eq_ok.1 h
    exact ⟨s', rfl, hs⟩
  | cons n names ih =>
    obtain ⟨⟨hsource, hfile⟩, hmore⟩ := List.forall_mem_cons.1 hnames
    rw [List.map_cons, List.foldlM_cons] at h
    obtain ⟨u, hu, h⟩ := Except.bind_eq_ok.1 h
    obtain ⟨u', hu', hsame⟩ := exists_scanStep_crlfAt hw hkept hsource hfile hu hs
    obtain ⟨t', ht', hsame'⟩ := ih hmore h hsame
    refine ⟨t', ?_, hsame'⟩
    rw [List.map_cons, List.foldlM_cons]
    exact Except.bind_eq_ok.2 ⟨u', hu', ht'⟩

/-- A scan finds the same names where changed files keep their marks. -/
theorem exists_scan_crlfAt (hw : ws.Proper) {s : Scan} (hscan : scan ws dir out = .ok s)
    (hkept : IsKept ws dir out changed) :
    ∃ s', scan (ws.crlfAt changed) dir out = .ok s' ∧ SameNames s s' := by
  rw [scan_eq] at hscan
  obtain ⟨files, hfiles, hfold⟩ := Except.bind_eq_ok.1 hscan
  obtain ⟨names, rfl, -, hnames⟩ := sourceFiles_eq_ok hw (Except.mapError_eq_ok.1 hfiles)
  obtain ⟨s', hs', hsame⟩ := exists_foldlM_scanStep_crlfAt hw hkept
    (fun n hn => ⟨((hnames n).1 hn).2.1,
      (exists_hasFile_iff hw).2 ⟨((hnames n).1 hn).1, ((hnames n).1 hn).2.2⟩⟩) hfold
    ⟨rfl, rfl, rfl, rfl⟩
  refine ⟨s', ?_, hsame⟩
  rw [scan_eq, sourceFiles_crlfAt]
  exact Except.bind_eq_ok.2 ⟨_, hfiles, hs'⟩

/-- A file that loses its mark is found where it was not before. -/
theorem isMarkedAtEnd_of_files_eq (hw : ws.Proper) {s s' : Scan} (hscan : scan ws dir out = .ok s)
    (hscan' : scan (ws.crlfAt changed) dir out = .ok s') (hfiles : s'.files = s.files)
    {n : String} {cs : List Char} (hchanged : IsChanged ws dir out changed n cs)
    (hgen : Marker.isGenerated cs = true) : Marker.isMarkedAtEnd cs = true := by
  obtain ⟨hn, k, l, hk, hl, hfile, hplace⟩ := hchanged
  rw [← Marker.isGenerated_crlf]
  by_contra hlost
  have hhas : HasFile ws dir n (Text.Utf8.encode cs) := ⟨k, hk, Tree.look_of_follow hl hfile⟩
  have hhas' : HasFile (ws.crlfAt changed) dir n (Text.Utf8.encode (crlf cs)) := by
    refine ⟨k, (ws.locate_crlfAt dir).trans hk,
      Tree.look_of_follow ((ws.tree.follow_crlfAt _).trans hl) ?_⟩
    rw [Workspace.get?_crlfAt_of_file hfile, if_pos hplace, Text.Utf8.encode_crlf]
  obtain ⟨files, hsources, hmem⟩ := mem_files_of_scan hscan
  obtain ⟨files', hsources', hmem'⟩ := mem_files_of_scan hscan'
  rw [sourceFiles_crlfAt] at hsources'
  obtain rfl := Except.ok.inj (hsources.symm.trans hsources')
  obtain ⟨names, rfl, -, hnames⟩ := sourceFiles_eq_ok hw hsources
  have hlisted : n ∈ names := by
    obtain ⟨hname, hisFile⟩ := (exists_hasFile_iff hw).1 ⟨_, hhas⟩
    exact (hnames n).2 ⟨hname, hn, hisFile⟩
  have hfound : dir.child n ∈ s.files := by
    rw [← hfiles, hmem']
    exact ⟨List.mem_map_of_mem hlisted, crlf cs, (hhas'.readSource_eq_ok_iff hw.crlfAt).2 hhas',
      by simpa using hlost⟩
  obtain ⟨-, text, htext, hgenuine⟩ := (hmem _).1 hfound
  obtain rfl := Except.ok.inj (htext.symm.trans ((hhas.readSource_eq_ok_iff hw).2 hhas))
  rw [hgen] at hgenuine
  cases hgenuine

end Go.Package

namespace Generation.Output

variable {ws : Workspace} {changed : Location → Bool} {target : Path}

/-- What becomes of an output file that nothing asks for. -/
def stale (ws : Workspace) (target : Path) : Except File.Error Stale :=
  (removeStale ws target).map Prod.fst

/-- A regular file is removed if it is marked and stays otherwise. -/
theorem stale_of_file (hw : ws.Proper) {l : Location} {bytes : List UInt8}
    (hl : ws.reach target = .ok l) (hfile : ws.tree.get? l = some (.file bytes)) :
    stale ws target = .ok
      (if Go.Marker.isGenerated (Text.Utf8.decodeLossy bytes) then .removed else .kept) := by
  obtain ⟨k, hk, hfollow⟩ := Workspace.reach_eq_ok_iff.1 hl
  have hlook := Tree.look_of_follow hfollow hfile
  have hisFile : ws.isFile target = .ok true := hw.isFile_eq_true_iff.2 ⟨k, bytes, hk, hlook⟩
  have hread := Workspace.read_of_locate hk hlook
  have hunlink : ws.unlink target = .ok { ws with tree := ws.tree.erase k } :=
    Workspace.unlink_of_look hk hlook
  unfold stale removeStale
  rw [hisFile, hread, hunlink]
  cases h : Go.Marker.isGenerated (Text.Utf8.decodeLossy bytes) <;> simp [bind, Except.bind, h] <;>
    rfl

/-- Carriage returns keep an output file that is marked from being removed, unless its last line
without line end says so. -/
theorem stale_crlfAt_eq_iff (hw : ws.Proper) (target : Path) :
    stale (ws.crlfAt changed) target = stale ws target ↔
      ∀ l bytes, ws.reach target = .ok l → ws.tree.get? l = some (.file bytes) →
        changed l = true → Go.Marker.isGenerated (Text.Utf8.decodeLossy bytes) = true →
          Go.Marker.isMarkedAtEnd (Text.Utf8.decodeLossy bytes) = true := by
  have hisFile : ws.isFile target = .ok true ↔
      ∃ l bytes, ws.reach target = .ok l ∧ ws.tree.get? l = some (.file bytes) := by
    rw [hw.isFile_eq_true_iff]
    constructor
    · rintro ⟨k, bytes, hk, hlook⟩
      obtain ⟨l, hl, -, hfile, -⟩ := Tree.look_eq_ok hlook
      exact ⟨l, bytes, Workspace.reach_eq_ok_iff.2 ⟨k, hk, hl⟩, hfile⟩
    · rintro ⟨l, bytes, hl, hfile⟩
      obtain ⟨k, hk, hfollow⟩ := Workspace.reach_eq_ok_iff.1 hl
      exact ⟨k, bytes, hk, Tree.look_of_follow hfollow hfile⟩
  by_cases hregular : ws.isFile target = .ok true
  · obtain ⟨l, bytes, hl, hfile⟩ := hisFile.1 hregular
    have hget := Workspace.get?_crlfAt_of_file hfile changed
    rw [stale_of_file hw.crlfAt ((ws.reach_crlfAt target).trans hl) hget,
      stale_of_file hw hl hfile]
    have honly (P : Location → List UInt8 → Prop) : (∀ k ds, ws.reach target = .ok k →
        ws.tree.get? k = some (.file ds) → P k ds) ↔ P l bytes := by
      refine ⟨fun h => h l bytes hl hfile, fun h k ds hk hds => ?_⟩
      obtain rfl := Except.ok.inj (hl.symm.trans hk)
      obtain rfl := Entry.file.inj (Option.some.inj (hfile.symm.trans hds))
      exact h
    rw [honly]
    by_cases hchanged : changed l = true
    · rw [if_pos hchanged, Text.Utf8.decodeLossy_crlfBytes, Except.ok.injEq,
        ← Go.Marker.isGenerated_crlf_eq_iff]
      generalize Go.Marker.isGenerated (crlf (Text.Utf8.decodeLossy bytes)) = b'
      generalize Go.Marker.isGenerated (Text.Utf8.decodeLossy bytes) = b
      simp only [hchanged, forall_const]
      cases b <;> cases b' <;> decide
    · simp [hchanged]
  · refine iff_of_true ?_ fun l bytes hl hfile =>
      absurd (hisFile.2 ⟨l, bytes, hl, hfile⟩) hregular
    unfold stale removeStale
    rw [ws.isFile_crlfAt]
    cases hisFile : ws.isFile target with
    | error e => rfl
    | ok b =>
      cases b with
      | false => rfl
      | true => exact absurd hisFile hregular

end Generation.Output

namespace Generation

open Go.Package Go

/-- What carriage returns in some files of a directory that is scanned come to. Whether a file is
taken for generated stays the same exactly if it is not generated or says so in a last line without
line end. The scan finds the same files exactly if this is so for all changed source files, and then
the same package, names and embedded names. And the same becomes of an output file that nothing asks
for exactly if this is so for it. -/
theorem crlfAt_spec {ws : Workspace} (hw : ws.Proper) {dir : Path} {out : String} {s : Scan}
    (hscan : scan ws dir out = .ok s) (changed : Location → Bool)
    (hsturdy : ∀ n cs, IsChanged ws dir out changed n cs → Marker.isGenerated cs = false →
      ∀ t ∈ Lexeme.tokens cs, Lexeme.IsSturdy t.text.toList) :
    (∀ cs, Marker.isGenerated (crlf cs) = Marker.isGenerated cs ↔
      (Marker.isGenerated cs = true → Marker.isMarkedAtEnd cs = true)) ∧
    ((∃ s', scan (ws.crlfAt changed) dir out = .ok s' ∧ s'.files = s.files) ↔
      ∀ n cs, IsChanged ws dir out changed n cs → Marker.isGenerated cs = true →
        Marker.isMarkedAtEnd cs = true) ∧
    (∀ s', scan (ws.crlfAt changed) dir out = .ok s' → s'.files = s.files → SameNames s s') ∧
    ∀ target, Output.stale (ws.crlfAt changed) target = Output.stale ws target ↔
      ∀ l bytes, ws.reach target = .ok l → ws.tree.get? l = some (.file bytes) →
        changed l = true → Marker.isGenerated (Text.Utf8.decodeLossy bytes) = true →
          Marker.isMarkedAtEnd (Text.Utf8.decodeLossy bytes) = true := by
  have hsame (hmarks : ∀ n cs, IsChanged ws dir out changed n cs →
      Marker.isGenerated cs = true → Marker.isMarkedAtEnd cs = true) :
      ∃ s', scan (ws.crlfAt changed) dir out = .ok s' ∧ SameNames s s' :=
    exists_scan_crlfAt hw hscan fun n cs hchanged =>
      ⟨(Marker.isGenerated_crlf_eq_iff cs).2 (hmarks n cs hchanged), hsturdy n cs hchanged⟩
  refine ⟨Marker.isGenerated_crlf_eq_iff, ⟨?_, ?_⟩, ?_, Output.stale_crlfAt_eq_iff hw⟩
  · rintro ⟨s', hscan', hfiles⟩ n cs hchanged hgen
    exact isMarkedAtEnd_of_files_eq hw hscan hscan' hfiles hchanged hgen
  · intro hmarks
    obtain ⟨s', hscan', hnames⟩ := hsame hmarks
    exact ⟨s', hscan', hnames.files⟩
  · intro s' hscan' hfiles
    obtain ⟨s'', hscan'', hnames⟩ := hsame fun n cs hchanged hgen =>
      isMarkedAtEnd_of_files_eq hw hscan hscan' hfiles hchanged hgen
    obtain rfl := Except.ok.inj (hscan'.symm.trans hscan'')
    exact hnames

/-- A directory with a struct, a file of another tool, and an output file that is left over. -/
def markedWorkspace : Workspace where
  tree := ⟨[(["p"], .directory),
    (["p", "a.go"], .file (Text.Utf8.encode
      "package p\n\ntype A struct \x7b\n\tT \x60a\nb\x60\n\x7d\n".toList)),
    (["p", "b.go"], .file (Text.Utf8.encode
      "// Code generated by x. DO NOT EDIT.\n\npackage p\n\ntype B struct \x7b\x7d\n".toList)),
    (["p", "embedgen_gen.go"], .file (Text.Utf8.encode
      "// Code generated by embedgen. DO NOT EDIT.\n\npackage p\n".toList))]⟩
  here := []

/-- What a scan of the marked directory finds. -/
def markedScan : Scan where
  directory := ⟨.relative, ["p"]⟩
  package := some "p"
  files := [⟨.relative, ["p", "a.go"]⟩]
  declarations := [⟨"A", "p", Declaration.structKind, [], ["T"], ⟨.relative, ["p", "a.go"]⟩, 3⟩]

private theorem list_markedWorkspace :
    markedWorkspace.list ⟨.relative, ["p"]⟩ = .ok ["a.go", "b.go", "embedgen_gen.go"] :=
  Workspace.list_of_pairwise (by decide +kernel) rfl rfl (by decide)

private theorem scan_markedWorkspace :
    scan markedWorkspace ⟨.relative, ["p"]⟩ "embedgen_gen.go" = .ok markedScan := by
  rw [scan_eq, sourceFiles, list_markedWorkspace]
  decide +kernel

/-- Carriage returns in a file with a raw string of two lines change nothing. -/
theorem crlfAt_spec_markedWorkspace :
    let w := markedWorkspace
    let dir : Path := ⟨.relative, ["p"]⟩
    let out := "embedgen_gen.go"
    let changed : Location → Bool := fun l => l == ["p", "a.go"]
    w.Proper ∧ scan w dir out = .ok markedScan ∧
      (∀ n cs, IsChanged w dir out changed n cs → Marker.isGenerated cs = false →
        ∀ t ∈ Lexeme.tokens cs, Lexeme.IsSturdy t.text.toList) ∧
      (∃ s', scan (w.crlfAt changed) dir out = .ok s' ∧ SameNames markedScan s') ∧
      Output.stale (w.crlfAt changed) (dir.child out) = Output.stale w (dir.child out) := by
  intro w dir out changed
  have hw : w.Proper := by decide +kernel
  have hscan : scan w dir out = .ok markedScan := scan_markedWorkspace
  have htext {n : String} {cs : List Char} (h : IsChanged w dir out changed n cs) :
      cs = "package p\n\ntype A struct \x7b\n\tT \x60a\nb\x60\n\x7d\n".toList := by
    obtain ⟨-, k, l, -, -, hfile, hchanged⟩ := h
    rw [beq_iff_eq.1 hchanged] at hfile
    exact Text.Utf8.encode_injective (Entry.file.inj (Option.some.inj hfile)).symm
  have hsturdy : ∀ n cs, IsChanged w dir out changed n cs → Marker.isGenerated cs = false →
      ∀ t ∈ Lexeme.tokens cs, Lexeme.IsSturdy t.text.toList := by
    intro n cs h _
    rw [htext h]
    decide +kernel
  obtain ⟨-, hfiles, hnames, hstale⟩ := crlfAt_spec hw hscan changed hsturdy
  obtain ⟨s', hs', hsame⟩ := hfiles.2 fun n cs h hgen => by
    rw [htext h] at hgen
    exact absurd hgen (by decide +kernel)
  refine ⟨hw, hscan, hsturdy, ⟨s', hs', hnames s' hs' hsame⟩, (hstale _).2 ?_⟩
  intro l bytes hl _ hchanged
  obtain rfl := beq_iff_eq.1 hchanged
  have hne : w.reach (dir.child out) ≠ .ok ["p", "a.go"] := by decide +kernel
  exact absurd hl hne

/-- Carriage returns in files that are marked change what is found and what is removed. -/
theorem not_unchanged_markedWorkspace :
    let w := markedWorkspace
    let dir : Path := ⟨.relative, ["p"]⟩
    let out := "embedgen_gen.go"
    let changed : Location → Bool := fun l => l != ["p", "a.go"]
    let mark :=
      "// Code generated by x. DO NOT EDIT.\n\npackage p\n\ntype B struct \x7b\x7d\n".toList
    let scanned := (scan w dir out).map fun s => (s.files, s.declarations.map Declaration.name)
    let scanned' := (scan (w.crlfAt changed) dir out).map fun s =>
      (s.files, s.declarations.map Declaration.name)
    w.Proper ∧ (∀ x ∈ w.tree.entries, ∀ bytes, x.2 = .file bytes → 13 ∉ bytes) ∧
      Marker.isGenerated mark = true ∧ Marker.isGenerated (crlf mark) = false ∧
      scanned = .ok ([dir.child "a.go"], ["A"]) ∧
      scanned' = .ok ([dir.child "a.go", dir.child "b.go"], ["A", "B"]) ∧
      Output.stale w (dir.child out) = .ok .removed ∧
      Output.stale (w.crlfAt changed) (dir.child out) = .ok .kept := by
  intro w dir out changed mark scanned scanned'
  have hlist : (w.crlfAt changed).list dir = .ok ["a.go", "b.go", "embedgen_gen.go"] :=
    (w.list_crlfAt dir).trans list_markedWorkspace
  refine ⟨by decide +kernel, ?_, by decide +kernel, by decide +kernel, ?_, ?_,
    by decide +kernel, by decide +kernel⟩
  · intro x hx bytes hfile
    simp only [w, markedWorkspace, List.mem_cons, List.not_mem_nil, or_false] at hx
    rcases hx with rfl | rfl | rfl | rfl
    · cases hfile
    all_goals
      obtain rfl := Entry.file.inj hfile
      decide +kernel
  · exact congrArg (Except.map _) scan_markedWorkspace
  · unfold scanned'
    rw [scan_eq, sourceFiles, hlist]
    decide +kernel

end Generation

end TypeWeave
