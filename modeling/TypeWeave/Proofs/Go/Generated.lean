import TypeWeave.Proofs.Go.Scan
import TypeWeave.Proofs.Text.Search

/-!
# Generated files in a scan

A text whose first line marks a generated file is one, whatever stands behind that line: other marks
and package clauses make no difference. A scan passes over such a file, so that it finds the same
where the file is and where it is not. Main statements: `isGenerated_of_isMarker` and `scan_erase`.
-/

namespace TypeWeave.Go

namespace Marker

/-- A line that marks a generated file starts no package clause. -/
theorem startsPackage_of_isMarker {line : List Char} (h : isMarker line = true) (ended : Bool) :
    startsPackage line ended = false := by
  unfold isMarker at h
  split at h
  · rename_i rest hrest
    obtain rfl := Text.eq_append_of_dropPrefix? hrest
    have hslash : opening = '/' :: opening.tail := by decide
    have hpackage : "package".toList = 'p' :: "ackage".toList := by decide
    rw [startsPackage, hslash, hpackage, List.cons_append, Text.dropPrefix?, if_neg (by decide)]
  · cases h

/-- A text whose first line marks a generated file is generated. -/
theorem isGenerated_of_isMarker {line : List Char} (h : isMarker line = true)
    (hnewline : '\n' ∉ line) (rest : List Char) : isGenerated (line ++ '\n' :: rest) = true := by
  obtain ⟨lines, hlines⟩ := Text.exists_splitOn_append hnewline rest
  simp only [isGenerated, hlines, isMarked, startsPackage_of_isMarker h, h, Bool.false_eq_true,
    if_false, Bool.true_or]

end Marker

namespace Package

open File

/-- A place holds a text that says that it is generated, or a link to one. -/
def HoldsGenerated (ws : Workspace) (l : Location) : Prop :=
  ∃ cs, ws.tree.look l = .ok (.file (Text.Utf8.encode cs)) ∧ Marker.isGenerated cs = true

section Scan

variable {ws : Workspace} {l : Location} {dir : Path} {out : String}

/-- A generated file is read as one. -/
theorem HoldsGenerated.readSource (h : HoldsGenerated ws l) {file : Path}
    (hl : ws.locate file = .ok l) :
    ∃ cs, readSource ws file = .ok cs ∧ Marker.isGenerated cs = true := by
  obtain ⟨cs, hfile, hgen⟩ := h
  refine ⟨cs, ?_, hgen⟩
  rw [Package.readSource, Workspace.read_of_locate hl hfile]
  simp only [Text.Utf8.decode_eq_ok_iff.2 rfl]

/-- Where there is a generated file, there is no directory. -/
theorem HoldsGenerated.ne_directory (h : HoldsGenerated ws l) :
    ws.tree.get? l ≠ some .directory := by
  obtain ⟨cs, hfile, -⟩ := h
  intro hd
  rw [Tree.look_of_get? hd rfl] at hfile
  cases hfile

/-- No declaration that a scan has found is one of a generated file. -/
theorem not_isGenerated_of_mem_declarations (hw : ws.Proper) {s : Scan}
    (h : scan ws dir out = .ok s) {d : Declaration} (hd : d ∈ s.declarations) :
    ∃ cs, readSource ws d.file = .ok cs ∧ Marker.isGenerated cs = false := by
  obtain ⟨found, hscanned, hdecls, -⟩ := scan_eq_ok hw h
  rw [hdecls] at hd
  obtain ⟨⟨n, c⟩, hx, hd⟩ := List.mem_flatMap.1 hd
  obtain ⟨-, -, -, cs, hread, hgen, hc⟩ := (hscanned.mem_iff n c).1 hx
  obtain ⟨-, hfile, -⟩ := Extraction.of_mem_declarations hc hd
  exact ⟨cs, hfile ▸ hread, hgen⟩

/-- A scan goes on behind a generated file as it was before it. -/
theorem scanStep_of_isGenerated {file : Path} {cs : List Char}
    (hread : readSource ws file = .ok cs) (hgen : Marker.isGenerated cs = true) (s : Scan) :
    scanStep ws s file = .ok s := by
  rw [scanStep, hread]
  exact if_pos hgen

/-- No file is left where a generated file was removed. -/
theorem HoldsGenerated.isFile_erase (h : HoldsGenerated ws l) {file : Path}
    (hl : ws.locate file = .ok l) :
    Workspace.isFile { ws with tree := ws.tree.erase l } file = .ok false := by
  have hd := h.ne_directory
  have hne : l ≠ [] := by
    rintro rfl
    exact hd rfl
  have hl' := (((Workspace.sameBut_erase hd).locate file).ok_iff l).1 hl
  exact Workspace.isFile_eq_false hl' (Tree.get?_erase_self hne)

/-- Without what one place holds, a directory has no file that it did not have. -/
theorem HasFile.of_erase (hd : ws.tree.get? l ≠ some .directory) {n : String} {bytes : List UInt8}
    (h : HasFile { ws with tree := ws.tree.erase l } dir n bytes) : HasFile ws dir n bytes := by
  have hne : l ≠ [] := by
    rintro rfl
    exact hd rfl
  obtain ⟨k, hk, hfile⟩ := h
  exact ⟨k, ((Workspace.sameBut_erase hd).locate dir |>.ok_iff k).2 hk,
    Tree.look_of_look_erase hne hfile⟩

/-- The files that a directory has no more without a generated file are read as generated. -/
theorem HoldsGenerated.of_not_hasFile (h : HoldsGenerated ws l) {n : String} {bytes : List UInt8}
    (hfile : HasFile ws dir n bytes)
    (hgone : ¬HasFile { ws with tree := ws.tree.erase l } dir n bytes) :
    ∃ k, ws.locate dir = .ok k ∧ HoldsGenerated ws (k ++ [n]) := by
  have hsame := Workspace.sameBut_erase h.ne_directory
  obtain ⟨k, hk, hfile⟩ := hfile
  have hleads : ws.tree.Leads (k ++ [n]) l := by
    refine Tree.leads_of_look_erase_ne fun heq => hgone ⟨k, ((hsame.locate dir).ok_iff k).1 hk, ?_⟩
    exact heq.trans hfile
  obtain ⟨cs, hl, hgen⟩ := h
  obtain heq := Except.ok.inj ((Tree.look_of_leads hfile hleads).symm.trans hl)
  exact ⟨k, hk, cs, heq ▸ hfile, hgen⟩

/-- A generated file contributes nothing to a scan: the same is found without it, and the scan fails
in the same way if it does. -/
theorem scan_erase (hw : ws.Proper) (h : HoldsGenerated ws l) (dir : Path) (out : String) :
    scan { ws with tree := ws.tree.erase l } dir out = scan ws dir out := by
  have hl := h.ne_directory
  have hsame := Workspace.sameBut_erase hl
  have hv : Workspace.Proper { ws with tree := ws.tree.erase l } :=
    ⟨hw.tree.erase hl, (hsame.directory_iff _).1 hw.here⟩
  have hdirSame := hsame.isDirectory hw hv dir
  cases hdir : ws.isDirectory dir with
  | error e =>
    have hlist := Workspace.list_eq_error_iff.2 hdir
    have hlist' := Workspace.list_eq_error_iff.2 (hdirSame ▸ hdir)
    rw [scan_eq, scan_eq, sourceFiles, sourceFiles, hlist, hlist']
    rfl
  | ok b =>
    obtain ⟨names, hnames, hsorted, hmem⟩ := exists_sourceFiles_eq_ok hw hdir out
    obtain ⟨names', hnames', hsorted', hmem'⟩ :=
      exists_sourceFiles_eq_ok hv (hdirSame ▸ hdir) out
    have hleft : names' = names.filter (· ∈ names') := by
      refine (hsorted'.eq_of_mem_iff (hsorted.filter _)) fun n => ?_
      rw [List.mem_filter, decide_eq_true_eq, and_iff_right_of_imp]
      intro hn
      obtain ⟨hsource, bytes, hfile⟩ := (hmem' n).1 hn
      exact (hmem n).2 ⟨hsource, bytes, hfile.of_erase hl⟩
    rw [scan_eq, scan_eq, hnames, hnames', hleft]
    change List.foldlM _ _ _ = List.foldlM _ _ _
    rw [List.foldlM_map, List.foldlM_map, List.foldlM_filter]
    refine Except.foldlM_congr (fun n hn s => ?_) _
    obtain ⟨hsource, bytes, hfile⟩ := (hmem n).1 hn
    split
    · rename_i hn'
      obtain ⟨-, bytes', hfile'⟩ := (hmem' n).1 (by simpa using hn')
      obtain rfl := (hfile'.of_erase hl).unique hfile
      rw [scanStep, scanStep, readSource, readSource, hfile.read hw, hfile'.read hv]
    · rename_i hn'
      have hgone : ¬HasFile { ws with tree := ws.tree.erase l } dir n bytes := by
        intro hfile'
        exact hn' (by simpa using (hmem' n).2 ⟨hsource, bytes, hfile'⟩)
      obtain ⟨k, hk, cs, hlook, hgen⟩ := h.of_not_hasFile hfile hgone
      obtain ⟨-, hchild⟩ := hw.locate_child_of_look hk hlook
      obtain ⟨cs', hread, hgen⟩ := HoldsGenerated.readSource ⟨cs, hlook, hgen⟩ hchild
      exact (scanStep_of_isGenerated hread hgen s).symm

end Scan

end Package

end TypeWeave.Go
