import TypeWeave.Go.Package
import TypeWeave.Proofs.Except
import TypeWeave.Proofs.File.Proper
import TypeWeave.Proofs.Go.Embedded
import Mathlib.Data.List.Sort

/-!
# What a scan of a directory finds

A scan looks at the regular files of the directory that have the name of a source file, in order of
their names, and takes the declarations of those that are not generated. Main statements:
`scan_eq_ok` for what a scan has found, and `scan_congr_of_sameBut` for what it does not depend on.
-/

namespace TypeWeave.Go.Package

open File

/-- The source files of a directory are its regular files with names of source files, in order. -/
theorem sourceFiles_eq_ok {ws : Workspace} (hw : ws.Proper) {dir : Path} {out : String}
    {files : List Path} (h : sourceFiles ws dir out = .ok files) :
    ∃ names : List String, files = names.map dir.child ∧ names.Pairwise (· < ·) ∧
      ∀ n, n ∈ names ↔
        IsName n ∧ isSource out n = true ∧ ws.isFile (dir.child n) = .ok true := by
  obtain ⟨listed, hlist, hfilter⟩ := Except.bind_eq_ok.1 h
  obtain ⟨hsorted, hlisted⟩ := hw.list_eq_ok hlist
  obtain ⟨hsub, hfiles⟩ := Except.filterM_eq_ok hfilter
  obtain ⟨names, hnames, rfl⟩ := List.sublist_map_iff.1 hsub
  have hsub' : names.Sublist listed := hnames.trans List.filter_sublist
  refine ⟨names, rfl, hsorted.sublist hsub', fun n => ?_⟩
  have hname {m : String} (hm : m ∈ listed) : IsName m := by
    obtain ⟨l, -, hm⟩ := (hlisted m).1 hm
    obtain ⟨e, he⟩ := Option.isSome_iff_exists.1 hm
    exact hw.tree.isName he (by simp)
  have hinj {m k : String} (hm : m ∈ listed) (hk : k ∈ listed) (he : dir.child m = dir.child k) :
      m = k := by
    rw [Path.child_of_isPlain (hname hm).toIsPlain,
      Path.child_of_isPlain (hname hk).toIsPlain] at he
    simpa using he
  constructor
  · intro hn
    obtain ⟨hmem, hfile⟩ := (hfiles (dir.child n)).1 (List.mem_map_of_mem hn)
    have hn' := hsub'.subset hn
    exact ⟨hname hn', (List.mem_filter.1 (hnames.subset hn)).2, hfile⟩
  · rintro ⟨hn, hsource, hfile⟩
    obtain ⟨l, bytes, hl, he⟩ := hw.isFile_eq_true_iff.1 hfile
    obtain ⟨k, hk, -, -, rfl⟩ := (Workspace.locate_child_eq_ok hn.toIsPlain hn.ne_dots).1 hl
    have hn' : n ∈ listed := (hlisted n).2 ⟨k, hk, Tree.isSome_get?_of_look he⟩
    have hmem := (hfiles (dir.child n)).2
      ⟨List.mem_map_of_mem (List.mem_filter.2 ⟨hn', hsource⟩), hfile⟩
    obtain ⟨m, hm, he⟩ := List.mem_map.1 hmem
    rwa [← hinj (hsub'.subset hm) hn' he]

/-- A source file that is not generated, with its contents. -/
def Holds (ws : Workspace) (file : Path) (c : Extraction.Contents) : Prop :=
  ∃ text, readSource ws file = .ok text ∧ Marker.isGenerated text = false ∧
    Extraction.contents (Grammar.parse text) file = .ok c

/-- A source file has one contents. -/
theorem Holds.unique {ws : Workspace} {file : Path} {c d : Extraction.Contents}
    (hc : Holds ws file c) (hd : Holds ws file d) : c = d := by
  obtain ⟨text, htext, -, hc⟩ := hc
  obtain ⟨text', htext', -, hd⟩ := hd
  obtain rfl := Except.ok.inj (htext.symm.trans htext')
  exact Except.ok.inj (hc.symm.trans hd)

/-- What a scan has found: the files with their names and contents, in order of the names. -/
structure Scanned (ws : Workspace) (dir : Path) (out : String)
    (found : List (String × Extraction.Contents)) : Prop where
  /-- No name stands twice, and the names are in order. -/
  sorted : (found.map Prod.fst).Pairwise (· < ·)
  /-- The files are the source files of the directory that are not generated. -/
  mem_iff : ∀ n c, (n, c) ∈ found ↔ IsName n ∧ isSource out n = true ∧
    ws.isFile (dir.child n) = .ok true ∧ Holds ws (dir.child n) c

/-- The declarations of some files, in order. -/
def declarationsOf (found : List (String × Extraction.Contents)) : List Declaration :=
  found.flatMap fun x => x.2.declarations

/-- One step of a scan: reading one more source file. -/
def scanStep (ws : Workspace) (s : Scan) (file : Path) : Except Failure Scan := do
  let source ← readSource ws file
  if Marker.isGenerated source then return s else s.add file source

/-- A scan is its steps. -/
theorem scan_eq (ws : Workspace) (dir : Path) (out : String) :
    scan ws dir out = ((sourceFiles ws dir out).mapError Failure.file).bind fun files =>
      files.foldlM (scanStep ws) { directory := dir } := rfl

/-- A step of a scan reads the file, and passes over it if it is generated or adds what it
declares. -/
theorem scanStep_cases {ws : Workspace} {s s' : Scan} {file : Path}
    (h : scanStep ws s file = .ok s') :
    ∃ text, readSource ws file = .ok text ∧ ((Marker.isGenerated text = true ∧ s' = s) ∨
      Marker.isGenerated text = false ∧ ∃ c,
        Extraction.contents (Grammar.parse text) file = .ok c ∧
        (∀ package, s.package = some package → c.package = package) ∧
        s' = { s with
          package := some c.package
          files := s.files ++ [file]
          declarations := s.declarations ++ c.declarations }) := by
  obtain ⟨text, htext, h⟩ := Except.bind_eq_ok.1 h
  refine ⟨text, htext, ?_⟩
  split at h
  · rename_i hgen
    exact Or.inl ⟨hgen, (Except.ok.inj h).symm⟩
  · rename_i hgen
    obtain ⟨c, hc, h⟩ := Except.bind_eq_ok.1 h
    refine Or.inr ⟨by simpa using hgen, c, hc, ?_⟩
    split at h
    · rename_i package hp
      split at h
      · cases h
      · rename_i heq
        refine ⟨fun package' hp' => ?_, (Except.ok.inj h).symm⟩
        obtain rfl := Option.some.inj (hp.symm.trans hp')
        simpa using heq
    · rename_i hp
      refine ⟨fun package' hp' => ?_, (Except.ok.inj h).symm⟩
      rw [hp] at hp'
      cases hp'

/-- A step of a scan changes nothing, or adds the contents of the file. -/
theorem scanStep_eq_ok {ws : Workspace} {s s' : Scan} {file : Path}
    (h : scanStep ws s file = .ok s') :
    (s' = s ∧ ∀ c, ¬Holds ws file c) ∨
      ∃ c, Holds ws file c ∧ (∀ package, s.package = some package → c.package = package) ∧
        s' = { s with
          package := some c.package
          files := s.files ++ [file]
          declarations := s.declarations ++ c.declarations } := by
  obtain ⟨text, htext, ⟨hgen, rfl⟩ | ⟨hgen, c, hc, hadded⟩⟩ := scanStep_cases h
  · refine Or.inl ⟨rfl, ?_⟩
    rintro c ⟨text', htext', hgen', -⟩
    obtain rfl := Except.ok.inj (htext.symm.trans htext')
    rw [hgen] at hgen'
    cases hgen'
  · exact Or.inr ⟨c, ⟨text, htext, hgen, hc⟩, hadded⟩

/-- The files that a scan reports are those that are not generated. -/
theorem mem_files_of_foldlM {ws : Workspace} {files : List Path} {s s' : Scan}
    (h : files.foldlM (scanStep ws) s = .ok s') (file : Path) :
    file ∈ s'.files ↔ file ∈ s.files ∨
      file ∈ files ∧ ∃ text, readSource ws file = .ok text ∧ Marker.isGenerated text = false := by
  induction files generalizing s with
  | nil =>
    obtain rfl := Except.pure_eq_ok.1 h
    simp
  | cons first files ih =>
    rw [List.foldlM_cons] at h
    obtain ⟨t, ht, h⟩ := Except.bind_eq_ok.1 h
    rw [ih h]
    obtain ⟨text, htext, ⟨hgen, rfl⟩ | ⟨hgen, c, -, -, rfl⟩⟩ := scanStep_cases ht
    · have hnone : ¬∃ text, readSource ws first = .ok text ∧ Marker.isGenerated text = false := by
        rintro ⟨text', htext', hgen'⟩
        obtain rfl := Except.ok.inj (htext.symm.trans htext')
        rw [hgen] at hgen'
        cases hgen'
      by_cases hfile : file = first
      · subst hfile
        simp [hnone]
      · simp [hfile]
    · by_cases hfile : file = first
      · subst hfile
        simp [htext, hgen]
      · simp [hfile]

/-- A scan reports the source files that are not generated. -/
theorem mem_files_of_scan {ws : Workspace} {dir : Path} {out : String} {s : Scan}
    (h : scan ws dir out = .ok s) :
    ∃ files, sourceFiles ws dir out = .ok files ∧ ∀ file, file ∈ s.files ↔ file ∈ files ∧
      ∃ text, readSource ws file = .ok text ∧ Marker.isGenerated text = false := by
  rw [scan_eq] at h
  obtain ⟨files, hfiles, hfold⟩ := Except.bind_eq_ok.1 h
  refine ⟨files, Except.mapError_eq_ok.1 hfiles, fun file => ?_⟩
  simpa using mem_files_of_foldlM hfold file

/-- The steps of a scan find the files that are not generated, in order, and their one package. -/
theorem foldlM_scanStep_eq_ok {ws : Workspace} {dir : Path} {names : List String} {s s' : Scan}
    (h : (names.map dir.child).foldlM (scanStep ws) s = .ok s') :
    ∃ found : List (String × Extraction.Contents), (found.map Prod.fst).Sublist names ∧
      (∀ n c, (n, c) ∈ found ↔ n ∈ names ∧ Holds ws (dir.child n) c) ∧
      s'.declarations = s.declarations ++ declarationsOf found ∧
      (∀ package, s.package = some package → s'.package = some package) ∧
      ∀ x ∈ found, s'.package = some x.2.package := by
  induction names generalizing s with
  | nil =>
    obtain rfl := Except.pure_eq_ok.1 h
    exact ⟨[], .slnil, by simp, by simp [declarationsOf], fun _ hp => hp, by simp⟩
  | cons n names ih =>
    rw [List.map_cons, List.foldlM_cons] at h
    obtain ⟨t, ht, h⟩ := Except.bind_eq_ok.1 h
    obtain ⟨found, hsub, hmem, hdecls, hkeep, hpackage⟩ := ih h
    rcases scanStep_eq_ok ht with ⟨rfl, hnone⟩ | ⟨c, hc, hagree, rfl⟩
    · refine ⟨found, hsub.cons n, fun m d => ?_, hdecls, hkeep, hpackage⟩
      rw [hmem, List.mem_cons]
      refine ⟨fun ⟨hm, hd⟩ => ⟨Or.inr hm, hd⟩, ?_⟩
      rintro ⟨rfl | hm, hd⟩
      · exact absurd hd (hnone d)
      · exact ⟨hm, hd⟩
    · have hset : s'.package = some c.package := hkeep c.package rfl
      refine ⟨(n, c) :: found, hsub.cons_cons n, fun m d => ?_, ?_, ?_, ?_⟩
      · rw [List.mem_cons, hmem, List.mem_cons, Prod.mk.injEq]
        constructor
        · rintro (⟨rfl, rfl⟩ | ⟨hm, hd⟩)
          · exact ⟨Or.inl rfl, hc⟩
          · exact ⟨Or.inr hm, hd⟩
        · rintro ⟨rfl | hm, hd⟩
          · exact Or.inl ⟨rfl, hd.unique hc⟩
          · exact Or.inr ⟨hm, hd⟩
      · rw [hdecls, declarationsOf, declarationsOf, List.flatMap_cons, List.append_assoc]
      · intro package hp
        rw [hset, hagree package hp]
      · exact List.forall_mem_cons.2 ⟨hset, hpackage⟩

/-- What a scan has found: the declarations of the source files that are not generated, which are
all of the package of the scan. -/
theorem scan_eq_ok {ws : Workspace} (hw : ws.Proper) {dir : Path} {out : String} {s : Scan}
    (h : scan ws dir out = .ok s) :
    ∃ found, Scanned ws dir out found ∧ s.declarations = declarationsOf found ∧
      ∀ x ∈ found, s.package = some x.2.package := by
  rw [scan_eq] at h
  obtain ⟨files, hfiles, hfold⟩ := Except.bind_eq_ok.1 h
  obtain ⟨names, rfl, hsorted, hnames⟩ := sourceFiles_eq_ok hw (Except.mapError_eq_ok.1 hfiles)
  obtain ⟨found, hsub, hmem, hdecls, -, hpackage⟩ := foldlM_scanStep_eq_ok hfold
  refine ⟨found, ⟨hsorted.sublist hsub, fun n c => ?_⟩, by simpa using hdecls, hpackage⟩
  rw [hmem, hnames]
  tauto

/-- What is known of a declaration that a scan has found: it stands in the directory, it is of the
package of the scan, and what it embeds has names. -/
theorem Scanned.of_mem_declarations {ws : Workspace} {dir : Path} {out : String}
    {found : List (String × Extraction.Contents)} (h : Scanned ws dir out found) {d : Declaration}
    (hd : d ∈ declarationsOf found) :
    ∃ x ∈ found, d ∈ x.2.declarations ∧ d.package = x.2.package ∧ d.directory = dir ∧
      ∀ s ∈ d.embedded, Lexeme.isName s.toList = true := by
  obtain ⟨⟨n, c⟩, hx, hd⟩ := List.mem_flatMap.1 hd
  obtain ⟨hn, -, -, text, -, -, hc⟩ := (h.mem_iff n c).1 hx
  obtain ⟨hpackage, hfile, hnames⟩ := Extraction.of_mem_declarations hc hd
  refine ⟨(n, c), hx, hd, hpackage, ?_, hnames⟩
  rw [Declaration.directory, hfile, Path.parent_child hn.toIsPlain]

/-- A scan depends on which source files there are and on what is read from them. -/
private theorem scan_congr {v w : Workspace} {dir : Path} {out : String}
    (hfiles : sourceFiles v dir out = sourceFiles w dir out)
    (hread : ∀ files, sourceFiles v dir out = .ok files →
      ∀ file ∈ files, v.read file = w.read file) :
    scan v dir out = scan w dir out := by
  rw [scan_eq, scan_eq, ← hfiles]
  cases hf : sourceFiles v dir out with
  | error e => rfl
  | ok files =>
    refine Except.foldlM_congr (fun file hfile s => ?_) _
    rw [scanStep, scanStep, readSource, readSource, hread files hf file hfile]

section Congruence

variable {S : Set Location} {v w : Workspace} {dir : Path} {out : String}

/-- The names of source files are listed in the same way when only places differ that source files
are not at. -/
private theorem listed_congr (h : Workspace.SameBut S v w) (hv : v.Proper) (hw : w.Proper)
    (hS : ∀ n, IsName n → isSource out n = true → v.Misses (dir.child n) S) :
    (v.list dir).map (List.filter (isSource out)) =
      (w.list dir).map (List.filter (isSource out)) := by
  have herror (e : File.Error) : v.list dir = .error e ↔ w.list dir = .error e := by
    rw [Workspace.list_eq_error_iff, Workspace.list_eq_error_iff, h.isDirectory hv hw]
  cases hnames : v.list dir with
  | error e => rw [(herror e).1 hnames]
  | ok names =>
    cases hnames' : w.list dir with
    | error e =>
      rw [(herror e).2 hnames'] at hnames
      cases hnames
    | ok names' =>
      obtain ⟨hsorted, hmem⟩ := hv.list_eq_ok hnames
      obtain ⟨hsorted', hmem'⟩ := hw.list_eq_ok hnames'
      refine congrArg Except.ok ((hsorted.filter _).eq_of_mem_iff (hsorted'.filter _) fun n => ?_)
      rw [List.mem_filter, List.mem_filter, hmem, hmem', and_congr_left_iff]
      intro hsource
      refine exists_congr fun l => ?_
      rw [(h.locate dir).ok_iff, and_congr_right_iff]
      intro hl
      have hsame (hn : IsName n) (hchild : v.locate (dir.child n) = .ok (l ++ [n])) :
          v.tree.get? (l ++ [n]) = w.tree.get? (l ++ [n]) :=
        h.get?_eq (hS n hn hsource _ hchild _ .refl)
      constructor
      · intro hsome
        obtain ⟨e, he⟩ := Option.isSome_iff_exists.1 hsome
        obtain ⟨hn, hchild⟩ := hv.locate_child_of_get? (((h.locate dir).ok_iff l).2 hl) he
        rwa [← hsame hn hchild]
      · intro hsome
        obtain ⟨e, he⟩ := Option.isSome_iff_exists.1 hsome
        obtain ⟨hn, hchild⟩ := hw.locate_child_of_get? hl he
        rwa [hsame hn (((h.locate _).ok_iff _).2 hchild)]

/-- The same source files are found when only places differ that source files are not at. -/
theorem sourceFiles_congr (h : Workspace.SameBut S v w) (hv : v.Proper) (hw : w.Proper)
    (hS : ∀ n, IsName n → isSource out n = true → v.Misses (dir.child n) S) :
    sourceFiles v dir out = sourceFiles w dir out := by
  have hsplit (ws : Workspace) : sourceFiles ws dir out =
      ((ws.list dir).map (List.filter (isSource out))).bind fun names =>
        (names.map dir.child).filterM ws.isFile := by
    unfold sourceFiles
    cases ws.list dir <;> rfl
  rw [hsplit, hsplit, ← listed_congr h hv hw hS]
  cases hnames : v.list dir with
  | error e => rfl
  | ok names =>
    refine Except.filterM_congr fun file hfile => ?_
    obtain ⟨n, hn, rfl⟩ := List.mem_map.1 hfile
    obtain ⟨hn, hsource⟩ := List.mem_filter.1 hn
    obtain ⟨l, -, hl⟩ := ((hv.list_eq_ok hnames).2 n).1 hn
    obtain ⟨e, he⟩ := Option.isSome_iff_exists.1 hl
    exact h.isFile (hS n (hv.tree.isName he (by simp)) hsource)

/-- What a scan finds does not depend on places that source files are not at. -/
theorem scan_congr_of_sameBut (h : Workspace.SameBut S v w) (hv : v.Proper) (hw : w.Proper)
    (hS : ∀ n, IsName n → isSource out n = true → v.Misses (dir.child n) S) :
    scan v dir out = scan w dir out := by
  refine scan_congr (sourceFiles_congr h hv hw hS) fun files hfiles file hfile => ?_
  obtain ⟨names, rfl, -, hnames⟩ := sourceFiles_eq_ok hv hfiles
  obtain ⟨n, hn, rfl⟩ := List.mem_map.1 hfile
  obtain ⟨hname, hsource, hregular⟩ := (hnames n).1 hn
  exact h.read (hS n hname hsource) hregular

end Congruence

end TypeWeave.Go.Package
