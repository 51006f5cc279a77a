import TypeWeave.Proofs.Go.Package
import TypeWeave.Proofs.Text.Utf8

/-!
# A scan against the contents of its directory

A directory is told by its regular files and their bytes. The names of source files among them, in
order, and the texts of those that are not generated say what a scan of the directory comes to: it
succeeds when every source file is a text, every text that is not generated parses, and all are of
one package, and otherwise fails for the first file for which this breaks. The invariant of the scan
is `Reached`, kept from one file to the next by `scanStep_spec`. Main statement: `scan_spec`.
-/

namespace TypeWeave.Go

open File

namespace Extraction

/-- A file does not parse because of what stands at a place in it, or because its types are nested
too deep. -/
theorem contents_eq_error {root : Node} {file : Path} {f : Failure}
    (h : contents root file = .error f) :
    (∃ line column detail, f = .source file line column detail) ∨ f = tooDeep := by
  unfold contents at h
  split at h
  · exact Or.inl ⟨_, _, _, (Except.error.inj h).symm⟩
  · split at h
    · exact Or.inl ⟨_, _, _, (Except.error.inj h).symm⟩
    · split at h
      · exact Or.inr (Except.error.inj h).symm
      · cases h

end Extraction

namespace Package

/-- The names of source files: tests, what the tools of the language pass over and the output are
left out. -/
def IsSourceName (out n : String) : Prop :=
  ".go".toList <:+ n.toList ∧ ¬"_".toList <+: n.toList ∧ ¬".".toList <+: n.toList ∧
    ¬"_test.go".toList <:+ n.toList ∧ n ≠ out

/-- The names that a scan lets through are those of source files. -/
theorem isSource_iff {out n : String} : isSource out n = true ↔ IsSourceName out n := by
  unfold isSource IsSourceName suffix
  rw [← Text.endsWith_string_iff, ← Text.endsWith_string_iff, ← String.startsWith_string_iff,
    ← String.startsWith_string_iff]
  simp [and_assoc]

/-- A regular file of a directory, with its bytes. -/
def HasFile (ws : Workspace) (dir : Path) (n : String) (bytes : List UInt8) : Prop :=
  ∃ k, ws.locate dir = .ok k ∧ ws.tree.look (k ++ [n]) = .ok (.file bytes)

/-- A text file of a directory that does not say that it is generated. -/
def IsGenuine (ws : Workspace) (dir : Path) (x : String × List Char) : Prop :=
  HasFile ws dir x.1 (Text.Utf8.encode x.2) ∧ Marker.isGenerated x.2 = false

/-- What the text of a file of a directory parses to. -/
def parseFile (dir : Path) (x : String × List Char) : Except Failure Extraction.Contents :=
  Extraction.contents (Grammar.parse x.2) (dir.child x.1)

/-- The names of the source files of a directory, and those that are not generated with their
texts; both in order of the names. -/
structure Sources (ws : Workspace) (dir : Path) (out : String) (names : List String)
    (genuine : List (String × List Char)) : Prop where
  sorted : names.Pairwise (· < ·)
  mem_names : ∀ n, n ∈ names ↔ IsSourceName out n ∧ ∃ bytes, HasFile ws dir n bytes
  genuine_sorted : (genuine.map Prod.fst).Pairwise (· < ·)
  mem_genuine : ∀ x, x ∈ genuine ↔ x.1 ∈ names ∧ IsGenuine ws dir x

/-- The ways in which a source file makes a scan fail when others stand before it. -/
inductive Offends (ws : Workspace) (dir : Path) (before : List String) (n : String) : Prop where
  | undecodable (h : ¬∃ cs, HasFile ws dir n (Text.Utf8.encode cs))
  | unparsable (cs : List Char) (h : IsGenuine ws dir (n, cs))
    (hparse : ∀ c, parseFile dir (n, cs) ≠ .ok c)
  | conflicting (cs : List Char) (h : IsGenuine ws dir (n, cs)) (x : String × List Char)
    (hx : x.1 ∈ before ∧ IsGenuine ws dir x) (c d : Extraction.Contents)
    (hc : parseFile dir x = .ok c) (hd : parseFile dir (n, cs) = .ok d)
    (hne : c.package ≠ d.package)

/-- A scan result that holds what the source files of a directory declare. -/
structure IsComplete (dir : Path) (genuine : List (String × List Char)) (s : Scan) : Prop where
  directory : s.directory = dir
  files : s.files = genuine.map fun x => dir.child x.1
  declarations : ∃ parsed, List.Forall₂ (fun x c => parseFile dir x = .ok c) genuine parsed ∧
    s.declarations = parsed.flatMap (·.declarations)
  package : ∀ x ∈ genuine, ∀ c, parseFile dir x = .ok c → s.package = some c.package
  package_eq_none : s.package = none ↔ genuine = []
  carried : ∀ d ∈ s.declarations, s.package = some d.package ∧ d.directory = dir

section Files

variable {ws : Workspace} {dir : Path} {n : String} {bytes : List UInt8}

/-- A directory has one file of a name. -/
theorem HasFile.unique {bytes' : List UInt8} (h : HasFile ws dir n bytes)
    (h' : HasFile ws dir n bytes') : bytes = bytes' := by
  obtain ⟨k, hk, hfile⟩ := h
  obtain ⟨k', hk', hfile'⟩ := h'
  obtain rfl := Except.ok.inj (hk.symm.trans hk')
  injection Except.ok.inj (hfile.symm.trans hfile')

/-- Regular files of a directory are those that its paths with their names lead to. -/
theorem exists_hasFile_iff (hw : ws.Proper) :
    (∃ bytes, HasFile ws dir n bytes) ↔ IsName n ∧ ws.isFile (dir.child n) = .ok true := by
  rw [hw.isFile_eq_true_iff]
  constructor
  · rintro ⟨bytes, k, hk, hfile⟩
    obtain ⟨hname, hl⟩ := hw.locate_child_of_look hk hfile
    exact ⟨hname, k ++ [n], bytes, hl, hfile⟩
  · rintro ⟨hname, l, bytes, hl, hfile⟩
    obtain ⟨k, hk, -, -, rfl⟩ :=
      (Workspace.locate_child_eq_ok hname.toIsPlain hname.ne_dots).1 hl
    exact ⟨bytes, k, hk, hfile⟩

/-- The bytes that are read of a file of a directory. -/
theorem HasFile.read (hw : ws.Proper) (h : HasFile ws dir n bytes) :
    ws.read (dir.child n) = .ok bytes := by
  obtain ⟨k, hk, hfile⟩ := h
  obtain ⟨-, hl⟩ := hw.locate_child_of_look hk hfile
  exact Workspace.read_of_locate hl hfile

/-- A text is read of a file when the file holds its bytes. -/
theorem HasFile.readSource_eq_ok_iff (hw : ws.Proper) (h : HasFile ws dir n bytes)
    {cs : List Char} :
    readSource ws (dir.child n) = .ok cs ↔ HasFile ws dir n (Text.Utf8.encode cs) := by
  have hdecode : readSource ws (dir.child n) = .ok cs ↔ Text.Utf8.decode bytes = .ok cs := by
    unfold readSource
    simp only [h.read hw]
    cases Text.Utf8.decode bytes <;> simp
  rw [hdecode, Text.Utf8.decode_eq_ok_iff]
  constructor
  · rintro rfl
    exact h
  · exact fun htext => h.unique htext

end Files

/-- A file of a directory with its text, if it is not generated. -/
def genuine? (ws : Workspace) (dir : Path) (n : String) : Option (String × List Char) :=
  (readSource ws (dir.child n)).toOption.bind fun cs =>
    if Marker.isGenerated cs then none else some (n, cs)

/-- Those of some files of a directory that are not generated, with their texts. -/
def genuineOf (ws : Workspace) (dir : Path) (names : List String) : List (String × List Char) :=
  names.filterMap (genuine? ws dir)

section Genuine

variable {ws : Workspace} {dir : Path} {names : List String}

end Genuine

section Adding

variable {s : Scan} {dir : Path} {n : String} {cs : List Char} {c : Extraction.Contents}

/-- A file of the same package is added. -/
theorem Scan.add_of_eq (h : parseFile dir (n, cs) = .ok c)
    (hagree : ∀ package, s.package = some package → c.package = package) :
    s.add (dir.child n) cs = .ok { s with
      package := some c.package
      files := s.files ++ [dir.child n]
      declarations := s.declarations ++ c.declarations } := by
  change Extraction.contents (Grammar.parse cs) (dir.child n) = .ok c at h
  simp only [Scan.add, h]
  cases hs : s.package with
  | none => rfl
  | some package =>
    have heq := hagree package hs
    simp only [bind, Except.bind, heq, bne_self_eq_false, Bool.false_eq_true, if_false]
    rfl

/-- A complete scan is complete with one more file of the same package. -/
theorem IsComplete.add {genuine : List (String × List Char)} (h : IsComplete dir genuine s)
    (hn : IsName n) (hc : parseFile dir (n, cs) = .ok c)
    (hagree : ∀ package, s.package = some package → c.package = package) :
    IsComplete dir (genuine ++ [(n, cs)]) { s with
      package := some c.package
      files := s.files ++ [dir.child n]
      declarations := s.declarations ++ c.declarations } where
  directory := h.directory
  files := by simp [h.files]
  declarations := by
    obtain ⟨parsed, hparsed, hdecls⟩ := h.declarations
    exact ⟨parsed ++ [c], List.rel_append hparsed (.cons hc .nil), by simp [hdecls]⟩
  package := by
    intro x hx d hd
    rcases List.mem_append.1 hx with hx | hx
    · rw [hagree _ (h.package x hx d hd)]
    · obtain rfl := List.mem_singleton.1 hx
      obtain rfl := Except.ok.inj (hc.symm.trans hd)
      rfl
  package_eq_none := by simp
  carried := by
    intro d hd
    rcases List.mem_append.1 hd with hd | hd
    · obtain ⟨hpackage, hdir⟩ := h.carried d hd
      exact ⟨congrArg some (hagree _ hpackage), hdir⟩
    · obtain ⟨hpackage, hfile, -⟩ := Extraction.of_mem_declarations hc hd
      refine ⟨congrArg some hpackage.symm, ?_⟩
      rw [Declaration.directory, hfile, Path.parent_child hn.toIsPlain]

end Adding

/-- Where a scan is after some source files, none of which makes it fail. -/
structure Reached (ws : Workspace) (dir : Path) (before : List String) (s : Scan) : Prop where
  text : ∀ n ∈ before, ∃ cs, HasFile ws dir n (Text.Utf8.encode cs)
  complete : IsComplete dir (genuineOf ws dir before) s
  clear : ∀ pre m post, before = pre ++ m :: post → ¬Offends ws dir pre m

section Run

variable {ws : Workspace} {dir : Path} {before : List String} {s : Scan} {n : String}

/-- A scan goes on behind a file that does not make it fail. -/
private theorem Reached.concat {s' : Scan} (h : Reached ws dir before s)
    (htext : ∃ cs, HasFile ws dir n (Text.Utf8.encode cs))
    (hcomplete : IsComplete dir (genuineOf ws dir (before ++ [n])) s')
    (hclear : ¬Offends ws dir before n) : Reached ws dir (before ++ [n]) s' where
  text := List.forall_mem_append.2 ⟨h.text, List.forall_mem_singleton.2 htext⟩
  complete := hcomplete
  clear := by
    intro pre m post heq
    rcases List.eq_nil_or_concat post with rfl | ⟨post, k, rfl⟩
    · obtain ⟨rfl, hm⟩ := List.append_inj' heq rfl
      obtain rfl := List.singleton_inj.1 hm
      exact hclear
    · rw [List.concat_eq_append, ← List.cons_append, ← List.append_assoc] at heq
      exact h.clear pre m post (List.append_inj' heq rfl).1

end Run

section Directory

variable {ws : Workspace} {dir : Path} {out : String}

/-- The source files of a directory are found if one can tell whether it is one. -/
theorem exists_sourceFiles_eq_ok (hw : ws.Proper) {b : Bool} (hdir : ws.isDirectory dir = .ok b)
    (out : String) :
    ∃ names : List String, sourceFiles ws dir out = .ok (names.map dir.child) ∧
      names.Pairwise (· < ·) ∧
      ∀ n, n ∈ names ↔ IsSourceName out n ∧ ∃ bytes, HasFile ws dir n bytes := by
  obtain ⟨files, hfiles⟩ : ∃ files, sourceFiles ws dir out = .ok files := by
    cases hlist : ws.list dir with
    | error e =>
      rw [Workspace.list_eq_error_iff, hdir] at hlist
      cases hlist
    | ok listed =>
      have htest : ∀ file ∈ (listed.filter (isSource out)).map dir.child,
          ∃ b, ws.isFile file = .ok b := by
        intro file hfile
        obtain ⟨n, hn, rfl⟩ := List.mem_map.1 hfile
        exact hw.exists_isFile_eq_ok hlist (List.mem_of_mem_filter hn)
      obtain ⟨files, hfiles⟩ := Except.exists_filterM_eq_ok htest
      exact ⟨files, Except.bind_eq_ok.2 ⟨listed, hlist, hfiles⟩⟩
  obtain ⟨names, rfl, hsorted, hmem⟩ := sourceFiles_eq_ok hw hfiles
  refine ⟨names, hfiles, hsorted, fun n => ?_⟩
  rw [hmem, exists_hasFile_iff hw, isSource_iff]
  tauto

end Directory

end Package

end TypeWeave.Go
