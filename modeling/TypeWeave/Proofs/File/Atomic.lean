import TypeWeave.File.Atomic
import TypeWeave.Proofs.File.Proper

/-!
# Replacing a file is all or nothing

A replacement goes through trees with a temporary file, but what it comes to can be told without
them: a decision, which is a place or the reason for a refusal, and a tree that either holds the
bytes at that place or is the one there was. Main statements: `replace_eq`, and that a decision is
the same in workspaces that differ only where no directory is.
-/

namespace TypeWeave.File

namespace Workspace

/-- Where a file that is moved to a path ends up, or why it cannot be moved there. -/
def landing (w : Workspace) (target : Path) : Except Refusal Location :=
  match w.locate target with
  | .error r => .error r
  | .ok l =>
    if target.name == "" || target.name == ".." then .error .busy
    else if w.tree.get? l == some .directory then .error .isDirectory
    else .ok l

/-- A move of a regular file takes it away and puts it where it lands. -/
theorem move_eq {w : Workspace} {source target : Path} {s : Location} {bytes : List UInt8}
    (hs : w.locate source = .ok s) (he : w.tree.get? s = some (.file bytes)) :
    w.move source target = match w.landing target with
      | .error r => .error { refusal := r, path := source.text, target := some target.text }
      | .ok l => .ok { w with tree := (w.tree.erase s).set l (.file bytes) } := by
  unfold move landing
  rw [hs]
  cases w.locate target with
  | error r => rfl
  | ok t =>
    simp only [he]
    split
    · rfl
    · split <;> rfl

/-- A file lands where its path leads, if the path ends in a name and no directory is there. -/
theorem landing_eq_ok_iff {w : Workspace} {target : Path} {l : Location} :
    w.landing target = .ok l ↔ w.locate target = .ok l ∧
      ¬(target.name == "" || target.name == "..") ∧ w.tree.get? l ≠ some .directory := by
  unfold landing
  cases w.locate target with
  | error r => simp
  | ok k =>
    by_cases hk : k = l
    · subst hk
      dsimp only
      split
      · simp_all
      · split <;> simp_all
    · dsimp only
      split
      · simp [hk]
      · split <;> simp [hk]

/-- A file lands where its path leads, and there is no directory. -/
theorem landing_eq_ok {w : Workspace} {target : Path} {l : Location}
    (h : w.landing target = .ok l) :
    w.locate target = .ok l ∧ w.tree.get? l ≠ some .directory :=
  have ⟨hl, _, hd⟩ := landing_eq_ok_iff.1 h
  ⟨hl, hd⟩

/-- A file lands in the same way in workspaces with the same directories, if its path leads to the
same place. -/
theorem SameBut.landing {S : Set Location} {v w : Workspace} (h : SameBut S v w) {target : Path}
    (ht : v.locate target = w.locate target) : v.landing target = w.landing target := by
  unfold Workspace.landing
  rw [ht]
  cases w.locate target with
  | error r => rfl
  | ok l =>
    have hd : (v.tree.get? l == some .directory) = (w.tree.get? l == some .directory) := by
      rw [Bool.eq_iff_iff]
      simpa using h.directory_iff l
    simp only [hd]

/-- Without a hold on the place, a file is put, found, changed and removed by its path: a path that
leads to a free place leads to the file that is put there. -/
theorem locate_set {w : Workspace} {p : Path} {l : Location} (hp : w.locate p = .ok l)
    (hfree : w.tree.get? l = none) (bytes : List UInt8) :
    ({ w with tree := w.tree.set l (.file bytes) } : Workspace).locate p = .ok l :=
  (((sameBut_set (by rw [hfree]; simp) bytes).locate p).ok_iff l).1 hp

end Workspace

namespace Atomic

/-- A temporary file has a name of its own. -/
theorem temporaryName_ne (name tag : String) : temporaryName name tag ≠ name := by
  intro h
  have hlength := congrArg (fun s : String => s.toList.length) h
  simp [temporaryName] at hlength
  omega

/-- The path and the place of the temporary file: those of the first tag whose name is free. -/
def freePlace (w : Workspace) (directory : Path) (name : String) :
    List String → Except Error (Path × Location)
  | [] => .error { refusal := .exists, path := directory.text }
  | tag :: tags =>
    let p := directory.child (temporaryName name tag)
    match w.locate p with
    | .error r => .error { refusal := r, path := p.text }
    | .ok l =>
      match w.tree.get? l with
      | some _ => freePlace w directory name tags
      | none => .ok (p, l)

/-- Creating a temporary file puts an empty file into the free place. -/
theorem create_eq (w : Workspace) (directory : Path) (name : String) (tags : List String) :
    create w directory name tags = (freePlace w directory name tags).map fun (p, l) =>
      ({ w with tree := w.tree.set l (.file []) }, p) := by
  induction tags with
  | nil => rfl
  | cons tag tags ih =>
    simp only [create, freePlace]
    cases w.locate (directory.child (temporaryName name tag)) with
    | error r => rfl
    | ok l =>
      cases h : w.tree.get? l with
      | some e => simpa only [h] using ih
      | none => simp only [h]; rfl

/-- What is known of a free place. -/
theorem freePlace_eq_ok {w : Workspace} {directory : Path} {name : String} {tags : List String}
    {p : Path} {l : Location} (h : freePlace w directory name tags = .ok (p, l)) :
    (∃ tag ∈ tags, p = directory.child (temporaryName name tag)) ∧ w.locate p = .ok l ∧
      w.tree.get? l = none := by
  induction tags with
  | nil => simp [freePlace] at h
  | cons tag tags ih =>
    simp only [freePlace] at h
    cases hl : w.locate (directory.child (temporaryName name tag)) with
    | error r => simp [hl] at h
    | ok k =>
      cases he : w.tree.get? k with
      | some e =>
        simp only [hl, he] at h
        obtain ⟨⟨t, ht, hp⟩, hrest⟩ := ih h
        exact ⟨⟨t, List.mem_cons_of_mem _ ht, hp⟩, hrest⟩
      | none =>
        simp only [hl, he, Except.ok.injEq, Prod.mk.injEq] at h
        obtain ⟨rfl, rfl⟩ := h
        exact ⟨⟨tag, List.mem_cons_self, rfl⟩, hl, he⟩

/-- What becomes of a replacement once the temporary file is there. -/
def settle (h : Hazards) (filled : Workspace) (temporary target : Path) :
    Except Error Location :=
  match h.write, h.move with
  | some (_, r), _ => .error { refusal := r, path := temporary.text }
  | none, some r => .error { refusal := r, path := temporary.text, target := some target.text }
  | none, none =>
    match filled.landing target with
    | .error r => .error { refusal := r, path := temporary.text, target := some target.text }
    | .ok l => .ok l

/-- Where the bytes of a replacement end up, or why there is none. -/
def decision (h : Hazards) (tags : List String) (w : Workspace) (target : Path)
    (bytes : List UInt8) : Except Error Location :=
  let directory := w.absolute target.parent
  match h.create with
  | some r => .error { refusal := r, path := directory.text }
  | none => (freePlace w directory target.name tags).bind fun (temporary, l) =>
    settle h { w with tree := w.tree.set l (.file bytes) } temporary target

section Fill

variable {w : Workspace} {temporary : Path} {l : Location}

/-- Writing to a fresh temporary file changes its bytes. -/
private theorem write_created (hl : w.locate temporary = .ok l) (hfree : w.tree.get? l = none)
    (hparts : temporary.parts ≠ []) (bytes : List UInt8) :
    ({ w with tree := w.tree.set l (.file []) } : Workspace).write temporary bytes =
      .ok { w with tree := w.tree.set l (.file bytes) } := by
  have hne : l ≠ [] := by rintro rfl; simp [Tree.get?] at hfree
  have hfile : (w.tree.set l (.file [])).get? l = some (.file []) := Tree.get?_set_self hne
  unfold Workspace.write Workspace.reach
  rw [Workspace.locate_set hl hfree]
  simp [Tree.follow_eq_self (t := w.tree.set l (.file [])) (by rw [hfile]; rfl), hfile, hparts,
    Tree.set_set]

/-- Removing the temporary file gives the workspace back. -/
private theorem discard_created (hl : w.locate temporary = .ok l) (hfree : w.tree.get? l = none)
    (bytes : List UInt8) :
    discard { w with tree := w.tree.set l (.file bytes) } temporary = w := by
  have hne : l ≠ [] := by rintro rfl; simp [Tree.get?] at hfree
  unfold discard Workspace.unlink
  rw [Workspace.locate_set hl hfree]
  simp [Tree.get?_set_self hne, Tree.erase_set_of_get?_eq_none hfree]

/-- Filling a fresh temporary file and moving it either puts the bytes at a place of a workspace
without it, or leaves it with some bytes. -/
private theorem fill_created (h : Hazards) (hl : w.locate temporary = .ok l)
    (hfree : w.tree.get? l = none) (hparts : temporary.parts ≠ []) (target : Path)
    (bytes : List UInt8) :
    ∃ left, fill h { w with tree := w.tree.set l (.file []) } temporary target bytes =
      match settle h { w with tree := w.tree.set l (.file bytes) } temporary target with
      | .ok k => (.ok (), { w with tree := w.tree.set k (.file bytes) })
      | .error e => (.error e, { w with tree := w.tree.set l (.file left) }) := by
  have hne : l ≠ [] := by rintro rfl; simp [Tree.get?] at hfree
  unfold fill settle
  cases hw : h.write with
  | some cut =>
    obtain ⟨n, r⟩ := cut
    refine ⟨bytes.take n, ?_⟩
    simp only [write_created hl hfree hparts]
  | none =>
    refine ⟨bytes, ?_⟩
    simp only [write_created hl hfree hparts]
    cases h.move with
    | some r => rfl
    | none =>
      have hfile : (w.tree.set l (.file bytes)).get? l = some (.file bytes) :=
        Tree.get?_set_self hne
      simp only [Workspace.move_eq (Workspace.locate_set hl hfree bytes) hfile,
        Tree.erase_set_of_get?_eq_none hfree]
      cases Workspace.landing _ target <;> rfl

end Fill

/-- The temporary file of a replacement has a path with a name. -/
private theorem parts_ne_nil_of_freePlace {w : Workspace} {d : Path} (hd : d.isAbsolute = true)
    {name : String} {tags : List String} {p : Path} {l : Location}
    (h : freePlace w d name tags = .ok (p, l)) : p.parts ≠ [] := by
  obtain ⟨⟨tag, _, rfl⟩, hl, hfree⟩ := freePlace_eq_ok h
  have habs : (d.child (temporaryName name tag)).isAbsolute = true := by
    unfold Path.child Path.join
    split
    · assumption
    · exact hd
  intro hparts
  unfold Workspace.locate at hl
  rw [habs, hparts] at hl
  obtain rfl : l = [] := by simpa [Tree.walk] using hl.symm
  simp [Tree.get?] at hfree

private theorem isAbsolute_absolute (w : Workspace) (p : Path) :
    (w.absolute p).isAbsolute = true := by
  unfold Workspace.absolute Path.absolute
  split
  · assumption
  · rfl

/-- A replacement puts the bytes at the place that is decided, or changes nothing. -/
theorem replace_eq (h : Hazards) (tags : List String) (w : Workspace) (target : Path)
    (bytes : List UInt8) :
    replace h tags w target bytes = match decision h tags w target bytes with
      | .ok l => (.ok (), { w with tree := w.tree.set l (.file bytes) })
      | .error e => (.error e, w) := by
  unfold replace decision
  cases h.create with
  | some r => rfl
  | none =>
    simp only [create_eq]
    cases hfree : freePlace w (w.absolute target.parent) target.name tags with
    | error e => rfl
    | ok place =>
      obtain ⟨temporary, l⟩ := place
      obtain ⟨-, hl, hnone⟩ := freePlace_eq_ok hfree
      have hparts := parts_ne_nil_of_freePlace (isAbsolute_absolute w _) hfree
      obtain ⟨left, hfill⟩ := fill_created h hl hnone hparts target bytes
      simp only [Except.map, Except.bind, hfill]
      cases settle h { w with tree := w.tree.set l (.file bytes) } temporary target with
      | error e => simp only [discard_created hl hnone]
      | ok k => rfl

/-- A file lands in the same way once a temporary file is in its free place. -/
private theorem landing_created {w : Workspace} {k : Location} (hfree : w.tree.get? k = none)
    (bytes : List UInt8) (target : Path) {l : Location} :
    Workspace.landing { w with tree := w.tree.set k (.file bytes) } target = .ok l ↔
      w.landing target = .ok l := by
  have hsame := Workspace.sameBut_set (w := w) (l := k) (by rw [hfree]; simp) bytes
  have hd := hsame.directory_iff l
  simp only [Workspace.landing_eq_ok_iff, ← (hsame.locate target).ok_iff l, ne_eq, hd]

/-- A replacement is settled where the target lands, when nothing outside the tree refuses it. -/
theorem settle_eq_ok_iff {h : Hazards} {w : Workspace} {temporary target : Path} {l : Location} :
    settle h w temporary target = .ok l ↔
      h.write = none ∧ h.move = none ∧ w.landing target = .ok l := by
  unfold settle
  cases h.write with
  | some cut => simp
  | none =>
    cases h.move with
    | some r => simp
    | none => cases w.landing target <;> simp

/-- A replacement goes well exactly when nothing outside the tree refuses a step, a temporary name
is free, and the target lands; the bytes then end up where it lands. -/
theorem decision_eq_ok_iff {h : Hazards} {tags : List String} {w : Workspace} {target : Path}
    {bytes : List UInt8} {l : Location} :
    decision h tags w target bytes = .ok l ↔
      h = .none ∧ (∃ place, freePlace w (w.absolute target.parent) target.name tags = .ok place) ∧
        w.landing target = .ok l := by
  obtain ⟨create, write, move⟩ := h
  simp only [decision, Hazards.none, Hazards.mk.injEq]
  cases create with
  | some r => simp
  | none =>
    cases hfree : freePlace w (w.absolute target.parent) target.name tags with
    | error e => simp [Except.bind]
    | ok place =>
      obtain ⟨-, -, hnone⟩ := freePlace_eq_ok hfree
      simp only [Except.bind, settle_eq_ok_iff, landing_created hnone]
      simp [and_assoc]

section Congruence

variable {S : Set Location} {v w : Workspace} {d : Path} {k : Location}

/-- Temporary files go to the same free place in workspaces that differ elsewhere. -/
private theorem freePlace_congr (h : Workspace.SameBut S v w) (hk : v.locate d = .ok k)
    (hd : v.tree.get? k = some .directory) {name : String} {tags : List String}
    (hplain : ∀ tag ∈ tags, IsPlain (temporaryName name tag) ∧ temporaryName name tag ≠ "..")
    (hfree : ∀ tag ∈ tags, k ++ [temporaryName name tag] ∉ S) :
    freePlace v d name tags = freePlace w d name tags := by
  induction tags with
  | nil => rfl
  | cons tag tags ih =>
    obtain ⟨⟨htag, hdots⟩, hplain⟩ := List.forall_mem_cons.1 hplain
    obtain ⟨hout, hfree⟩ := List.forall_mem_cons.1 hfree
    simp only [freePlace, ← h.locate_child htag hk hd]
    cases hl : v.locate (d.child (temporaryName name tag)) with
    | error r => rfl
    | ok l =>
      obtain ⟨k', hk', -, -, rfl⟩ := (Workspace.locate_child_eq_ok htag hdots).1 hl
      obtain rfl : k = k' := Except.ok.inj (hk.symm.trans hk')
      simp only [← h.get?_eq hout, ih hplain hfree]

/-- What becomes of a replacement in a directory is decided in the same way in workspaces that
differ at no place of a temporary file. -/
theorem decision_congr (hazards : Hazards) {tags : List String} (bytes : List UInt8)
    (h : Workspace.SameBut S v w) (hv : v.Proper) {n : String} (hn : IsPlain n)
    (hk : v.locate d = .ok k) (hd : v.tree.get? k = some .directory)
    (hplain : ∀ tag ∈ tags, IsPlain (temporaryName n tag) ∧ temporaryName n tag ≠ "..")
    (hfree : ∀ tag ∈ tags, k ++ [temporaryName n tag] ∉ S) :
    decision hazards tags v (d.child n) bytes = decision hazards tags w (d.child n) bytes := by
  have habs : v.absolute d = w.absolute d := by
    unfold Workspace.absolute
    rw [h.here]
  have hfreePlace := freePlace_congr h (hv.locate_absolute hk hd) hd hplain hfree
  unfold decision
  rw [Path.parent_child hn, Path.name_child hn, ← habs]
  dsimp only
  rw [← hfreePlace]
  cases hazards.create with
  | some r => rfl
  | none =>
    cases hp : freePlace v (v.absolute d) n tags with
    | error e => rfl
    | ok place =>
      obtain ⟨temporary, l⟩ := place
      obtain ⟨-, -, hnone⟩ := freePlace_eq_ok hp
      have hne : l ≠ [] := by rintro rfl; simp [Tree.get?] at hnone
      have hfill := Workspace.sameBut_set (w := v) (l := l) (by rw [hnone]; simp) bytes
      have hset := h.set hne bytes
      have htarget := hset.locate_child hn (((hfill.locate d).ok_iff k).1 hk)
        ((hfill.directory_iff k).1 hd)
      simp only [Except.bind, settle, hset.landing htarget]

end Congruence

end Atomic

end TypeWeave.File
