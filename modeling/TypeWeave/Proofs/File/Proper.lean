import TypeWeave.Proofs.File.Names
import Mathlib.Data.List.Induction
import Mathlib.Data.List.Nodup
import Mathlib.Data.String.Basic

/-!
# Proper file trees

What every file system keeps: a place is entered once, places are made of names, whatever there is
lies in a directory, and the current directory exists. Links to directories, which a walk would have
to go through, are left out. In such a tree the absolute path of a place
leads to it again, whether anything is at a place that there can be can be told, and replacing or
removing a file keeps the tree proper.
-/

namespace TypeWeave.File

/-- A tree as file systems keep it. -/
structure Tree.Proper (t : Tree) : Prop where
  /-- No place is entered twice. -/
  nodup : (t.entries.map Prod.fst).Nodup
  /-- Places are made of names. -/
  names : ∀ x ∈ t.entries, ∀ n ∈ x.1, IsName n
  /-- Whatever there is lies in a directory. -/
  parent : ∀ l e, t.get? l = some e → t.get? l.dropLast = some .directory
  /-- No link leads to a directory. -/
  links : ∀ l k, t.LinksTo l k → t.get? k ≠ some .directory

/-- A workspace with a proper tree whose current directory exists. -/
structure Workspace.Proper (w : Workspace) : Prop where
  tree : w.tree.Proper
  here : w.tree.get? w.here = some .directory

namespace Tree

/-- Away from the root, a place holds what is entered for it. -/
theorem get?_of_ne_nil (t : Tree) {l : Location} (h : l ≠ []) :
    t.get? l = t.entries.lookup l := by
  rw [get?, if_neg h]

/-- Something is there exactly when the place is entered. -/
theorem isSome_get?_iff (t : Tree) {l : Location} (h : l ≠ []) :
    (t.get? l).isSome ↔ l ∈ t.entries.map Prod.fst := by
  rw [t.get?_of_ne_nil h, List.lookup_isSome_iff]
  simp

/-- A tree is proper when its entries are. -/
theorem proper_iff (t : Tree) : t.Proper ↔
    (t.entries.map Prod.fst).Nodup ∧ (∀ x ∈ t.entries, ∀ n ∈ x.1, IsName n) ∧
      (∀ x ∈ t.entries, t.get? x.1.dropLast = some .directory) ∧
      ∀ x ∈ t.entries, ∀ k ∈ (t.get? x.1).bind Entry.target?, t.get? k ≠ some .directory := by
  constructor
  · intro ht
    refine ⟨ht.nodup, ht.names, fun x hx => ?_, fun x _ k hk => ht.links x.1 k hk⟩
    by_cases hl : x.1 = []
    · rw [hl]
      rfl
    · have hsome := (t.isSome_get?_iff hl).2 (List.mem_map_of_mem hx)
      obtain ⟨e, he⟩ := Option.isSome_iff_exists.1 hsome
      exact ht.parent _ _ he
  · rintro ⟨hnodup, hnames, hparent, hlinks⟩
    have hentered {l : Location} {e : Entry} (he : t.get? l = some e) (hl : l ≠ []) :
        ∃ x ∈ t.entries, x.1 = l :=
      List.mem_map.1 ((t.isSome_get?_iff hl).1 (by rw [he]; rfl))
    refine ⟨hnodup, hnames, fun l e he => ?_, fun l k hk => ?_⟩
    · by_cases hl : l = []
      · rw [hl]
        rfl
      · obtain ⟨x, hx, rfl⟩ := hentered he hl
        exact hparent x hx
    · obtain ⟨e, he, htarget⟩ := Option.bind_eq_some_iff.1 hk
      have hl : l ≠ [] := by
        rintro rfl
        obtain rfl := Option.some.inj he
        cases htarget
      obtain ⟨x, hx, rfl⟩ := hentered he hl
      exact hlinks x hx k hk

instance (t : Tree) : Decidable t.Proper := decidable_of_iff _ t.proper_iff.symm

/-- The names in a directory are those below which something is there. -/
theorem mem_children_iff (t : Tree) (l : Location) (n : String) :
    n ∈ t.children l ↔ (t.get? (l ++ [n])).isSome := by
  rw [isSome_get?_iff t (by simp)]
  simp only [children, List.mem_filterMap, List.mem_map, Option.ite_none_right_eq_some]
  refine exists_congr fun x => and_congr_right fun _ => ?_
  constructor
  · rintro ⟨rfl, hn⟩
    exact (List.dropLast_append_getLast? _ hn).symm
  · intro hx
    rw [hx]
    simp

/-- Putting an entry in the place of another one is putting it alone. -/
theorem set_set (t : Tree) (l : Location) (d e : Entry) : (t.set l d).set l e = t.set l e := by
  simp [set, List.filter_filter]

/-- A walk along names leads on by these names, unless it comes to where there is no directory. -/
theorem walk_of_isName (t : Tree) {ps : List String} (hnames : ∀ n ∈ ps, IsName n) (l : Location) :
    t.walk l ps = .ok (l ++ ps) ∨ ∃ r, t.walk l ps = .error r ∧ r.isAbsence = true := by
  induction ps generalizing l with
  | nil => exact Or.inl (by rw [walk, List.append_nil])
  | cons p ps ih =>
    obtain ⟨hp, hps⟩ := List.forall_mem_cons.1 hnames
    rw [walk_cons]
    cases hd : t.descend l p with
    | ok k =>
      obtain ⟨-, ⟨hdots, -⟩ | ⟨-, -, rfl⟩⟩ := descend_eq_ok.1 hd
      · exact absurd hdots hp.ne_dots
      · have := ih hps (l ++ [p])
        rwa [List.append_assoc] at this
    | error r =>
      refine Or.inr ⟨r, rfl, ?_⟩
      have hdots : (p == "..") = false := by simpa using hp.ne_dots
      have hshort : ¬maxNameBytes < p.utf8ByteSize := Nat.not_lt.2 hp.short
      unfold descend at hd
      split at hd
      · rw [hdots, if_neg hshort] at hd
        cases hd
      · obtain rfl := Except.error.inj hd
        rfl
      · obtain rfl := Except.error.inj hd
        rfl

namespace Proper

variable {t : Tree}

/-- The parts of a place where something is are names. -/
theorem isName (ht : t.Proper) {l : Location} {e : Entry} (h : t.get? l = some e) {n : String}
    (hn : n ∈ l) : IsName n := by
  have hl : l ≠ [] := by rintro rfl; simp at hn
  have hmem := (t.isSome_get?_iff hl).1 (by rw [h]; rfl)
  obtain ⟨x, hx, rfl⟩ := List.mem_map.1 hmem
  exact ht.names x hx n hn

/-- The parts of whatever there is lead from the root to it. -/
theorem walk_root (ht : t.Proper) {l : Location} {e : Entry} (h : t.get? l = some e) :
    t.walk [] l = .ok l := by
  induction l using List.reverseRecOn generalizing e with
  | nil => rfl
  | append_singleton l n ih =>
    have hup : t.get? l = some .directory := by
      have := ht.parent _ _ h
      rwa [List.dropLast_concat] at this
    have hn : IsName n := ht.isName h (by simp)
    rw [walk_append, ih hup]
    exact (walk_singleton ..).trans
      (descend_eq_ok.2 ⟨hup, Or.inr ⟨hn.ne_dots, hn.short, rfl⟩⟩)

/-- No name stands twice in a directory. -/
theorem nodup_children (ht : t.Proper) (l : Location) : (t.children l).Nodup := by
  have hkeys : t.children l = (t.entries.map Prod.fst).filterMap fun k =>
      if k.dropLast = l then k.getLast? else none := by
    rw [List.filterMap_map]
    rfl
  rw [hkeys]
  refine ht.nodup.filterMap fun k k' n hk hk' => ?_
  simp only [Option.mem_def, Option.ite_none_right_eq_some] at hk hk'
  rw [← List.dropLast_append_getLast? _ hk.2, ← List.dropLast_append_getLast? _ hk'.2,
    hk.1, hk'.1]

/-- No link leads to a directory in a tree whose other entries are neither. -/
theorem links_congr (ht : t.Proper) {t' : Tree}
    (h : ∀ l, t'.get? l = t.get? l ∨
      (t'.get? l).bind Entry.target? = none ∧ t'.get? l ≠ some .directory)
    (l k : Location) (hlink : t'.LinksTo l k) : t'.get? k ≠ some .directory := by
  rcases h k with hk | ⟨-, hk⟩
  · rcases h l with hl | ⟨hl, -⟩
    · rw [LinksTo, hl] at hlink
      exact hk ▸ ht.links l k hlink
    · cases hl.symm.trans hlink
  · exact hk

/-- Putting a file where no directory is keeps a tree proper. -/
theorem set_file (ht : t.Proper) {l : Location} (hl : l ≠ [])
    (hup : t.get? l.dropLast = some .directory) (hnames : ∀ n ∈ l, IsName n)
    (hd : t.get? l ≠ some .directory) (bytes : List UInt8) :
    (t.set l (.file bytes)).Proper where
  nodup := by
    simp only [set, List.map_cons, List.nodup_cons, List.mem_map, List.mem_filter]
    refine ⟨?_, ht.nodup.sublist ((List.filter_sublist).map _)⟩
    rintro ⟨x, ⟨_, hx⟩, rfl⟩
    simp at hx
  names := by
    intro x hx n hn
    rcases List.mem_cons.1 hx with rfl | hx
    · exact hnames n hn
    · exact ht.names x (List.mem_of_mem_filter hx) n hn
  parent := by
    have hdir {k : Location} (hk : t.get? k = some .directory) :
        (t.set l (.file bytes)).get? k = some .directory := by
      rw [get?_set_of_ne (by rintro rfl; exact hd hk), hk]
    intro k e hk
    by_cases hkl : k = l
    · subst hkl; exact hdir hup
    · rw [get?_set_of_ne hkl] at hk
      exact hdir (ht.parent k e hk)
  links := ht.links_congr fun k => by
    by_cases hk : k = l
    · rw [hk, get?_set_self hl]
      exact .inr ⟨rfl, by simp⟩
    · exact .inl (get?_set_of_ne hk)

/-- Removing what is no directory keeps a tree proper. -/
theorem erase (ht : t.Proper) {l : Location} (hd : t.get? l ≠ some .directory) :
    (t.erase l).Proper where
  nodup := ht.nodup.sublist ((List.filter_sublist).map _)
  names x hx := ht.names x (List.mem_of_mem_filter hx)
  parent := by
    have hl : l ≠ [] := by rintro rfl; exact hd rfl
    intro k e hk
    have hkl : k ≠ l := by rintro rfl; rw [get?_erase_self hl] at hk; simp at hk
    rw [get?_erase_of_ne hkl] at hk
    have hup := ht.parent k e hk
    rwa [get?_erase_of_ne (by rintro heq; exact hd (heq ▸ hup))]
  links := ht.links_congr fun k => by
    have hl : l ≠ [] := by rintro rfl; exact hd rfl
    by_cases hk : k = l
    · rw [hk, get?_erase_self hl]
      exact .inr ⟨rfl, by simp⟩
    · exact .inl (get?_erase_of_ne hk)

/-- Only a directory is found as one. -/
theorem look_eq_directory_iff (ht : t.Proper) {l : Location} :
    t.look l = .ok .directory ↔ t.get? l = some .directory := by
  constructor
  · intro h
    obtain ⟨k, -, hleads, hk, -⟩ := look_eq_ok h
    rcases Relation.ReflTransGen.cases_tail hleads with rfl | ⟨m, -, hm⟩
    · exact hk
    · exact absurd hk (ht.links m k hm)
  · exact fun h => look_of_get? h rfl

end Proper

end Tree

/-- Parts without two dots among them are kept as they are. -/
theorem Path.foldl_push_of_not_mem {l : List String} (hl : ".." ∉ l) (behind : List String) :
    l.foldl push behind = l.reverse ++ behind := by
  induction l generalizing behind with
  | nil => rfl
  | cons n l ih =>
    rw [List.mem_cons, not_or] at hl
    have hn : push behind n = n :: behind := by simp [push, Ne.symm hl.1]
    rw [List.foldl_cons, hn, ih hl.2, List.reverse_cons, List.append_assoc]
    rfl

/-- Collapsing parts behind a place is walking from it, if the walk succeeds. -/
theorem Path.foldl_push_of_walk {t : Tree} {l k : Location} {ps : List String}
    (h : t.walk l ps = .ok k) : ps.foldl push l.reverse = k.reverse := by
  induction ps generalizing l with
  | nil =>
    obtain rfl : l = k := by simpa [Tree.walk] using h
    rfl
  | cons p ps ih =>
    rw [Tree.walk_cons] at h
    cases hd : t.descend l p with
    | error r => rw [hd] at h; simp [Except.bind] at h
    | ok m =>
      rw [hd] at h
      rw [List.foldl_cons, ← ih h]
      obtain ⟨-, ⟨rfl, rfl⟩ | ⟨hp, -, rfl⟩⟩ := Tree.descend_eq_ok.1 hd
      · simp [push, List.dropLast_eq_take, List.reverse_take]
      · simp [push, hp]

/-- The parts of a place and of a walk from it collapse to where the walk leads. -/
theorem Path.collapse_append_of_walk {t : Tree} {l k : Location} {ps : List String}
    (hl : ".." ∉ l) (h : t.walk l ps = .ok k) : Path.collapse (l ++ ps) = k := by
  rw [Path.collapse, List.foldl_append, foldl_push_of_not_mem hl, List.append_nil,
    foldl_push_of_walk h, List.reverse_reverse]

/-- A walk to a directory starts at one. -/
theorem Tree.get?_of_walk {t : Tree} {l k : Location} {ps : List String} (h : t.walk l ps = .ok k)
    (hd : t.get? k = some .directory) : t.get? l = some .directory := by
  cases ps with
  | nil =>
    obtain rfl : l = k := by simpa [walk] using h
    exact hd
  | cons p ps =>
    rw [walk_cons] at h
    cases hp : t.descend l p with
    | error r => rw [hp] at h; cases h
    | ok m => exact (descend_eq_ok.1 hp).1

/-- The place that a path to a directory names is that of the directory. -/
theorem Tree.real_of_walk {t : Tree} {l k : Location} {ps : List String} (h : t.walk l ps = .ok k)
    (hd : t.get? k = some .directory) : t.real l ps = k := by
  induction ps generalizing l with
  | nil => exact Except.ok.inj h
  | cons p ps ih =>
    rw [walk_cons] at h
    cases hp : t.descend l p with
    | error r => rw [hp] at h; cases h
    | ok m =>
      rw [hp] at h
      have hm : t.get? m = some .directory := get?_of_walk h hd
      rw [real]
      obtain ⟨-, ⟨rfl, rfl⟩ | ⟨hdots, -, rfl⟩⟩ := descend_eq_ok.1 hp
      · exact ih h
      · rw [if_neg (by simpa using hdots), follow_eq_self (by rw [hm]; rfl)]
        exact ih h

instance (w : Workspace) : Decidable w.Proper :=
  decidable_of_iff (w.tree.Proper ∧ w.tree.get? w.here = some .directory)
    ⟨fun ⟨h, h'⟩ => ⟨h, h'⟩, fun ⟨h, h'⟩ => ⟨h, h'⟩⟩

/-- The absolute path of a directory consists of the names of its place. -/
theorem Workspace.resolve_eq {w : Workspace} {p : Path} {l : Location} (h : w.locate p = .ok l)
    (hd : w.tree.get? l = some .directory) : w.resolve p = ⟨.root, l⟩ := by
  unfold resolve
  rw [Tree.real_of_walk h hd]

namespace Workspace.Proper

variable {w : Workspace}

/-- The absolute path of a directory leads to it. -/
theorem locate_absolute (hw : w.Proper) {p : Path} {l : Location} (h : w.locate p = .ok l)
    (hd : w.tree.get? l = some .directory) : w.locate (w.absolute p) = .ok l := by
  have hparts : (w.absolute p).parts = l := by
    unfold Workspace.absolute Path.absolute
    unfold locate at h
    split
    · rename_i ha
      rw [ha] at h
      have := Path.collapse_append_of_walk (l := []) (by simp) h
      simpa using this
    · rename_i ha
      simp only [ha, Bool.false_eq_true, if_false] at h
      rw [Path.collapse_append_of_walk _ h]
      intro hdots
      exact (hw.tree.isName hw.here hdots).ne_dots rfl
  have habs : (w.absolute p).isAbsolute = true := by
    unfold Workspace.absolute Path.absolute
    split
    · assumption
    · rfl
  unfold locate
  rw [habs, hparts]
  exact hw.tree.walk_root hd

/-- A path below a directory leads where it leads below the absolute path of the directory. -/
theorem locate_resolve_join (hw : w.Proper) {d : Path} {l : Location} (h : w.locate d = .ok l)
    (hd : w.tree.get? l = some .directory) (q : Path) :
    w.locate ((w.resolve d).join q) = w.locate (d.join q) := by
  unfold Path.join
  split
  · rfl
  · rw [resolve_eq h hd, locate_append, locate_append, h]
    have hroot : w.locate ⟨.root, l⟩ = .ok l := hw.tree.walk_root hd
    rw [hroot]

/-- The parts of a walk that leads to something have no NUL character. -/
private theorem nul_not_mem_of_walk {t : Tree} (ht : t.Proper) {l k : Location} {ps : List String}
    (h : t.walk l ps = .ok k) (hk : (t.get? k).isSome) : ∀ n ∈ ps, '\x00' ∉ n.toList := by
  induction ps generalizing l with
  | nil => simp
  | cons p ps ih =>
    rw [Tree.walk_cons] at h
    cases hd : t.descend l p with
    | error r => rw [hd] at h; cases h
    | ok m =>
      rw [hd] at h
      refine List.forall_mem_cons.2 ⟨?_, ih h⟩
      obtain ⟨-, ⟨rfl, -⟩ | ⟨-, -, rfl⟩⟩ := Tree.descend_eq_ok.1 hd
      · decide
      · have hm : (t.get? (l ++ [p])).isSome := by
          cases ps with
          | nil => obtain rfl := Except.ok.inj h; exact hk
          | cons q ps =>
            change (t.walk (l ++ [p]) (q :: ps)) = .ok k at h
            rw [Tree.walk_cons] at h
            cases hq : t.descend (l ++ [p]) q with
            | error r => rw [hq] at h; cases h
            | ok _ => rw [(Tree.descend_eq_ok.1 hq).1]; rfl
        obtain ⟨e, he⟩ := Option.isSome_iff_exists.1 hm
        exact (ht.isName he (by simp)).nul_not_mem

/-- A path that leads to something has no NUL character in its text. -/
theorem nul_not_mem_text (hw : w.Proper) {p : Path} {l : Location} (h : w.locate p = .ok l)
    (hl : (w.tree.get? l).isSome) : '\x00' ∉ p.text.toList := by
  rw [Path.nul_mem_text_iff]
  push Not
  exact nul_not_mem_of_walk hw.tree h hl

/-- A path below a directory names the same below the absolute path of the directory. -/
theorem test_resolve_join (hw : w.Proper) {d : Path} {l : Location} (h : w.locate d = .ok l)
    (hd : w.tree.get? l = some .directory) (q : Entry → Bool) (p : Path) (b : Bool) :
    w.test q ((w.resolve d).join p) = .ok b ↔ w.test q (d.join p) = .ok b := by
  have hnul : '\x00' ∈ ((w.resolve d).join p).text.toList ↔ '\x00' ∈ (d.join p).text.toList := by
    have hroot : w.locate ⟨.root, l⟩ = .ok l := hw.tree.walk_root hd
    have hl := hw.nul_not_mem_text hroot (by rw [hd]; rfl)
    have hp := hw.nul_not_mem_text h (by rw [hd]; rfl)
    rw [Path.nul_mem_text_iff] at hl hp
    rw [resolve_eq h hd, Path.nul_mem_text_iff, Path.nul_mem_text_iff]
    unfold Path.join
    split
    · exact Iff.rfl
    · simp only [List.mem_append, or_and_right, exists_or, hl, hp, false_or]
  unfold Workspace.test
  rw [probe_eq_bind, probe_eq_bind, hw.locate_resolve_join h hd]
  simp only [List.contains_iff_mem, hnul]
  split
  · exact Iff.rfl
  · split
    · exact Iff.rfl
    · split
      · exact Iff.rfl
      · simp

/-- A file below a directory reads the same below the absolute path of the directory. -/
theorem read_resolve_join (hw : w.Proper) {d : Path} {l : Location} (h : w.locate d = .ok l)
    (hd : w.tree.get? l = some .directory) (p : Path) (bytes : List UInt8) :
    w.read ((w.resolve d).join p) = .ok bytes ↔ w.read (d.join p) = .ok bytes := by
  unfold Workspace.read
  rw [probe_eq_bind, probe_eq_bind, hw.locate_resolve_join h hd]
  split <;> simp

/-- A test that succeeds is about what a path leads to. -/
private theorem test_eq_true_iff (hw : w.Proper) {q : Entry → Bool} {p : Path} :
    w.test q p = .ok true ↔ ∃ l e, w.locate p = .ok l ∧ w.tree.look l = .ok e ∧ q e = true := by
  unfold Workspace.test
  rw [probe_eq_bind]
  constructor
  · intro h
    split at h
    · cases h
    · cases hl : w.locate p with
      | error r =>
        simp only [hl, Except.bind] at h
        split at h <;> cases h
      | ok l =>
        cases he : w.tree.look l with
        | error r => simp [hl, he, Except.bind, Tree.isAbsence_of_look he] at h
        | ok e => exact ⟨l, e, rfl, he, by simpa [hl, he, Except.bind] using h⟩
  · rintro ⟨l, e, hl, he, hq⟩
    have hnul := hw.nul_not_mem_text hl (Tree.isSome_get?_of_look he)
    rw [if_neg (by simpa using hnul)]
    simp [hl, he, hq, Except.bind]

/-- A path names a directory exactly when it leads to one. -/
theorem isDirectory_eq_true_iff (hw : w.Proper) {p : Path} :
    w.isDirectory p = .ok true ↔ ∃ l, w.locate p = .ok l ∧ w.tree.get? l = some .directory := by
  unfold Workspace.isDirectory
  rw [hw.test_eq_true_iff]
  simp [hw.tree.look_eq_directory_iff]

/-- A path names a regular file exactly when it leads to one. -/
theorem isFile_eq_true_iff (hw : w.Proper) {p : Path} :
    w.isFile p = .ok true ↔
      ∃ l bytes, w.locate p = .ok l ∧ w.tree.look l = .ok (.file bytes) := by
  unfold Workspace.isFile
  rw [hw.test_eq_true_iff]
  constructor
  · rintro ⟨l, e, hl, he, hq⟩
    cases e with
    | file bytes => exact ⟨l, bytes, hl, he⟩
    | directory | device | link => cases hq
  · rintro ⟨l, bytes, hl, he⟩
    exact ⟨l, _, hl, he, rfl⟩

/-- What is in a directory has a name, and the path of the name in the directory leads to it. -/
theorem locate_child_of_get? (hw : w.Proper) {d : Path} {k : Location} {n : String} {e : Entry}
    (hk : w.locate d = .ok k) (he : w.tree.get? (k ++ [n]) = some e) :
    IsName n ∧ w.locate (d.child n) = .ok (k ++ [n]) := by
  have hname : IsName n := hw.tree.isName he (by simp)
  have hd := hw.tree.parent _ _ he
  rw [List.dropLast_concat] at hd
  exact ⟨hname, (locate_child_eq_ok hname.toIsPlain hname.ne_dots).2 ⟨k, hk, hd, hname.short, rfl⟩⟩

/-- What is found of a name in a directory, the path of the name leads to. -/
theorem locate_child_of_look (hw : w.Proper) {d : Path} {k : Location} {n : String} {e : Entry}
    (hk : w.locate d = .ok k) (he : w.tree.look (k ++ [n]) = .ok e) :
    IsName n ∧ w.locate (d.child n) = .ok (k ++ [n]) := by
  obtain ⟨e', he'⟩ := Option.isSome_iff_exists.1 (Tree.isSome_get?_of_look he)
  exact hw.locate_child_of_get? hk he'

/-- The names in a directory stand in order, each once, and are those below which something is. -/
theorem list_eq_ok (hw : w.Proper) {p : Path} {names : List String} (h : w.list p = .ok names) :
    names.Pairwise (· < ·) ∧
      ∀ n, n ∈ names ↔ ∃ l, w.locate p = .ok l ∧ (w.tree.get? (l ++ [n])).isSome := by
  unfold Workspace.list at h
  split at h
  · cases h
  · rename_i hd
    obtain rfl := Except.ok.inj h
    refine ⟨.nil, fun n => iff_of_false (List.not_mem_nil) ?_⟩
    rintro ⟨l, hl, hn⟩
    obtain ⟨e, he⟩ := Option.isSome_iff_exists.1 hn
    have hup := hw.tree.parent _ _ he
    rw [List.dropLast_concat] at hup
    have := hw.isDirectory_eq_true_iff.2 ⟨l, hl, hup⟩
    rw [hd] at this
    cases this
  · split at h
    · rename_i hd _ r hr
      obtain ⟨l, hl, -⟩ := hw.isDirectory_eq_true_iff.1 hd
      rw [hr] at hl
      cases hl
    · rename_i l hl
      obtain rfl := Except.ok.inj h
      refine ⟨?_, fun n => ?_⟩
      · have hsorted : ((w.tree.children l).mergeSort fun a b => decide (a ≤ b)).Pairwise
            fun a b => decide (a ≤ b) = true :=
          List.pairwise_mergeSort
            (fun a b c hab hbc => by simpa using le_trans (by simpa using hab) (by simpa using hbc))
            (fun a b => by simpa using le_total a b) (w.tree.children l)
        have hnodup : ((w.tree.children l).mergeSort fun a b => decide (a ≤ b)).Nodup :=
          (List.mergeSort_perm (w.tree.children l) (fun a b : String => decide (a ≤ b))).nodup_iff.2
            (hw.tree.nodup_children l)
        exact (hsorted.and hnodup).imp fun ⟨hle, hne⟩ => lt_of_le_of_ne (by simpa using hle) hne
      · rw [List.mem_mergeSort, Tree.mem_children_iff]
        simp [hl]

/-- Of what is listed one can tell whether it is a regular file. -/
theorem exists_isFile_eq_ok (hw : w.Proper) {p : Path} {names : List String}
    (h : w.list p = .ok names) {n : String} (hn : n ∈ names) :
    ∃ b, w.isFile (p.child n) = .ok b := by
  obtain ⟨l, hl, hsome⟩ := ((hw.list_eq_ok h).2 n).1 hn
  obtain ⟨e, he⟩ := Option.isSome_iff_exists.1 hsome
  obtain ⟨-, hlocate⟩ := hw.locate_child_of_get? hl he
  cases hfile : w.isFile (p.child n) with
  | ok b => exact ⟨b, rfl⟩
  | error e =>
    obtain ⟨-, r, hr, -⟩ := test_eq_error_iff.1 hfile
    rw [hlocate] at hr
    cases hr

/-- Of a place that there can be one can tell whether anything is there, if its path is one that the
system takes. -/
theorem pathExists_root (hw : w.Proper) {l : Location} (hnames : ∀ n ∈ l, IsName n) :
    w.pathExists ⟨.root, l⟩ =
      if (⟨.root, l⟩ : Path).text.utf8ByteSize ≤ maxPathBytes then .ok (w.tree.look l).isOk
      else .error { refusal := .nameTooLong, path := (⟨.root, l⟩ : Path).text } := by
  have hnul : '\x00' ∉ (⟨.root, l⟩ : Path).text.toList := by
    rw [Path.nul_mem_text_iff]
    rintro ⟨n, hn, hmem⟩
    exact (hnames n hn).nul_not_mem hmem
  have htest : w.test (fun _ => true) ⟨.root, l⟩ = .ok (w.tree.look l).isOk := by
    have hlocate : w.locate ⟨.root, l⟩ = w.tree.walk [] l := rfl
    unfold Workspace.test
    rw [if_neg (by simpa using hnul), probe_eq_bind, hlocate]
    cases he : w.tree.look l with
    | ok e =>
      obtain ⟨e', he'⟩ := Option.isSome_iff_exists.1 (Tree.isSome_get?_of_look he)
      simp [hw.tree.walk_root he', Except.bind, he, Except.isOk, Except.toBool]
    | error r =>
      rcases w.tree.walk_of_isName hnames [] with hwalk | ⟨r', hwalk, habsent⟩
      · rw [List.nil_append] at hwalk
        simp [hwalk, Except.bind, he, Tree.isAbsence_of_look he, Except.isOk, Except.toBool]
      · simp [hwalk, Except.bind, habsent, Except.isOk, Except.toBool]
  unfold Workspace.pathExists
  rw [if_neg (by simpa using hnul), htest]
  by_cases hfits : (⟨.root, l⟩ : Path).text.utf8ByteSize ≤ maxPathBytes
  · rw [if_neg (Nat.not_lt.2 hfits), if_pos hfits]
  · rw [if_pos (Nat.not_le.1 hfits), if_neg hfits]

end Workspace.Proper

/-- Whether a path names a directory is the same in workspaces with the same directories. -/
theorem Workspace.SameBut.isDirectory {S : Set Location} {v w : Workspace}
    (h : Workspace.SameBut S v w) (hv : v.Proper) (hw : w.Proper) (p : Path) :
    v.isDirectory p = w.isDirectory p := by
  have htrue : v.isDirectory p = .ok true ↔ w.isDirectory p = .ok true := by
    rw [hv.isDirectory_eq_true_iff, hw.isDirectory_eq_true_iff]
    exact exists_congr fun l => and_congr ((h.locate p).ok_iff l) (h.directory_iff l)
  cases hd : v.isDirectory p with
  | error e => exact (h.test_eq_error_iff.1 hd).symm
  | ok b =>
    cases hd' : w.isDirectory p with
    | error e =>
      rw [show v.isDirectory p = .error e from h.test_eq_error_iff.2 hd'] at hd
      cases hd
    | ok b' =>
      rw [hd, hd', Except.ok.injEq, Except.ok.injEq] at htrue
      exact congrArg Except.ok (Bool.eq_iff_iff.2 htrue)

/-- Listing fails, if it does, in asking whether there is a directory. -/
theorem Workspace.list_eq_error_iff {w : Workspace} {p : Path} {e : Error} :
    w.list p = .error e ↔ w.isDirectory p = .error e := by
  unfold list
  split
  · rename_i hd
    simp [hd]
  · rename_i hd
    simp [hd]
  · rename_i hd
    split <;> simp [hd]

/-- A file is removed where its path leads to it. -/
theorem Workspace.unlink_of_look {w : Workspace} {p : Path} {l : Location} {bytes : List UInt8}
    (hl : w.locate p = .ok l) (hfile : w.tree.look l = .ok (.file bytes)) :
    w.unlink p = .ok { w with tree := w.tree.erase l } := by
  obtain ⟨e, he⟩ := Option.isSome_iff_exists.1 (Tree.isSome_get?_of_look hfile)
  unfold unlink
  rw [hl]
  cases e with
  | directory => cases (Tree.look_of_get? he rfl).symm.trans hfile
  | file | device | link => simp only [he]

/-- The names in a directory that are kept in order are listed as they are kept. -/
theorem Workspace.list_of_pairwise {w : Workspace} {p : Path} {l : Location} {names : List String}
    (hd : w.isDirectory p = .ok true) (hl : w.locate p = .ok l) (hnames : w.tree.children l = names)
    (hsorted : names.Pairwise (· ≤ ·)) : w.list p = .ok names := by
  simp only [list, hd, hl, hnames]
  exact congrArg Except.ok (List.mergeSort_of_pairwise (hsorted.imp (by simp)))

end TypeWeave.File
