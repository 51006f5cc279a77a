import TypeWeave.Proofs.File.Proper
import TypeWeave.Proofs.Text.LineEnd

/-!
# File trees and line ends

Carriage returns in the files at some places of a file tree change what is read there and nothing
else: paths lead to the same places, the same files are listed, and the tree stays proper.
-/

namespace TypeWeave.File

open Text (crlfBytes)

/-- What a place holds, with a carriage return before each line feed of a regular file. -/
def Entry.crlf : Entry → Entry
  | .directory => .directory
  | .file bytes => .file (crlfBytes bytes)
  | .device => .device
  | .link k => .link k

/-- A file tree with carriage returns in the files at some places. -/
def Tree.crlfAt (changed : Location → Bool) (t : Tree) : Tree :=
  ⟨t.entries.map fun x => (x.1, if changed x.1 then x.2.crlf else x.2)⟩

/-- A workspace with carriage returns in the files at some places. -/
def Workspace.crlfAt (changed : Location → Bool) (w : Workspace) : Workspace :=
  { w with tree := w.tree.crlfAt changed }

variable {changed : Location → Bool}

namespace Tree

variable (t : Tree)

/-- A place holds what it held, with carriage returns if it is one of those. -/
theorem get?_crlfAt (l : Location) : (t.crlfAt changed).get? l =
    (t.get? l).map fun e => if changed l then e.crlf else e := by
  have hlookup (entries : List (Location × Entry)) :
      (entries.map fun x => (x.1, if changed x.1 then x.2.crlf else x.2)).lookup l =
        (entries.lookup l).map fun e => if changed l then e.crlf else e := by
    induction entries with
    | nil => rfl
    | cons x entries ih =>
      obtain ⟨k, e⟩ := x
      rw [List.map_cons, List.lookup_cons, List.lookup_cons, ih]
      cases h : l == k with
      | false => rfl
      | true =>
        obtain rfl := beq_iff_eq.1 h
        rfl
  by_cases hl : l = []
  · subst hl
    rw [get?, if_pos rfl, get?, if_pos rfl]
    cases changed [] <;> rfl
  · rw [get?_of_ne_nil _ hl, get?_of_ne_nil _ hl]
    exact hlookup t.entries

/-- The same places are directories. -/
theorem get?_crlfAt_eq_directory {l : Location} :
    (t.crlfAt changed).get? l = some .directory ↔ t.get? l = some .directory := by
  rw [get?_crlfAt]
  cases t.get? l with
  | none => simp
  | some e => cases e <;> cases changed l <;> simp [Entry.crlf]

@[simp] theorem children_crlfAt (l : Location) : (t.crlfAt changed).children l = t.children l := by
  rw [children, crlfAt, List.filterMap_map]
  rfl

/-- Paths lead to the same places. -/
theorem walk_crlfAt (l : Location) (parts : List String) :
    (t.crlfAt changed).walk l parts = t.walk l parts := by
  have hdescend (l : Location) (n : String) :
      (t.crlfAt changed).descend l n = t.descend l n := by
    rw [descend, get?_crlfAt, descend]
    cases t.get? l with
    | none => rfl
    | some e => cases e <;> cases changed l <;> rfl
  induction parts generalizing l with
  | nil => rfl
  | cons n parts ih =>
    rw [walk, hdescend, walk]
    cases t.descend l n with
    | error r => rfl
    | ok k => exact ih k

/-- The same places are links, and lead to the same places. -/
theorem target?_crlfAt (l : Location) :
    ((t.crlfAt changed).get? l).bind Entry.target? = (t.get? l).bind Entry.target? := by
  rw [get?_crlfAt]
  cases t.get? l with
  | none => rfl
  | some e => cases e <;> cases changed l <;> rfl

/-- Links end at the same places. -/
theorem follow_crlfAt (l : Location) : (t.crlfAt changed).follow l = t.follow l :=
  followAtMost_congr (fun k _ => t.target?_crlfAt k) maxLinks

theorem Proper.crlfAt {t : Tree} (ht : t.Proper) : (t.crlfAt changed).Proper where
  nodup := by
    rw [Tree.crlfAt, List.map_map]
    exact ht.nodup
  names := by
    intro x hx
    obtain ⟨y, hy, rfl⟩ := List.mem_map.1 hx
    exact ht.names y hy
  parent := by
    intro l e he
    rw [get?_crlfAt, Option.map_eq_some_iff] at he
    obtain ⟨e, he, -⟩ := he
    exact (t.get?_crlfAt_eq_directory).2 (ht.parent l e he)
  links := by
    intro l k hlink
    rw [LinksTo, target?_crlfAt] at hlink
    exact mt (t.get?_crlfAt_eq_directory).1 (ht.links l k hlink)

end Tree

namespace Workspace

variable (w : Workspace)

theorem Proper.crlfAt {w : Workspace} (hw : w.Proper) : (w.crlfAt changed).Proper :=
  ⟨hw.tree.crlfAt, (w.tree.get?_crlfAt_eq_directory).2 hw.here⟩

theorem locate_crlfAt (p : Path) : (w.crlfAt changed).locate p = w.locate p :=
  w.tree.walk_crlfAt _ _

theorem reach_crlfAt (p : Path) : (w.crlfAt changed).reach p = w.reach p := by
  rw [reach, locate_crlfAt, reach]
  cases w.locate p with
  | error r => rfl
  | ok l => exact w.tree.follow_crlfAt l

/-- A test that does not look into files says the same. -/
theorem test_crlfAt {q : Entry → Bool} (hq : ∀ e : Entry, q e.crlf = q e) (p : Path) :
    (w.crlfAt changed).test q p = w.test q p := by
  unfold test
  split
  · rfl
  · rw [probe, reach_crlfAt, probe]
    cases w.reach p with
    | error r => rfl
    | ok l =>
      simp only [crlfAt, Tree.get?_crlfAt]
      cases w.tree.get? l with
      | none => rfl
      | some e =>
        cases changed l with
        | false => rfl
        | true => exact congrArg Except.ok (hq e)

@[simp] theorem isFile_crlfAt (p : Path) : (w.crlfAt changed).isFile p = w.isFile p :=
  w.test_crlfAt (fun e => by cases e <;> rfl) p

@[simp] theorem isDirectory_crlfAt (p : Path) :
    (w.crlfAt changed).isDirectory p = w.isDirectory p :=
  w.test_crlfAt (fun e => by cases e <;> rfl) p

@[simp] theorem list_crlfAt (p : Path) : (w.crlfAt changed).list p = w.list p := by
  unfold list
  rw [isDirectory_crlfAt, locate_crlfAt]
  simp only [crlfAt, Tree.children_crlfAt]

/-- A file holds what it held, with carriage returns if it is one of those. -/
theorem get?_crlfAt_of_file {w : Workspace} {l : Location} {bytes : List UInt8}
    (h : w.tree.get? l = some (.file bytes)) (changed : Location → Bool) :
    (w.crlfAt changed).tree.get? l =
      some (.file (if changed l then crlfBytes bytes else bytes)) := by
  rw [crlfAt, Tree.get?_crlfAt, h]
  cases changed l <;> rfl

end Workspace

end TypeWeave.File
