import TypeWeave.Proofs.File.Walk
import TypeWeave.Proofs.Text.Search

/-!
# Names in paths

A text without a slash that is neither empty nor a dot is read as a path of that one part, so that
the path of such a name in a directory is one step below the directory.
-/

namespace TypeWeave.File

/-- A text that is read as a path of one part. -/
structure IsPlain (n : String) : Prop where
  ne_empty : n ≠ ""
  ne_dot : n ≠ "."
  slash_not_mem : '/' ∉ n.toList

/-- A name that an entry of a directory can have. -/
structure IsName (n : String) : Prop extends IsPlain n where
  ne_dots : n ≠ ".."
  nul_not_mem : '\x00' ∉ n.toList
  short : n.utf8ByteSize ≤ maxNameBytes

instance : DecidablePred IsName := fun n =>
  decidable_of_iff ((n ≠ "" ∧ n ≠ "." ∧ '/' ∉ n.toList) ∧ n ≠ ".." ∧ '\x00' ∉ n.toList ∧
      n.utf8ByteSize ≤ maxNameBytes)
    ⟨fun ⟨⟨h₁, h₂, h₃⟩, h₄, h₅, h₆⟩ => ⟨⟨h₁, h₂, h₃⟩, h₄, h₅, h₆⟩,
      fun ⟨⟨h₁, h₂, h₃⟩, h₄, h₅, h₆⟩ => ⟨⟨h₁, h₂, h₃⟩, h₄, h₅, h₆⟩⟩

namespace Path

/-- A text without a slash is a relative path of at most one part. -/
theorem ofString_of_slash_not_mem {n : String} (h : '/' ∉ n.toList) :
    ofString n = ⟨.relative, [n].filter fun p => p != "" && p != "."⟩ := by
  have hanchor : anchorOf n.toList = .relative := by
    cases hn : n.toList with
    | nil => rfl
    | cons c cs =>
      have hc : c ≠ '/' := by rintro rfl; exact h (hn ▸ List.mem_cons_self)
      unfold anchorOf
      split <;> simp_all
  unfold ofString
  rw [hanchor, Text.splitOn_singleton_of_not_mem h, List.map_singleton, String.ofList_toList]

/-- A plain text is a relative path of that part. -/
theorem ofString_of_isPlain {n : String} (h : IsPlain n) : ofString n = ⟨.relative, [n]⟩ := by
  rw [ofString_of_slash_not_mem h.slash_not_mem]
  simp [h.ne_empty, h.ne_dot]

/-- A plain name in a directory is one more part. -/
theorem child_of_isPlain {n : String} (h : IsPlain n) (d : Path) :
    d.child n = ⟨d.anchor, d.parts ++ [n]⟩ := by
  rw [child, ofString_of_isPlain h]
  rfl

/-- The directory of a plain name in a directory. -/
theorem parent_child {n : String} (h : IsPlain n) (d : Path) : (d.child n).parent = d := by
  rw [child_of_isPlain h, parent, List.dropLast_concat]

/-- The last part of a plain name in a directory. -/
theorem name_child {n : String} (h : IsPlain n) (d : Path) : (d.child n).name = n := by
  rw [child_of_isPlain h, name, List.getLast?_concat]
  rfl

/-- A path has a NUL character in its text when one of its parts has. -/
theorem nul_mem_text_iff (p : Path) :
    '\x00' ∈ p.text.toList ↔ ∃ n ∈ p.parts, '\x00' ∈ n.toList := by
  have hjoin (ps : List String) :
      '\x00' ∈ (joinParts ps).toList ↔ ∃ n ∈ ps, '\x00' ∈ n.toList := by
    rw [joinParts, String.toList_ofList, Text.mem_intercalate (by decide)]
    simp
  obtain ⟨a, ps⟩ := p
  have hanchor : '\x00' ∉ a.text.toList := by cases a <;> decide
  unfold text
  split
  · rename_i heq _
    simp_all
  · rw [String.toList_append, List.mem_append, hjoin]
    simp [hanchor]

/-- Parts joined take a slash between each two. -/
theorem joinParts_cons_cons (p q : String) (ps : List String) :
    joinParts (p :: q :: ps) = p ++ "/" ++ joinParts (q :: ps) := by
  rw [← String.toList_inj]
  simp [joinParts, Text.intercalate]

/-- The bytes of some parts with a slash before each of them. -/
def slashedSize : List String → Nat
  | [] => 0
  | p :: ps => p.utf8ByteSize + 1 + slashedSize ps

/-- Parts and other parts take the bytes of both. -/
theorem slashedSize_append (ps qs : List String) :
    slashedSize (ps ++ qs) = slashedSize ps + slashedSize qs := by
  induction ps with
  | nil => simp [slashedSize]
  | cons p ps ih => simp [slashedSize, ih, Nat.add_assoc]

/-- The text of a path from the root has a slash before each part. -/
theorem utf8ByteSize_text_root {ps : List String} (h : ps ≠ []) :
    (⟨.root, ps⟩ : Path).text.utf8ByteSize = slashedSize ps := by
  have hjoin (ps : List String) (h : ps ≠ []) :
      (joinParts ps).utf8ByteSize + 1 = slashedSize ps := by
    induction ps with
    | nil => exact absurd rfl h
    | cons p ps ih =>
      cases ps with
      | nil => simp [joinParts, Text.intercalate, slashedSize]
      | cons q ps =>
        have hslash : "/".utf8ByteSize = 1 := by decide
        rw [joinParts_cons_cons, String.utf8ByteSize_append, String.utf8ByteSize_append,
          slashedSize, ← ih (List.cons_ne_nil _ _)]
        omega
  have hroot : Anchor.root.text.utf8ByteSize = 1 := by decide
  have htext : (⟨.root, ps⟩ : Path).text = Anchor.root.text ++ joinParts ps := rfl
  rw [htext, String.utf8ByteSize_append, hroot, ← hjoin ps h, Nat.add_comm]

end Path

namespace Workspace

/-- A path with more parts leads on from where the shorter one leads. -/
theorem locate_append (w : Workspace) (a : Anchor) (ps qs : List String) :
    w.locate ⟨a, ps ++ qs⟩ = (w.locate ⟨a, ps⟩).bind fun l => w.tree.walk l qs :=
  Tree.walk_append ..

/-- A plain name in a directory is one step below it. -/
theorem locate_child (w : Workspace) {n : String} (h : IsPlain n) (d : Path) :
    w.locate (d.child n) = (w.locate d).bind fun l => w.tree.descend l n := by
  rw [Path.child_of_isPlain h, locate_append]
  simp only [Tree.walk_singleton]

/-- Where a plain name in a directory leads. -/
theorem locate_child_eq_ok {w : Workspace} {n : String} (h : IsPlain n) (hdots : n ≠ "..")
    {d : Path} {l : Location} :
    w.locate (d.child n) = .ok l ↔ ∃ k, w.locate d = .ok k ∧
      w.tree.get? k = some .directory ∧ n.utf8ByteSize ≤ maxNameBytes ∧ l = k ++ [n] := by
  rw [locate_child w h]
  cases w.locate d with
  | error r => simp [Except.bind]
  | ok k => simp [Except.bind, Tree.descend_eq_ok, hdots]

/-- A plain name in a directory leads to the same place, or is refused for the same reason, in
workspaces with the same directories. -/
theorem SameBut.locate_child {S : Set Location} {v w : Workspace} (h : SameBut S v w) {n : String}
    (hn : IsPlain n) {d : Path} {k : Location} (hk : v.locate d = .ok k)
    (hd : v.tree.get? k = some .directory) : v.locate (d.child n) = w.locate (d.child n) := by
  have hk' := ((h.locate d).ok_iff k).1 hk
  rw [Workspace.locate_child v hn, Workspace.locate_child w hn, hk, hk']
  simp only [Except.bind, Tree.descend, hd, (h.directory_iff k).1 hd]

end Workspace

end TypeWeave.File
