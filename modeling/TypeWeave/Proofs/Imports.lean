import TypeWeave.Imports
import TypeWeave.Proofs.Except
import TypeWeave.Proofs.Text.Blank
import Mathlib.Data.String.Basic

/-!
# Imports are an ordered set

Adding paths keeps them in strictly increasing order, and adds those paths and no others. Requests
are taken without the blanks around them, and one that is no text or blank is refused.
-/

namespace TypeWeave

namespace Template

/-- Texts are in the order of their characters. -/
theorem compareChars_eq_lt {as bs : List Char} : compareChars as bs = .lt ↔ as < bs := by
  induction as generalizing bs with
  | nil => cases bs <;> simp [compareChars]
  | cons a as ih =>
    cases bs with
    | nil => simp [compareChars]
    | cons b bs =>
      rw [compareChars, List.cons_lt_cons_iff]
      split
      · rename_i hab
        subst hab
        simp [ih]
      · rename_i hab
        have hlt : a.toNat < b.toNat ↔ a < b := Iff.rfl
        rw [Nat.compare_eq_lt, hlt]
        simp [hab]

/-- Texts compare equal when they are equal. -/
theorem compareChars_eq_eq {as bs : List Char} : compareChars as bs = .eq ↔ as = bs := by
  induction as generalizing bs with
  | nil => cases bs <;> simp [compareChars]
  | cons a as ih =>
    cases bs with
    | nil => simp [compareChars]
    | cons b bs =>
      rw [compareChars, List.cons.injEq]
      split
      · rename_i hab
        simp [hab, ih]
      · rename_i hab
        rw [Nat.compare_eq_eq]
        exact iff_of_false (fun h => hab (Char.toNat_inj.1 h)) fun h => hab h.1

end Template

namespace Imports

open Template

/-- The path of a request: a text that is not blank, without the blanks around it. -/
def pathOf? : Value → Option String
  | .text s _ => if Text.blank s then none else some (Text.strip s)
  | _ => none

theorem mem_insertInto {p q : String} {ps : List String} :
    q ∈ insertInto p ps ↔ q = p ∨ q ∈ ps := by
  induction ps with
  | nil => simp [insertInto]
  | cons r ps ih =>
    unfold insertInto
    split
    · exact List.mem_cons
    · rename_i heq
      obtain rfl : p = r := String.toList_inj.1 (compareChars_eq_eq.1 heq)
      simp
    · simp only [List.mem_cons, ih]
      tauto

/-- A path is put in its place. -/
theorem pairwise_insertInto {p : String} {ps : List String} (h : ps.Pairwise (· < ·)) :
    (insertInto p ps).Pairwise (· < ·) := by
  induction ps with
  | nil => simp [insertInto]
  | cons q ps ih =>
    obtain ⟨hq, hps⟩ := List.pairwise_cons.1 h
    unfold insertInto
    split
    · rename_i hlt
      have hpq : p < q := String.lt_iff_toList_lt.2 (compareChars_eq_lt.1 hlt)
      exact List.pairwise_cons.2
        ⟨List.forall_mem_cons.2 ⟨hpq, fun r hr => hpq.trans (hq r hr)⟩, h⟩
    · exact h
    · rename_i hgt
      refine List.pairwise_cons.2 ⟨fun r hr => ?_, ih hps⟩
      rcases mem_insertInto.1 hr with rfl | hr
      · refine lt_of_le_of_ne (not_lt.1 fun hlt => ?_) fun heq => ?_
        · rw [compareChars_eq_lt.2 (String.lt_iff_toList_lt.1 hlt)] at hgt
          cases hgt
        · rw [compareChars_eq_eq.2 (congrArg _ heq.symm)] at hgt
          cases hgt
      · exact hq r hr

/-- Imports whose paths are in strictly increasing order. -/
def Ordered (i : Imports) : Prop := i.paths.Pairwise (· < ·)

theorem ordered_empty : empty.Ordered := .nil

theorem ordered_foldl_insert {i : Imports} (h : i.Ordered) (ps : List String) :
    (ps.foldl insert i).Ordered := by
  induction ps generalizing i with
  | nil => exact h
  | cons p ps ih => exact ih (pairwise_insertInto h)

theorem mem_foldl_insert {i : Imports} {q : String} {ps : List String} :
    q ∈ (ps.foldl insert i).paths ↔ q ∈ i.paths ∨ q ∈ ps := by
  induction ps generalizing i with
  | nil => simp
  | cons p ps ih =>
    rw [List.foldl_cons, ih, insert, mem_insertInto, List.mem_cons]
    tauto

/-- All the paths of two sets. -/
def union (i j : Imports) : Imports := j.paths.foldl insert i

theorem ordered_union {i : Imports} (h : i.Ordered) (j : Imports) : (i.union j).Ordered :=
  ordered_foldl_insert h _

theorem mem_union {i j : Imports} {q : String} :
    q ∈ (i.union j).paths ↔ q ∈ i.paths ∨ q ∈ j.paths := mem_foldl_insert

/-- A request that is taken has a path, and adds it. -/
theorem register_eq_ok {i j : Imports} {v : Value} {s s' : Store}
    (h : (i.register v).run s = .ok (j, s')) :
    s' = s ∧ ∃ p, pathOf? v = some p ∧ j = i.insert p := by
  have hrefused (v : Value) : (do Eval.fault .value ("invalid import path: " ++
      (← Eval.inspect v)) : Eval Imports).run s ≠ .ok (j, s') := by
    intro h
    obtain ⟨x, -, h⟩ := Except.bind_eq_ok.1 h
    cases h
  unfold register at h
  split at h
  · rename_i t safe
    split at h
    · exact absurd h (hrefused _)
    · rename_i hblank
      cases h
      exact ⟨rfl, _, by simp [pathOf?, hblank], rfl⟩
  · exact absurd h (hrefused _)

/-- A request that has a path is taken. -/
theorem register_of_pathOf? {i : Imports} {v : Value} {p : String} (h : pathOf? v = some p)
    (s : Store) : (i.register v).run s = .ok (i.insert p, s) := by
  unfold pathOf? at h
  split at h
  · split at h
    · cases h
    · rename_i hblank
      cases h
      simp only [register, hblank]
      rfl
  · cases h

/-- Requests that all have paths are taken. -/
theorem registerAll_of_pathOf? {i : Imports} {vs : List Value} {ps : List String}
    (h : vs.map pathOf? = ps.map some) (s : Store) :
    (i.registerAll vs).run s = .ok ((ps.foldl insert i, none), s) := by
  induction vs generalizing i ps with
  | nil =>
    obtain rfl : ps = [] := by simpa using h.symm
    rfl
  | cons v vs ih =>
    obtain ⟨p, ps, rfl⟩ : ∃ p ps', ps = p :: ps' := List.exists_cons_of_ne_nil (by
      rintro rfl
      simp at h)
    obtain ⟨hp, hps⟩ := List.cons.inj h
    rw [StateT.run, registerAll]
    simp only [register_of_pathOf? hp]
    exact ih hps

/-- Paths that were requested are stripped already, and can be requested again. -/
theorem pathOf?_text {v : Value} {p : String} (h : pathOf? v = some p) (safe : Bool) :
    pathOf? (.text p safe) = some p := by
  unfold pathOf? at h
  split at h
  · split at h
    · cases h
    · rename_i hblank
      cases h
      rw [pathOf?, Text.blank_strip, Text.strip_strip, if_neg hblank]
  · cases h

/-- Requests that are all taken have paths, and add them. -/
theorem registerAll_eq_ok {i j : Imports} {vs : List Value} {s s' : Store}
    (h : (i.registerAll vs).run s = .ok ((j, none), s')) :
    ∃ ps : List String, vs.map pathOf? = ps.map some ∧ j = ps.foldl insert i := by
  induction vs generalizing i s with
  | nil =>
    cases h
    exact ⟨[], rfl, rfl⟩
  | cons v vs ih =>
    rw [StateT.run, registerAll] at h
    cases hk : (i.register v).run s with
    | error f =>
      simp only [hk] at h
      cases h
    | ok x =>
      obtain ⟨k, t⟩ := x
      simp only [hk] at h
      obtain ⟨-, p, hp, rfl⟩ := register_eq_ok hk
      obtain ⟨ps, hps, rfl⟩ := ih h
      exact ⟨p :: ps, by simp [hp, hps], rfl⟩

end Imports

end TypeWeave
