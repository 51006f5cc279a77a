import TypeWeave.Proofs.File.Link
import Mathlib.Data.Set.Basic

/-!
# Walking a tree

What a walk along the parts of a path depends on: the directories on its way and nothing else. Two
workspaces that differ only at places where neither holds a directory therefore lead every path to
the same place, or refuse it for reasons that both count as absence. A path then names the same in
both, unless links lead from its place to one that differs.
-/

namespace TypeWeave.File

/-- The three ways of going one directory deeper. -/
theorem Tree.descend_eq_ok {t : Tree} {l k : Location} {n : String} :
    t.descend l n = .ok k ↔ t.get? l = some .directory ∧
      (n = ".." ∧ k = l.dropLast ∨
        n ≠ ".." ∧ n.utf8ByteSize ≤ maxNameBytes ∧ k = l ++ [n]) := by
  unfold descend
  cases h : t.get? l with
  | none => simp
  | some e =>
    cases e with
    | file _ => simp
    | device => simp
    | link _ => simp
    | directory =>
      by_cases hn : n = ".."
      · simp [hn, @eq_comm _ k]
      · by_cases hs : n.utf8ByteSize ≤ maxNameBytes
        · simp [hn, hs, Nat.not_lt.2 hs, @eq_comm _ k]
        · simp [hn, hs, Nat.not_le.1 hs]

/-- A walk is its first step and the rest of it. -/
theorem Tree.walk_cons (t : Tree) (l : Location) (p : String) (ps : List String) :
    t.walk l (p :: ps) = (t.descend l p).bind fun k => t.walk k ps := by
  simp only [walk]
  cases t.descend l p <;> rfl

/-- A walk along some parts and then others is two walks. -/
theorem Tree.walk_append (t : Tree) (l : Location) (ps qs : List String) :
    t.walk l (ps ++ qs) = (t.walk l ps).bind fun k => t.walk k qs := by
  induction ps generalizing l with
  | nil => rfl
  | cons p ps ih =>
    simp only [List.cons_append, walk_cons]
    cases t.descend l p with
    | error r => rfl
    | ok k => exact ih k

/-- A walk of a single part is a step. -/
theorem Tree.walk_singleton (t : Tree) (l : Location) (n : String) :
    t.walk l [n] = t.descend l n := by
  rw [walk_cons]
  cases t.descend l n <;> rfl

/-- Two answers about a place that a program cannot tell apart when it asks whether something is
there: they are equal, or both are refusals that count as absence. -/
def Settled {α : Type} (r r' : Except Refusal α) : Prop :=
  r = r' ∨ ∃ e e', r = .error e ∧ r' = .error e' ∧ e.isAbsence = true ∧ e'.isAbsence = true

theorem Settled.refl {α : Type} (r : Except Refusal α) : Settled r r := Or.inl rfl

/-- Settled answers are the same places. -/
theorem Settled.ok_iff {α : Type} {r r' : Except Refusal α} (h : Settled r r') (a : α) :
    r = .ok a ↔ r' = .ok a := by
  rcases h with rfl | ⟨e, e', rfl, rfl, -, -⟩
  · exact Iff.rfl
  · simp

/-- Settled answers are the same refusals, unless these count as absence. -/
theorem Settled.error_iff {α : Type} {r r' : Except Refusal α} (h : Settled r r') {e : Refusal}
    (he : e.isAbsence = false) : r = .error e ↔ r' = .error e := by
  rcases h with rfl | ⟨e₁, e₂, rfl, rfl, h₁, h₂⟩
  · exact Iff.rfl
  · have hne {e' : Refusal} (he' : e'.isAbsence = true) :
        (Except.error e' : Except Refusal α) ≠ .error e := by
      rintro ⟨⟩
      rw [he] at he'
      cases he'
    exact iff_of_false (hne h₁) (hne h₂)

/-- Going on in the same way from settled answers gives settled answers. -/
theorem Settled.bind {α β : Type} {r r' : Except Refusal α} (h : Settled r r')
    {f g : α → Except Refusal β} (hfg : ∀ a, r = .ok a → Settled (f a) (g a)) :
    Settled (r.bind f) (r'.bind g) := by
  rcases h with rfl | ⟨e, e', rfl, rfl, ha, ha'⟩
  · cases r with
    | error e => exact Settled.refl _
    | ok a => exact hfg a rfl
  · exact Or.inr ⟨e, e', rfl, rfl, ha, ha'⟩

namespace Workspace

/-- Probing a path is finding its place and looking there. -/
theorem probe_eq_bind (w : Workspace) (p : Path) : w.probe p = (w.locate p).bind w.tree.look := by
  unfold probe reach Tree.look
  cases w.locate p with
  | error r => rfl
  | ok l =>
    simp only [Except.bind]
    cases w.tree.follow l with
    | error r => rfl
    | ok k => cases h : w.tree.get? k <;> simp [h]

/-- A path reaches the place at the end of the links from where it leads. -/
theorem reach_eq_ok_iff {w : Workspace} {p : Path} {k : Location} :
    w.reach p = .ok k ↔ ∃ l, w.locate p = .ok l ∧ w.tree.follow l = .ok k := by
  unfold reach
  cases w.locate p <;> simp

/-- A path that leads to nothing names no file. -/
theorem isFile_eq_false {w : Workspace} {p : Path} {l : Location} (hl : w.locate p = .ok l)
    (hnone : w.tree.get? l = none) : w.isFile p = .ok false := by
  unfold isFile test
  rw [probe_eq_bind, hl]
  simp [Except.bind, Tree.look_of_get?_eq_none hnone, Refusal.isAbsence]

/-- A test fails when a path is refused for a reason that does not count as absence. -/
theorem test_eq_error_iff {w : Workspace} {q : Entry → Bool} {p : Path} {e : Error} :
    w.test q p = .error e ↔ '\x00' ∉ p.text.toList ∧ ∃ r, w.locate p = .error r ∧
      r.isAbsence = false ∧ e = { refusal := r, path := p.text } := by
  unfold test
  rw [probe_eq_bind]
  by_cases hnul : '\x00' ∈ p.text.toList
  · simp [hnul]
  · simp only [List.contains_iff_mem, hnul, if_false, not_false_eq_true, true_and]
    cases w.locate p with
    | error r => cases hr : r.isAbsence <;> simp [Except.bind, hr, @eq_comm _ e]
    | ok l =>
      cases he : w.tree.look l with
      | ok e => simp [Except.bind, he]
      | error r => simp [Except.bind, he, Tree.isAbsence_of_look he]

/-- A file can be read. -/
theorem exists_read_of_isFile {w : Workspace} {p : Path} (h : w.isFile p = .ok true) :
    ∃ bytes, w.read p = .ok bytes := by
  unfold isFile test at h
  unfold read
  split at h
  · cases h
  · cases hp : w.probe p with
    | error r =>
      simp only [hp] at h
      split at h <;> cases h
    | ok e =>
      cases e with
      | file bytes => exact ⟨bytes, rfl⟩
      | directory | device | link => simp [hp] at h

/-- A file is read where its path leads to it. -/
theorem read_of_locate {w : Workspace} {p : Path} {l : Location} {bytes : List UInt8}
    (hl : w.locate p = .ok l) (hfile : w.tree.look l = .ok (.file bytes)) :
    w.read p = .ok bytes := by
  rw [read, probe_eq_bind, hl]
  simp [Except.bind, hfile]

/-- If any bytes are read, they are those of a file that the path leads to. -/
theorem exists_locate_of_read {w : Workspace} {p : Path} {bytes : List UInt8}
    (h : w.read p = .ok bytes) (hne : bytes ≠ []) :
    ∃ l, w.locate p = .ok l ∧ w.tree.look l = .ok (.file bytes) := by
  rw [read, probe_eq_bind] at h
  cases hl : w.locate p with
  | error r => simp [hl, Except.bind] at h
  | ok l =>
    refine ⟨l, rfl, ?_⟩
    cases he : w.tree.look l with
    | error r => simp [hl, he, Except.bind] at h
    | ok e =>
      cases e with
      | file bytes' => simpa [hl, he, Except.bind] using h
      | directory => simp [hl, he, Except.bind] at h
      | device | link => exact absurd (by simpa [hl, he, Except.bind] using h.symm) hne

/-- What a path names is not at some places: neither its own place nor one that links lead to from
there is among them. -/
def Misses (w : Workspace) (p : Path) (S : Set Location) : Prop :=
  ∀ l, w.locate p = .ok l → ∀ k, w.tree.Leads l k → k ∉ S

/-- No links lead from the place of a path to some places. -/
def LinksMiss (w : Workspace) (p : Path) (S : Set Location) : Prop :=
  ∀ l, w.locate p = .ok l → ∀ k, w.tree.LeadsAway l k → k ∉ S

/-- What a path names is not at some places if its own place is not, and no links lead to one. -/
theorem misses_iff {w : Workspace} {p : Path} {S : Set Location} :
    w.Misses p S ↔ (∀ l, w.locate p = .ok l → l ∉ S) ∧ w.LinksMiss p S := by
  constructor
  · intro h
    exact ⟨fun l hl => h l hl l .refl, fun l hl k hk => h l hl k (Tree.leads_iff.2 (.inr hk))⟩
  · rintro ⟨hplace, hlinks⟩ l hl k hk
    rcases Tree.leads_iff.1 hk with rfl | hk
    · exact hplace _ hl
    · exact hlinks l hl k hk

/-- Without links none lead anywhere. -/
theorem linksMiss_of_entries {w : Workspace} (h : ∀ x ∈ w.tree.entries, x.2.target? = none)
    (p : Path) (S : Set Location) : w.LinksMiss p S :=
  fun _ _ _ hk => absurd hk (Tree.not_leadsAway h)

/-- Two workspaces that differ at most at some places, at which neither holds a directory. -/
structure SameBut (S : Set Location) (v w : Workspace) : Prop where
  /-- The current directory is the same. -/
  here : v.here = w.here
  /-- A place holds the same, or is one of those that may differ. -/
  entry : ∀ l, v.tree.get? l = w.tree.get? l ∨
    l ∈ S ∧ v.tree.get? l ≠ some .directory ∧ w.tree.get? l ≠ some .directory

namespace SameBut

variable {S T : Set Location} {u v w : Workspace}

theorem refl (S : Set Location) (w : Workspace) : SameBut S w w := ⟨rfl, fun _ => Or.inl rfl⟩

theorem trans (h : SameBut S u v) (h' : SameBut S v w) : SameBut S u w := by
  refine ⟨h.here.trans h'.here, fun l => ?_⟩
  rcases h.entry l with he | ⟨hl, hu, hv⟩
  · rw [he]; exact h'.entry l
  · rcases h'.entry l with he' | ⟨_, _, hw⟩
    · exact Or.inr ⟨hl, hu, he' ▸ hv⟩
    · exact Or.inr ⟨hl, hu, hw⟩

theorem mono (h : SameBut S v w) (hst : S ⊆ T) : SameBut T v w :=
  ⟨h.here, fun l => (h.entry l).imp_right fun ⟨hl, hvw⟩ => ⟨hst hl, hvw⟩⟩

/-- A place outside the set holds the same. -/
theorem get?_eq (h : SameBut S v w) {l : Location} (hl : l ∉ S) :
    v.tree.get? l = w.tree.get? l :=
  (h.entry l).resolve_right fun hs => hl hs.1

/-- Both workspaces have the same directories. -/
theorem directory_iff (h : SameBut S v w) (l : Location) :
    v.tree.get? l = some .directory ↔ w.tree.get? l = some .directory := by
  rcases h.entry l with he | ⟨_, hv, hw⟩
  · rw [he]
  · exact iff_of_false hv hw

private theorem descend_refused {t : Tree} {l : Location} (h : t.get? l ≠ some .directory)
    (n : String) : ∃ e, t.descend l n = .error e ∧ e.isAbsence = true := by
  unfold Tree.descend
  cases hl : t.get? l with
  | none => exact ⟨_, rfl, rfl⟩
  | some e =>
    cases e with
    | directory => exact absurd hl h
    | file _ | device | link _ => exact ⟨_, rfl, rfl⟩

/-- One directory deeper leads to the same place in both. -/
theorem descend (h : SameBut S v w) (l : Location) (n : String) :
    Settled (v.tree.descend l n) (w.tree.descend l n) := by
  by_cases hl : v.tree.get? l = some .directory
  · refine Or.inl ?_
    simp only [Tree.descend, hl, (h.directory_iff l).1 hl]
  · obtain ⟨e, he, ha⟩ := descend_refused hl n
    obtain ⟨e', he', ha'⟩ := descend_refused (mt (h.directory_iff l).2 hl) n
    exact Or.inr ⟨e, e', he, he', ha, ha'⟩

/-- A walk leads to the same place in both. -/
theorem walk (h : SameBut S v w) (l : Location) (ps : List String) :
    Settled (v.tree.walk l ps) (w.tree.walk l ps) := by
  induction ps generalizing l with
  | nil => exact Settled.refl _
  | cons p ps ih =>
    have hs := (h.descend l p).bind (f := fun k => v.tree.walk k ps)
      (g := fun k => w.tree.walk k ps) fun k _ => ih k
    rwa [← Tree.walk_cons, ← Tree.walk_cons] at hs

/-- A path leads to the same place in both. -/
theorem locate (h : SameBut S v w) (p : Path) : Settled (v.locate p) (w.locate p) := by
  unfold Workspace.locate
  rw [h.here]
  exact h.walk _ _

/-- The same is found where links start, unless they lead to a place that differs. -/
theorem look (h : SameBut S v w) {l : Location} (hl : ∀ k, v.tree.Leads l k → k ∉ S) :
    v.tree.look l = w.tree.look l :=
  Tree.look_congr fun k hk => h.get?_eq (hl k hk)

/-- A path names the same in both, unless it leads to a place that differs. -/
theorem probe (h : SameBut S v w) {p : Path} (hp : v.Misses p S) :
    Settled (v.probe p) (w.probe p) := by
  rw [probe_eq_bind, probe_eq_bind]
  refine (h.locate p).bind fun l hl => ?_
  rw [h.look (hp l hl)]
  exact Settled.refl _

/-- Tests whose answers settle say the same. -/
private theorem test_congr {q : Entry → Bool} {p : Path} (h : Settled (v.probe p) (w.probe p)) :
    v.test q p = w.test q p := by
  unfold Workspace.test
  split
  · rfl
  · rcases h with he | ⟨e, e', he, he', ha, ha'⟩
    · rw [he]
    · simp only [he, he', ha, ha', if_true]

/-- A test fails in both workspaces or in none. -/
theorem test_eq_error_iff (h : SameBut S v w) {q : Entry → Bool} {p : Path} {e : Error} :
    v.test q p = .error e ↔ w.test q p = .error e := by
  rw [Workspace.test_eq_error_iff, Workspace.test_eq_error_iff]
  refine and_congr_right fun _ => exists_congr fun r => ?_
  rw [and_left_comm, and_left_comm (a := w.locate p = .error r)]
  exact and_congr_right fun hr => and_congr_left fun _ => (h.locate p).error_iff hr

/-- Whether a path names a regular file is the same in both, unless it leads to a place that
differs. -/
theorem isFile (h : SameBut S v w) {p : Path} (hp : v.Misses p S) : v.isFile p = w.isFile p :=
  test_congr (h.probe hp)

/-- What a path reads is the same in both if it names a regular file that does not differ. -/
theorem read (h : SameBut S v w) {p : Path} (hp : v.Misses p S)
    (hfile : v.isFile p = .ok true) : v.read p = w.read p := by
  unfold Workspace.read
  rcases h.probe hp with he | ⟨e, _, he, _, ha, _⟩
  · rw [he]
  · simp only [Workspace.isFile, Workspace.test, he, ha] at hfile
    split at hfile <;> simp at hfile

end SameBut

/-- A workspace with a file put into a free place differs from it there only. -/
theorem sameBut_set {w : Workspace} {l : Location} (h : w.tree.get? l ≠ some .directory)
    (bytes : List UInt8) :
    SameBut {l} w { w with tree := w.tree.set l (.file bytes) } where
  here := rfl
  entry k := by
    have hl : l ≠ [] := by rintro rfl; exact h rfl
    by_cases hk : k = l
    · subst hk
      exact Or.inr ⟨rfl, h, by rw [Tree.get?_set_self hl]; simp⟩
    · exact Or.inl (Tree.get?_set_of_ne hk).symm

/-- A workspace without what is no directory differs from the one with it there only. -/
theorem sameBut_erase {w : Workspace} {l : Location} (h : w.tree.get? l ≠ some .directory) :
    SameBut {l} w { w with tree := w.tree.erase l } where
  here := rfl
  entry k := by
    have hl : l ≠ [] := by rintro rfl; exact h rfl
    by_cases hk : k = l
    · subst hk
      exact Or.inr ⟨rfl, h, by rw [Tree.get?_erase_self hl]; simp⟩
    · exact Or.inl (Tree.get?_erase_of_ne hk).symm

/-- Workspaces that differ at some places do so after a file is put into the same place of both. -/
theorem SameBut.set {S : Set Location} {v w : Workspace} (h : SameBut S v w) {l : Location}
    (hl : l ≠ []) (bytes : List UInt8) :
    SameBut S { v with tree := v.tree.set l (.file bytes) }
      { w with tree := w.tree.set l (.file bytes) } where
  here := h.here
  entry k := by
    by_cases hk : k = l
    · subst hk
      exact Or.inl (by rw [Tree.get?_set_self hl, Tree.get?_set_self hl])
    · simpa only [Tree.get?_set_of_ne hk] using h.entry k

end Workspace

end TypeWeave.File
