import TypeWeave.Proofs.File.Proper
import TypeWeave.Settings.Project
import Mathlib.Data.List.Infix

/-!
# The search for a project file

The search looks in a directory for the file and goes on in the directory above it, until the one
above is the directory itself. In a proper tree it ends at every directory that there can be, since
whether the file is there can always be told, and what it finds is the file in the nearest of the
directory and those above it that have one. Main statements: `climbs_iff`, `search_spec` and
`find_spec`.
-/

namespace TypeWeave.Settings.Project

open File

/-- The name of the file is one that an entry of a directory can have. -/
theorem isName_fileName : IsName fileName := by decide +kernel

/-- The search as it runs, with what it comes to: it looks in a directory and goes on in the one
above it, until that is the same. -/
inductive Climbs (ws : Workspace) : Path → Except File.Error (Option Path) → Prop
  | refused {d : Path} {e : File.Error} (h : ws.pathExists (d.child fileName) = .error e) :
    Climbs ws d (.error e)
  | found {d : Path} (h : ws.pathExists (d.child fileName) = .ok true) :
    Climbs ws d (.ok (some (d.child fileName)))
  | top {d : Path} (h : ws.pathExists (d.child fileName) = .ok false) (htop : d = d.parent) :
    Climbs ws d (.ok none)
  | up {d : Path} {r : Except File.Error (Option Path)}
    (h : ws.pathExists (d.child fileName) = .ok false) (hup : d ≠ d.parent)
    (hr : Climbs ws d.parent r) : Climbs ws d r

/-- The three answers about one path. -/
theorem present_eq (ws : Workspace) (p : Path) : present ws p =
    match ws.pathExists p with
    | .error e => .error e
    | .ok true => .ok (some p)
    | .ok false => .ok none := by
  unfold present
  cases ws.pathExists p with
  | error e => rfl
  | ok b => cases b <;> rfl

/-- The path of the file in a directory. -/
theorem child_fileName (a : Anchor) (ps : List String) :
    (⟨a, ps⟩ : Path).child fileName = ⟨a, ps ++ [fileName]⟩ :=
  Path.child_of_isPlain isName_fileName.toIsPlain _

/-- One turn of the search below the top. -/
theorem search_cons (ws : Workspace) (a : Anchor) (n : String) (above : List String) :
    search ws a (n :: above) =
      match ws.pathExists ((⟨a, (n :: above).reverse⟩ : Path).child fileName) with
      | .error e => .error e
      | .ok true => .ok (some ((⟨a, (n :: above).reverse⟩ : Path).child fileName))
      | .ok false => search ws a above := by
  rw [search, present_eq, child_fileName]
  cases ws.pathExists ⟨a, (n :: above).reverse ++ [fileName]⟩ with
  | error e => rfl
  | ok b => cases b <;> rfl

section Turns

variable {ws : Workspace} {d : Path} {r : Except File.Error (Option Path)}

/-- At the top there is one turn. -/
theorem climbs_iff_of_top (htop : d = d.parent) :
    Climbs ws d r ↔ r = present ws (d.child fileName) := by
  rw [present_eq]
  constructor
  · intro h
    cases h with
    | refused h => rw [h]
    | found h => rw [h]
    | top h _ => rw [h]
    | up _ hup _ => exact absurd htop hup
  · rintro rfl
    cases h : ws.pathExists (d.child fileName) with
    | error e => exact .refused h
    | ok b =>
      cases b with
      | true => exact .found h
      | false => exact .top h htop

/-- Below the top a turn looks in the directory and, if the file is not there, leads to what comes
of the directory above. -/
theorem climbs_iff_of_up (hup : d ≠ d.parent) {next : Except File.Error (Option Path)}
    (hnext : ∀ r, Climbs ws d.parent r ↔ r = next) :
    Climbs ws d r ↔ r = match ws.pathExists (d.child fileName) with
      | .error e => .error e
      | .ok true => .ok (some (d.child fileName))
      | .ok false => next := by
  constructor
  · intro h
    cases h with
    | refused h => rw [h]
    | found h => rw [h]
    | top _ htop => exact absurd htop hup
    | up h _ hr =>
      rw [h]
      exact (hnext r).1 hr
  · rintro rfl
    cases h : ws.pathExists (d.child fileName) with
    | error e => exact .refused h
    | ok b =>
      cases b with
      | true => exact .found h
      | false => exact .up h hup ((hnext next).2 rfl)

end Turns

/-- From a directory of any depth the search ends, with one outcome. -/
theorem climbs_iff {ws : Workspace} {a : Anchor} {above : List String}
    {r : Except File.Error (Option Path)} :
    Climbs ws ⟨a, above.reverse⟩ r ↔ r = search ws a above := by
  induction above generalizing r with
  | nil =>
    have hsearch : search ws a [] = present ws ((⟨a, [].reverse⟩ : Path).child fileName) := by
      rw [child_fileName]
      rfl
    rw [hsearch]
    exact climbs_iff_of_top rfl
  | cons n above ih =>
    have hparent : (⟨a, (n :: above).reverse⟩ : Path).parent = ⟨a, above.reverse⟩ := by
      rw [Path.parent, List.reverse_cons, List.dropLast_concat]
    rw [search_cons]
    apply climbs_iff_of_up
    · rw [hparent]
      intro heq
      have hlength := congrArg (fun p : Path => p.parts.length) heq
      simp at hlength
    · intro r
      rw [hparent]
      exact ih

/-- The nearest of a directory and those above it that have the file: the others that have it are
above that one. -/
structure IsNearest (t : Tree) (start d : Location) : Prop where
  above : d <+: start
  present : (t.look (d ++ [fileName])).isOk
  nearest : ∀ k, k <+: start → (t.look (k ++ [fileName])).isOk → k <+: d

namespace IsNearest

variable {t : Tree} {start d k : Location}

theorem unique (hd : IsNearest t start d) (hk : IsNearest t start k) : d = k := by
  have hdk := hk.nearest d hd.above hd.present
  have hkd := hd.nearest k hk.above hk.present
  exact hdk.eq_of_length (Nat.le_antisymm hdk.length_le hkd.length_le)

/-- A directory that has the file is the nearest one to itself. -/
theorem self (h : (t.look (start ++ [fileName])).isOk) : IsNearest t start start :=
  ⟨List.prefix_rfl, h, fun _ hk _ => hk⟩

/-- The nearest one to the directory above is the nearest one to a directory without the file. -/
theorem concat (hd : IsNearest t start d) {n : String}
    (hnone : (t.look (start ++ [n] ++ [fileName])).isOk = false) : IsNearest t (start ++ [n]) d := by
  refine ⟨hd.above.trans (List.prefix_append _ _), hd.present, ?_⟩
  intro k hk hpresent
  rcases List.prefix_concat_iff.1 hk with rfl | hk
  · rw [hnone] at hpresent
    cases hpresent
  · exact hd.nearest k hk hpresent

/-- Where no directory has the file none is the nearest one. -/
theorem not_of_forall_eq_false
    (hnone : ∀ k, k <+: start → (t.look (k ++ [fileName])).isOk = false) : ¬IsNearest t start d := by
  intro hd
  have hpresent := hd.present
  rw [hnone d hd.above] at hpresent
  cases hpresent

end IsNearest

section Search

/-- The path of the file in a directory is one that the system takes. -/
def Fits (d : Path) : Prop := (d.child fileName).text.utf8ByteSize ≤ maxPathBytes

instance : DecidablePred Fits := fun _ => Nat.decLe _ _

/-- The path of the file in a directory above another one is shorter. -/
theorem Fits.of_prefix {d l : Location} (h : Fits ⟨.root, l⟩) (hd : d <+: l) :
    Fits ⟨.root, d⟩ := by
  obtain ⟨below, rfl⟩ := hd
  rw [Fits, child_fileName, Path.utf8ByteSize_text_root (by simp)] at h ⊢
  simp only [Path.slashedSize_append] at h ⊢
  omega

variable {ws : Workspace} (hws : ws.Proper)
include hws

/-- Whether the file is in a directory that there can be can be told, unless its path is too long. -/
theorem pathExists_child {d : Location} (hd : ∀ n ∈ d, IsName n) :
    (Fits ⟨.root, d⟩ → ws.pathExists ((⟨.root, d⟩ : Path).child fileName) =
        .ok (ws.tree.look (d ++ [fileName])).isOk) ∧
      (¬Fits ⟨.root, d⟩ → ws.pathExists ((⟨.root, d⟩ : Path).child fileName) =
        .error ⟨.nameTooLong, ((⟨.root, d⟩ : Path).child fileName).text, none⟩) := by
  have hnames : ∀ n ∈ d ++ [fileName], IsName n :=
    List.forall_mem_append.2 ⟨hd, List.forall_mem_singleton.2 isName_fileName⟩
  rw [Fits, child_fileName, hws.pathExists_root hnames]
  exact ⟨fun hfits => if_pos hfits, fun hlong => if_neg hlong⟩

/-- The search ends with the file of the nearest directory, or with none where no directory has it.
-/
theorem search_cases {l : Location} (hnames : ∀ n ∈ l, IsName n) (hfits : Fits ⟨.root, l⟩) :
    (∃ d, IsNearest ws.tree l d ∧
        search ws .root l.reverse = .ok (some ⟨.root, d ++ [fileName]⟩)) ∨
      (∀ d, d <+: l → (ws.tree.look (d ++ [fileName])).isOk = false) ∧
        search ws .root l.reverse = .ok none := by
  have hexists := (pathExists_child hws hnames).1 hfits
  induction l using List.reverseRecOn with
  | nil =>
    have hsearch : search ws .root [].reverse =
        present ws ((⟨.root, []⟩ : Path).child fileName) := by
      rw [child_fileName]
      rfl
    rw [hsearch, present_eq, hexists, child_fileName]
    cases he : (ws.tree.look ([] ++ [fileName])).isOk with
    | true => exact Or.inl ⟨[], .self he, rfl⟩
    | false =>
      refine Or.inr ⟨fun d hd => ?_, rfl⟩
      rw [List.prefix_nil.1 hd, he]
  | append_singleton l n ih =>
    have hl : ∀ m ∈ l, IsName m := fun m hm => hnames m (List.mem_append_left _ hm)
    have hup : Fits ⟨.root, l⟩ := hfits.of_prefix (List.prefix_append _ _)
    rw [List.reverse_concat, search_cons, ← List.reverse_concat, List.reverse_reverse, hexists,
      child_fileName]
    cases he : (ws.tree.look (l ++ [n] ++ [fileName])).isOk with
    | true => exact Or.inl ⟨l ++ [n], .self he, rfl⟩
    | false =>
      rcases ih hl hup ((pathExists_child hws hl).1 hup) with ⟨d, hd, hsearch⟩ | ⟨hnone, hsearch⟩
      · exact Or.inl ⟨d, hd.concat he, hsearch⟩
      · refine Or.inr ⟨fun d hd => ?_, hsearch⟩
        rcases List.prefix_concat_iff.1 hd with rfl | hd
        · exact he
        · exact hnone d hd

/-- What the search answers: the file of the nearest directory that has it, and nothing exactly when
none has it up to the root. -/
theorem search_spec {l : Location} (hnames : ∀ n ∈ l, IsName n) (hfits : Fits ⟨.root, l⟩) :
    ∃ answer, search ws .root l.reverse = .ok answer ∧
      (∀ p, answer = some p ↔ ∃ d, IsNearest ws.tree l d ∧ p = ⟨.root, d ++ [fileName]⟩) ∧
      (answer = none ↔ ∀ d, d <+: l → (ws.tree.look (d ++ [fileName])).isOk = false) := by
  rcases search_cases hws hnames hfits with ⟨d, hd, hsearch⟩ | ⟨hnone, hsearch⟩
  · refine ⟨_, hsearch, fun p => ?_, ?_⟩
    · constructor
      · intro hp
        exact ⟨d, hd, (Option.some.inj hp).symm⟩
      · rintro ⟨k, hk, rfl⟩
        rw [hd.unique hk]
    · exact iff_of_false nofun fun hnone => IsNearest.not_of_forall_eq_false hnone hd
  · refine ⟨none, hsearch, fun p => iff_of_false nofun ?_, iff_of_true rfl hnone⟩
    rintro ⟨d, hd, -⟩
    exact IsNearest.not_of_forall_eq_false hnone hd

/-- From a directory too deep for the path of the file the search does not go up. -/
theorem search_eq_error {l : Location} (hnames : ∀ n ∈ l, IsName n) (hlong : ¬Fits ⟨.root, l⟩) :
    search ws .root l.reverse =
      .error ⟨.nameTooLong, ((⟨.root, l⟩ : Path).child fileName).text, none⟩ := by
  have hexists := (pathExists_child hws hnames).2 hlong
  rw [← climbs_iff.1 (.refused (d := ⟨.root, l.reverse.reverse⟩) (by rwa [List.reverse_reverse]))]

/-- The absolute path of a directory consists of names. -/
theorem isName_of_isDirectory {p : Path} (hp : ws.isDirectory p = .ok true) :
    ∀ n ∈ (ws.resolve p).parts, IsName n := by
  obtain ⟨l, hl, hd⟩ := hws.isDirectory_eq_true_iff.1 hp
  rw [Workspace.resolve_eq hl hd]
  intro n hn
  exact hws.tree.isName hd hn

end Search

/-- The variable for the directory chooses one when it is set and not empty. -/
theorem chosenDirectory_eq_some_iff {env : Environment} {d : String} :
    chosenDirectory env = some d ↔ valueOf env directoryVariable = some d ∧ d ≠ "" := by
  rw [chosenDirectory, Option.filter_eq_some_iff]
  simp

/-- The variable for the directory chooses none when it is not set or is empty. -/
theorem chosenDirectory_eq_none_iff {env : Environment} : chosenDirectory env = none ↔
    valueOf env directoryVariable = none ∨ valueOf env directoryVariable = some "" := by
  unfold chosenDirectory
  cases valueOf env directoryVariable with
  | none => simp
  | some d => by_cases hd : d = "" <;> simp [hd]

/-- A path that is a directory, or that one could have: its absolute path consists of names. -/
def CanBeDirectory (ws : Workspace) (p : Path) : Prop :=
  ws.isDirectory p = .ok true ∨ ∀ n ∈ (ws.resolve p).parts, IsName n

/-- Where no directory is chosen, the search starts from the given one. -/
theorem find_eq_search {env : Environment} (henv : chosenDirectory env = none) (ws : Workspace)
    (start : Path) : find ws env start = search ws .root (ws.resolve start).parts.reverse := by
  rw [find, henv]
  rfl

/-- What the search for a project file comes to. Unless a directory is chosen, it ends from wherever
it starts. From every directory it has an answer, the file of the nearest one at or above it that
has it, and none exactly when none of them has it up to the root; but where the directory is too
deep for the path of a file in it, the search is refused. If a directory is chosen, the answer is
the same from every place to start from and in all file trees in which the file is there alike. -/
theorem find_spec {ws : Workspace} (hws : ws.Proper) (env : Environment) :
    (valueOf env directoryVariable = none ∨ valueOf env directoryVariable = some "" →
      (∀ start r, Climbs ws (ws.resolve start) r ↔ r = find ws env start) ∧
      ∀ start, CanBeDirectory ws start →
        (Fits (ws.resolve start) → ∃ answer, find ws env start = .ok answer ∧
          (∀ p, answer = some p ↔
            ∃ d, IsNearest ws.tree (ws.resolve start).parts d ∧ p = ⟨.root, d ++ [fileName]⟩) ∧
          (answer = none ↔ ∀ d, d <+: (ws.resolve start).parts →
            (ws.tree.look (d ++ [fileName])).isOk = false)) ∧
        (¬Fits (ws.resolve start) → find ws env start =
          .error ⟨.nameTooLong, ((ws.resolve start).child fileName).text, none⟩)) ∧
      ∀ name, valueOf env directoryVariable = some name → name ≠ "" →
        let chosen := ws.resolve (Path.ofString name)
        (CanBeDirectory ws (Path.ofString name) → ∀ start,
          (Fits chosen → find ws env start =
            .ok (if (ws.tree.look (chosen.parts ++ [fileName])).isOk then
              some ⟨.root, chosen.parts ++ [fileName]⟩ else none)) ∧
          (¬Fits chosen → find ws env start =
            .error ⟨.nameTooLong, (chosen.child fileName).text, none⟩)) ∧
        ∀ (ws' : Workspace) (env' : Environment) (start start' : Path),
          valueOf env' directoryVariable = some name →
          ws'.resolve (Path.ofString name) = chosen →
          ws'.pathExists (chosen.child fileName) = ws.pathExists (chosen.child fileName) →
          find ws' env' start' = find ws env start := by
  have hnames {p : Path} (hp : CanBeDirectory ws p) : ∀ n ∈ (ws.resolve p).parts, IsName n :=
    hp.elim (isName_of_isDirectory hws) id
  constructor
  · intro henv
    have hfind := find_eq_search (chosenDirectory_eq_none_iff.2 henv) ws
    constructor
    · intro start r
      rw [hfind, ← climbs_iff, List.reverse_reverse]
      rfl
    · intro start hstart
      rw [hfind]
      exact ⟨search_spec hws (hnames hstart), search_eq_error hws (hnames hstart)⟩
  · intro name hname hne chosen
    have hfind (start : Path) : find ws env start = present ws (chosen.child fileName) := by
      rw [find, chosenDirectory_eq_some_iff.2 ⟨hname, hne⟩]
    constructor
    · intro hdir start
      obtain ⟨htold, hrefused⟩ := pathExists_child hws (hnames hdir)
      rw [hfind, present_eq]
      constructor
      · intro hfits
        have hchild : chosen.child fileName = ⟨.root, chosen.parts ++ [fileName]⟩ :=
          child_fileName _ _
        rw [show ws.pathExists (chosen.child fileName) = _ from htold hfits, hchild]
        cases (ws.tree.look (chosen.parts ++ [fileName])).isOk <;> rfl
      · intro hlong
        rw [show ws.pathExists (chosen.child fileName) = _ from hrefused hlong]
        rfl
    · intro ws' env' start start' hname' hresolve hsame
      rw [hfind, find, chosenDirectory_eq_some_iff.2 ⟨hname', hne⟩]
      dsimp only
      rw [hresolve, present_eq, present_eq, hsame]

/-- A tree with the file two directories above the deepest one, and with another directory. -/
def nestedWorkspace : Workspace where
  tree := ⟨[(["a"], .directory), (["a", "embedgen.yaml"], .file []), (["a", "b"], .directory),
    (["a", "b", "c"], .directory), (["x"], .directory)]⟩
  here := ["a", "b"]

/-- The file is found from the deepest directory, and not when another one is chosen. -/
theorem find_spec_nestedWorkspace :
    let start : Path := ⟨.relative, ["c"]⟩
    nestedWorkspace.Proper ∧ nestedWorkspace.isDirectory start = .ok true ∧
      find nestedWorkspace [] start = .ok (some ⟨.root, ["a", "embedgen.yaml"]⟩) ∧
      IsNearest nestedWorkspace.tree ["a", "b", "c"] ["a"] ∧
      ∀ start', find nestedWorkspace [(directoryVariable, "/x")] start' = .ok none := by
  intro start
  have hws : nestedWorkspace.Proper := by decide +kernel
  have hstart : nestedWorkspace.isDirectory start = .ok true := by decide +kernel
  have hfind : find nestedWorkspace [] start = .ok (some ⟨.root, ["a", "embedgen.yaml"]⟩) := by
    decide +kernel
  have hother : nestedWorkspace.isDirectory (Path.ofString "/x") = .ok true := by decide +kernel
  obtain ⟨hsearch, -⟩ := find_spec hws []
  obtain ⟨-, hnearest⟩ := hsearch (Or.inl rfl)
  obtain ⟨answer, hanswer, hsome, -⟩ := (hnearest start (Or.inl hstart)).1 (by decide +kernel)
  obtain ⟨d, hd, hpath⟩ := (hsome _).1 (Except.ok.inj (hanswer.symm.trans hfind))
  have hparts : ["a"] ++ [fileName] = d ++ [fileName] := congrArg Path.parts hpath
  obtain rfl : ["a"] = d := List.append_cancel_right hparts
  obtain ⟨-, hchosen⟩ := find_spec hws [(directoryVariable, "/x")]
  obtain ⟨hfixed, -⟩ := hchosen "/x" (by decide +kernel) (by decide)
  refine ⟨hws, hstart, hfind, hd, fun start' => ?_⟩
  rw [(hfixed (Or.inl hother) start').1 (by decide +kernel)]
  decide +kernel

/-- A name of 250 letters. -/
def longName : String := String.ofList (List.replicate 250 'x')

theorem isName_longName : IsName longName := by decide +kernel

theorem fileName_not_mem (k : Nat) : fileName ∉ List.replicate k longName := fun h =>
  absurd (List.eq_of_mem_replicate h) (by decide +kernel)

/-- A tree with the file at the root, and a current directory seventeen long names deep. -/
def deepWorkspace : Workspace where
  tree := ⟨([fileName], .file []) ::
    (List.range 17).map fun k => (List.replicate (k + 1) longName, .directory)⟩
  here := List.replicate 17 longName

theorem proper_deepWorkspace : deepWorkspace.Proper := by
  have hnames : ∀ x ∈ deepWorkspace.tree.entries, ∀ n ∈ x.1, IsName n := by
    intro x hx n hn
    rcases List.mem_cons.1 hx with rfl | hx
    · exact List.mem_singleton.1 hn ▸ isName_fileName
    · obtain ⟨k, -, rfl⟩ := List.mem_map.1 hx
      exact List.eq_of_mem_replicate hn ▸ isName_longName
  have hnodup : (deepWorkspace.tree.entries.map Prod.fst).Nodup := by
    rw [deepWorkspace, List.map_cons, List.map_map, List.nodup_cons]
    refine ⟨fun hmem => ?_, List.nodup_range.map fun i j h => ?_⟩
    · obtain ⟨k, -, hk⟩ := List.mem_map.1 hmem
      have hk : List.replicate (k + 1) longName = [fileName] := hk
      exact fileName_not_mem (k + 1) (hk ▸ List.mem_singleton_self _)
    · simpa using congrArg List.length h
  exact ⟨deepWorkspace.tree.proper_iff.2 ⟨hnodup, hnames, by decide +kernel⟩, by decide +kernel⟩

/-- The file at the root is not found from the deep directory: the search is refused. -/
theorem find_deepWorkspace_eq_error :
    deepWorkspace.Proper ∧ deepWorkspace.isDirectory Path.current = .ok true ∧
      IsNearest deepWorkspace.tree (deepWorkspace.resolve Path.current).parts [] ∧
      find deepWorkspace [] Path.current = .error ⟨.nameTooLong,
        ((deepWorkspace.resolve Path.current).child fileName).text, none⟩ := by
  have hws := proper_deepWorkspace
  have hresolve : deepWorkspace.resolve Path.current = ⟨.root, deepWorkspace.here⟩ :=
    Workspace.resolve_eq rfl hws.here
  have hnearest (k : Location) (h : (deepWorkspace.tree.look (k ++ [fileName])).isOk) :
      k = [] := by
    cases he : deepWorkspace.tree.look (k ++ [fileName]) with
    | error r =>
      rw [he] at h
      cases h
    | ok e =>
      have h := Tree.isSome_get?_of_look he
      rw [Tree.isSome_get?_iff _ (by simp), deepWorkspace, List.map_cons, List.map_map,
        List.mem_cons, List.mem_map] at h
      rcases h with h | ⟨j, -, h⟩
      · exact List.append_left_eq_self.1 h
      · have hj : List.replicate (j + 1) longName = k ++ [fileName] := h
        exact absurd (by simp [hj]) (fileName_not_mem (j + 1))
  have hlong : ¬Fits ⟨.root, deepWorkspace.here⟩ := by
    rw [Fits, child_fileName, Path.utf8ByteSize_text_root (by simp)]
    decide +kernel
  rw [find_eq_search rfl, hresolve]
  refine ⟨hws, hws.isDirectory_eq_true_iff.2 ⟨_, rfl, hws.here⟩,
    ⟨List.nil_prefix, by decide +kernel, fun k _ hpresent => ?_⟩,
    search_eq_error hws (fun n hn => List.eq_of_mem_replicate hn ▸ isName_longName) hlong⟩
  rw [hnearest k hpresent]

end TypeWeave.Settings.Project
