import TypeWeave.Proofs.Binding
import TypeWeave.Proofs.File.Proper
import Mathlib.Data.Finset.Card

/-!
# Bindings with and without a catalog

The bindings of declarations, found with a catalog that earlier look-ups have filled, are those that
one finds by looking for each file and loading each template afresh, as long as one can tell of each
file that is looked for whether it is there. One cannot when a directory of the path, or the file,
has a name that is too long to stand in a file system. Main statements: `ofDeclarations_eq_ok_spec`,
what a catalog holds after some bindings were found, `plain_eq_iff` and `ofDeclarations_agrees_iff`.
-/

namespace TypeWeave.Binding

open File (Workspace Path)
open Template Template.Catalog

/-- What is looked for: each declaration in order with each of its embedded names, in order of their
first appearance. -/
def wanted (ds : List Go.Declaration) : List (Go.Declaration × String) :=
  ds.flatMap fun d => d.embedded.eraseDups.map (d, ·)

section Wanted

variable (ws : Workspace) (suffix : String) (x : Go.Declaration × String)

/-- Where the template of a name is looked for. -/
def place : Path := templatePath suffix (ws.resolve x.1.directory) x.2

/-- Whether the template of a name is there. -/
def isThere : Bool := hasTemplate ws suffix (ws.resolve x.1.directory) x.2

/-- Whether one can tell that. -/
def IsTold : Prop := '\x00' ∉ x.1.directory.text.toList ∧ ∃ b, ws.isFile (place ws suffix x) = .ok b

/-- The binding of a declaration to a name, with the template as it is in the file. -/
def bindAfresh : Except Failure Binding :=
  (loadAfresh ws (place ws suffix x) x.2).map (Binding.mk x.1)

/-- What comes of looking a name up for a declaration. -/
def look : Work (Option Binding) := do
  return (← lookup ws x.1.directory x.2).map (Binding.mk x.1)

/-- What comes of looking a name up for a declaration when no catalog is kept. -/
def lookAfresh : Except Failure (Option Binding) := do
  return (← seek ws suffix x.1.directory x.2).map (Binding.mk x.1)

end Wanted

/-- The bindings of declarations as one finds them without a catalog: those of the files that are
there, each loaded for itself. -/
def plain (ws : Workspace) (suffix : String) (ds : List Go.Declaration) :
    Except Failure (List Binding) :=
  ((wanted ds).filter (isThere ws suffix)).mapM (bindAfresh ws suffix)

/-- Working on names for each declaration is working on what is looked for. -/
private theorem mapM_wanted {m : Type → Type} [Monad m] [LawfulMonad m] {β : Type}
    (f : Go.Declaration × String → m (Option β)) (ds : List Go.Declaration) :
    (do
      let found ← ds.mapM fun d => do
        let found ← d.embedded.eraseDups.mapM fun name => f (d, name)
        return found.filterMap id
      return found.flatten) =
    (do return (← (wanted ds).mapM f).filterMap id) := by
  induction ds with
  | nil => simp [wanted]
  | cons d ds ih =>
    have hwanted : wanted (d :: ds) = d.embedded.eraseDups.map (d, ·) ++ wanted ds := rfl
    rw [hwanted, List.mapM_append, List.mapM_map]
    simp only [List.mapM_cons, bind_assoc, pure_bind, List.flatten_cons, List.filterMap_append]
    refine bind_congr fun found => ?_
    calc
      _ = (do
          let rest ← ds.mapM fun d => do
            let found ← d.embedded.eraseDups.mapM fun name => f (d, name)
            return found.filterMap id
          return rest.flatten) >>= fun rest => pure (found.filterMap id ++ rest) := by
        simp only [bind_assoc, pure_bind]
      _ = _ := by
        rw [ih]
        simp only [bind_assoc, pure_bind]

theorem ofDeclarations_eq (ws : Workspace) (ds : List Go.Declaration) :
    ofDeclarations ws ds = do return (← (wanted ds).mapM (look ws)).filterMap id :=
  mapM_wanted (look ws) ds

theorem ofDeclarationsAfresh_eq (ws : Workspace) (suffix : String) (ds : List Go.Declaration) :
    ofDeclarationsAfresh ws suffix ds =
      do return (← (wanted ds).mapM (lookAfresh ws suffix)).filterMap id :=
  mapM_wanted (lookAfresh ws suffix) ds

/-- Whether one can tell of each template, as far as one comes before one of them fails to load,
whether it is there. -/
def AllTold (ws : Workspace) (suffix : String) (ds : List Go.Declaration) : Prop :=
  ∀ before x after, wanted ds = before ++ x :: after →
    (∀ y ∈ before, ∃ found, lookAfresh ws suffix y = .ok found) → IsTold ws suffix x

section Afresh

variable {ws : Workspace} {suffix : String} {x : Go.Declaration × String}

/-- A file that is there can be read, so that only its text can be wrong. -/
theorem bindAfresh_eq_error {f : Failure} (hthere : isThere ws suffix x = true)
    (h : bindAfresh ws suffix x = .error f) : ∃ path diagnostic line,
      f = .template path diagnostic line := by
  obtain ⟨bytes, hread⟩ := File.Workspace.exists_read_of_isFile (hasTemplate_iff.1 hthere)
  unfold bindAfresh loadAfresh place at h
  rw [hread] at h
  dsimp only at h
  split at h
  · cases h
    exact ⟨_, _, _, rfl⟩
  · split at h
    · cases h
      exact ⟨_, _, _, rfl⟩
    · cases h

/-- Where one can tell whether a template is there, looking for it is loading it if it is. -/
theorem lookAfresh_of_isTold (h : IsTold ws suffix x) : lookAfresh ws suffix x =
    if isThere ws suffix x then (bindAfresh ws suffix x).map some else .ok none := by
  obtain ⟨hnul, b, hfile⟩ := h
  have hkey : key? ws x.1.directory x.2 = some (ws.resolve x.1.directory, x.2) :=
    key?_eq_some_iff.2 ⟨hnul, rfl⟩
  unfold lookAfresh seek isThere bindAfresh
  rw [hkey]
  dsimp only
  rw [afresh_of_isFile_eq_ok hfile, hasTemplate_of_isFile_eq_ok hfile]
  cases b with
  | false => rfl
  | true =>
    unfold place
    cases loadAfresh ws (templatePath suffix (ws.resolve x.1.directory) x.2) x.2 <;> rfl

/-- Where one cannot tell, looking for a template fails in another way than loading one. -/
theorem lookAfresh_of_not_isTold (h : ¬ IsTold ws suffix x) :
    ∃ f, lookAfresh ws suffix x = .error f ∧ ∀ path diagnostic line,
      f ≠ .template path diagnostic line := by
  unfold lookAfresh seek
  cases hkey : key? ws x.1.directory x.2 with
  | none => exact ⟨.embeddedNul, rfl, nofun⟩
  | some key =>
    obtain ⟨hnul, rfl⟩ := key?_eq_some_iff.1 hkey
    cases hfile : ws.isFile (place ws suffix x) with
    | ok b => exact absurd ⟨hnul, b, hfile⟩ h
    | error e =>
      dsimp only
      rw [afresh_of_isFile_eq_error hfile]
      exact ⟨.file e, rfl, nofun⟩

/-- What holds of the items of a list that follow only good ones. -/
private theorem forall_after_cons {α : Type} {good told : α → Prop} {x : α} {xs : List α} :
    (∀ before y after, x :: xs = before ++ y :: after → (∀ z ∈ before, good z) → told y) ↔
      told x ∧ (good x →
        ∀ before y after, xs = before ++ y :: after → (∀ z ∈ before, good z) → told y) := by
  constructor
  · intro h
    refine ⟨h [] x xs rfl (by simp), fun hx before y after heq hbefore => ?_⟩
    exact h (x :: before) y after (congrArg (x :: ·) heq) (List.forall_mem_cons.2 ⟨hx, hbefore⟩)
  · rintro ⟨hx, h⟩ before y after heq hbefore
    cases before with
    | nil =>
      cases heq
      exact hx
    | cons z before =>
      cases heq
      obtain ⟨hgood, hbefore⟩ := List.forall_mem_cons.1 hbefore
      exact h hgood before y after rfl hbefore

/-- What is found where one can tell is what is there. -/
private theorem filterMap_lookAfresh_iff (xs : List (Go.Declaration × String)) :
    (do return (← xs.mapM (lookAfresh ws suffix)).filterMap id) =
        (xs.filter (isThere ws suffix)).mapM (bindAfresh ws suffix) ↔
      ∀ before x after, xs = before ++ x :: after →
        (∀ y ∈ before, ∃ found, lookAfresh ws suffix y = .ok found) → IsTold ws suffix x := by
  induction xs with
  | nil => simp
  | cons x xs ih =>
    rw [forall_after_cons, List.mapM_cons, ← ih]
    clear ih
    by_cases htold : IsTold ws suffix x
    · rw [lookAfresh_of_isTold htold]
      cases hthere : isThere ws suffix x with
      | false =>
        rw [List.filter_cons_of_neg (by simp [hthere])]
        simp only [htold, true_and, Bool.false_eq_true, if_false]
        refine Iff.trans ?_ (imp_iff_right ⟨none, rfl⟩).symm
        cases xs.mapM (lookAfresh ws suffix) <;> rfl
      | true =>
        rw [List.filter_cons_of_pos hthere, List.mapM_cons]
        simp only [htold, true_and, if_true]
        cases bindAfresh ws suffix x with
        | error f => exact iff_of_true rfl fun ⟨found, hfound⟩ => by cases hfound
        | ok b =>
          refine Iff.trans ?_ (imp_iff_right ⟨some b, rfl⟩).symm
          cases xs.mapM (lookAfresh ws suffix) <;>
            cases (xs.filter (isThere ws suffix)).mapM (bindAfresh ws suffix) <;>
            simp [bind, Except.bind, pure, Except.pure, Except.map]
    · obtain ⟨f, hf, hne⟩ := lookAfresh_of_not_isTold htold
      rw [hf]
      refine iff_of_false (fun h => ?_) fun h => htold h.1
      obtain ⟨before, y, after, heq, -, hy⟩ := Except.mapM_eq_error_iff.1 h.symm
      have hmem : y ∈ (x :: xs).filter (isThere ws suffix) := heq ▸ by simp
      obtain ⟨path, diagnostic, line, rfl⟩ := bindAfresh_eq_error (List.mem_filter.1 hmem).2 hy
      exact hne path diagnostic line rfl

/-- In a directory that there is, one can tell of a plain name whether it is there unless it is too
long to be the name of a file. -/
theorem isTold_iff_of_isPlain (hw : ws.Proper) {l : File.Location}
    (hl : ws.locate x.1.directory = .ok l) (hd : ws.tree.get? l = some .directory)
    (hplain : File.IsPlain (x.2 ++ suffix)) (hdots : x.2 ++ suffix ≠ "..")
    (hnul : '\x00' ∉ (x.2 ++ suffix).toList) :
    IsTold ws suffix x ↔ (x.2 ++ suffix).utf8ByteSize ≤ File.maxNameBytes := by
  have hplace : place ws suffix x = (⟨.root, l⟩ : Path).child (x.2 ++ suffix) := by
    rw [place, File.Workspace.resolve_eq hl hd]
    rfl
  have hlocate : ws.locate (place ws suffix x) = ws.tree.descend l (x.2 ++ suffix) := by
    have hroot : ws.locate ⟨.root, l⟩ = .ok l := hw.tree.walk_root hd
    rw [hplace, File.Workspace.locate_child ws hplain, hroot]
    rfl
  have htext : '\x00' ∉ (place ws suffix x).text.toList := by
    rw [hplace, Path.child_of_isPlain hplain, Path.nul_mem_text_iff]
    rintro ⟨n, hn, hmem⟩
    rcases List.mem_append.1 hn with hn | hn
    · exact (hw.tree.isName hd hn).nul_not_mem hmem
    · exact hnul (List.mem_singleton.1 hn ▸ hmem)
  unfold IsTold
  rw [and_iff_right (hw.nul_not_mem_text hl (by rw [hd]; rfl))]
  by_cases hsize : (x.2 ++ suffix).utf8ByteSize ≤ File.maxNameBytes
  · refine iff_of_true ?_ hsize
    have hstep := File.Tree.descend_eq_ok.2 ⟨hd, .inr ⟨hdots, hsize, rfl⟩⟩
    have hne (e : File.Error) : ws.isFile (place ws suffix x) ≠ .error e := fun he => by
      obtain ⟨-, r, hr, -⟩ := File.Workspace.test_eq_error_iff.1 he
      cases hr.symm.trans (hlocate.trans hstep)
    cases hfile : ws.isFile (place ws suffix x) with
    | error e => exact absurd hfile (hne e)
    | ok b => exact ⟨b, rfl⟩
  · refine iff_of_false ?_ hsize
    rintro ⟨b, hb⟩
    have hstep : ws.tree.descend l (x.2 ++ suffix) = .error .nameTooLong := by
      simp only [File.Tree.descend, hd, beq_iff_eq, hdots, Nat.lt_of_not_le hsize, if_true,
        if_false]
    cases hb.symm.trans
      (File.Workspace.test_eq_error_iff.2 ⟨htext, _, hlocate.trans hstep, rfl, rfl⟩)

end Afresh

section Cached

variable {ws : Workspace} {suffix : String}

/-- What look-ups that succeed do to a catalog: nothing is forgotten, nothing is remembered but what
was asked for, and the templates compiled are those remembered if they were before. -/
structure Grows (asked : Path × String → Prop) (c c' : Catalog) : Prop where
  keeps : ∀ key found, c.entries.lookup key = some found → c'.entries.lookup key = some found
  asked : ∀ key found, c'.entries.lookup key = some found →
    c.entries.lookup key = some found ∨ asked key
  nodup : (c.entries.map Prod.fst).Nodup → (c'.entries.map Prod.fst).Nodup
  tally : c.parseCount = c.entries.countP (·.2.isSome) →
    c'.parseCount = c'.entries.countP (·.2.isSome)

namespace Grows

variable {asked asked' : Path × String → Prop} {c c' c'' : Catalog}

theorem refl (asked : Path × String → Prop) (c : Catalog) : Grows asked c c :=
  ⟨fun _ _ => id, fun _ _ => .inl, id, id⟩

theorem trans (h : Grows asked c c') (h' : Grows asked' c' c'') :
    Grows (fun key => asked key ∨ asked' key) c c'' where
  keeps key found hkey := h'.keeps key found (h.keeps key found hkey)
  asked key found hkey := by
    rcases h'.asked key found hkey with hkey | hkey
    · exact (h.asked key found hkey).imp_right .inl
    · exact .inr (.inr hkey)
  nodup := h'.nodup ∘ h.nodup
  tally := h'.tally ∘ h.tally

theorem mono (h : Grows asked c c') (hsub : ∀ key, asked key → asked' key) : Grows asked' c c' where
  keeps := h.keeps
  asked key found hkey := (h.asked key found hkey).imp_right (hsub key)
  nodup := h.nodup
  tally := h.tally

end Grows

/-- A look-up that succeeds. -/
theorem grows_lookup {directory : Path} {name : String} {c c' : Catalog} {found : Option Loaded}
    (h : (lookup ws directory name).run c = (.ok found, c')) :
    ∃ key, key? ws directory name = some key ∧ c'.entries.lookup key = some found ∧
      Grows (· = key) c c' := by
  have hgoes := answers_lookup ws directory name c
  rw [h] at hgoes
  cases hgoes with
  | remembered hkey hknown =>
    exact ⟨_, hkey, hknown, fun _ _ => id, fun _ _ => .inl, id, id⟩
  | @found key found hkey hnew hsought =>
    have hnew' : (c.counting found.isSome).entries.lookup key = none := hnew
    refine ⟨key, hkey, (lookup_remember hnew').2 (.inl rfl), fun k r hk => ?_, fun k r hk => ?_,
      nodup_remember hnew', fun htally => ?_⟩
    · exact (lookup_remember hnew').2 (.inr hk)
    · rcases (lookup_remember hnew').1 hk with heq | hk
      · exact .inr (Prod.ext_iff.1 heq).1
      · exact .inl hk
    · simp only [remember, counting, List.countP_append, List.countP_cons, List.countP_nil,
        Option.isSome_map, htally]
      cases found <;> rfl

/-- What some declarations with their names ask a catalog for. -/
def AskedFor (ws : Workspace) (xs : List (Go.Declaration × String)) (key : Path × String) : Prop :=
  ∃ x ∈ xs, key? ws x.1.directory x.2 = some key

/-- What is bound to a template when the catalog says in the end what is there. -/
def IsAnswer (ws : Workspace) (c : Catalog) (x : Go.Declaration × String) (o : Option Binding) :
    Prop :=
  ∃ key found, key? ws x.1.directory x.2 = some key ∧ c.entries.lookup key = some found ∧
    o = found.map (Binding.mk x.1)

/-- Look-ups in a row that succeed: each answer is what the catalog remembers in the end. -/
theorem grows_mapM_look {xs : List (Go.Declaration × String)} {c c' : Catalog}
    {found : List (Option Binding)} (h : (xs.mapM (look ws)).run c = (.ok found, c')) :
    Grows (AskedFor ws xs) c c' ∧ List.Forall₂ (IsAnswer ws c') xs found := by
  induction xs generalizing c found with
  | nil =>
    cases h
    exact ⟨.refl _ _, .nil⟩
  | cons x xs ih =>
    rw [List.mapM_cons, run_bind_eq_ok] at h
    obtain ⟨o, middle, hx, h⟩ := h
    obtain ⟨os, last, hxs, h⟩ := run_bind_eq_ok.1 h
    cases h
    obtain ⟨r, middle', hlookup, h⟩ := run_bind_eq_ok.1 hx
    cases h
    obtain ⟨key, hkey, hknown, hgrows⟩ := grows_lookup hlookup
    obtain ⟨hgrows', hall⟩ := ih hxs
    refine ⟨(hgrows.trans hgrows').mono ?_,
      .cons ⟨key, r, hkey, hgrows'.keeps key r hknown, rfl⟩ hall⟩
    rintro k (rfl | ⟨y, hy, hk⟩)
    · exact ⟨x, List.mem_cons_self, hkey⟩
    · exact ⟨y, List.mem_cons_of_mem _ hy, hk⟩

/-- The bindings that are found are those of the templates that the catalog has in the end. -/
theorem ofDeclarations_eq_ok_spec {ds : List Go.Declaration} {c c' : Catalog} {bs : List Binding}
    (h : (ofDeclarations ws ds).run c = (.ok bs, c')) :
    Grows (AskedFor ws (wanted ds)) c c' ∧
      ∀ b, b ∈ bs ↔ ∃ x ∈ wanted ds, b.declaration = x.1 ∧
        c'.entries.lookup (ws.resolve x.1.directory, x.2) = some (some b.template) := by
  rw [ofDeclarations_eq] at h
  obtain ⟨found, last, hfound, h⟩ := run_bind_eq_ok.1 h
  cases h
  obtain ⟨hgrows, hall⟩ := grows_mapM_look hfound
  refine ⟨hgrows, fun b => ?_⟩
  clear h hfound hgrows
  generalize wanted ds = xs at hall ⊢
  induction hall with
  | nil => simp
  | @cons x o xs found hx _ ih =>
    obtain ⟨key, r, hkey, hknown, rfl⟩ := hx
    obtain ⟨-, rfl⟩ := key?_eq_some_iff.1 hkey
    have hmem : b ∈ (r.map (Binding.mk x.1) :: found).filterMap id ↔
        (b.declaration = x.1 ∧ r = some b.template) ∨ b ∈ found.filterMap id := by
      obtain ⟨d, t⟩ := b
      cases r <;> simp [eq_comm]
    simp only [hmem, ih, List.mem_cons, exists_eq_or_imp, hknown, Option.some.injEq]

/-- The catalog that some look-ups leave behind. -/
def filled (ws : Workspace) (suffix : String) (earlier : List (Path × String)) : Catalog :=
  earlier.foldl (fun c q => ((lookup ws q.1 q.2).run c).2) { suffix := suffix }

theorem coherent_filled (ws : Workspace) (suffix : String) (earlier : List (Path × String)) :
    Coherent ws suffix (filled ws suffix earlier) :=
  List.foldlRecOn earlier _ (motive := Coherent ws suffix) (coherent_empty ws suffix)
    fun c hc q _ => (forgets_lookup q.1 q.2 c hc).2

/-- The directory and the name by which the template of a binding is found. -/
def key (ws : Workspace) (b : Binding) : Path × String :=
  (ws.resolve b.declaration.directory, b.template.name)

variable {ds : List Go.Declaration} {c c' : Catalog} {bs : List Binding}

theorem coherent_ofDeclarations (hc : Coherent ws suffix c)
    (h : (ofDeclarations ws ds).run c = (.ok bs, c')) : Coherent ws suffix c' := by
  have hforget := (forgets_ofDeclarations ds c hc).2
  rwa [h] at hforget

/-- A template has the name that it is remembered by. -/
theorem key_of_lookup (hc : Coherent ws suffix c) {x : Go.Declaration × String} {t : Loaded}
    (h : c.entries.lookup (ws.resolve x.1.directory, x.2) = some (some t)) :
    key ws ⟨x.1, t⟩ = (ws.resolve x.1.directory, x.2) :=
  Prod.ext rfl (loadAfresh_eq_ok (afresh_eq_ok_some (hc.entries _ _ h))).1

/-- Each template is the one that the catalog has in the end. -/
theorem lookup_key (hc : Coherent ws suffix c)
    (h : (ofDeclarations ws ds).run c = (.ok bs, c')) {b : Binding} (hb : b ∈ bs) :
    c'.entries.lookup (key ws b) = some (some b.template) := by
  obtain ⟨x, -, hdecl, hknown⟩ := ((ofDeclarations_eq_ok_spec h).2 b).1 hb
  obtain ⟨d, t⟩ := b
  obtain rfl : d = x.1 := hdecl
  rwa [key_of_lookup (coherent_ofDeclarations hc h) hknown]

/-- In a list that has each key once, what a key leads to is what stands with it. -/
private theorem mem_iff_lookup {entries : List ((Path × String) × Option Loaded)}
    (h : (entries.map Prod.fst).Nodup) {k : Path × String} {found : Option Loaded} :
    (k, found) ∈ entries ↔ entries.lookup k = some found := by
  rw [List.lookup_eq_some_iff]
  constructor
  · intro hmem
    obtain ⟨before, after, rfl⟩ := List.append_of_mem hmem
    refine ⟨before, after, rfl, fun e he => ?_⟩
    rw [List.map_append, List.nodup_append] at h
    exact bne_iff_ne.2 (h.2.2 e.1 (List.mem_map_of_mem he) k (by simp)).symm
  · rintro ⟨before, after, rfl, -⟩
    simp

/-- A new catalog has compiled one template for each that is bound. -/
theorem parseCount_of_new
    (h : (ofDeclarations ws ds).run { suffix := suffix } = (.ok bs, c')) :
    c'.parseCount = (bs.map (key ws)).toFinset.card := by
  obtain ⟨hgrows, hmem⟩ := ofDeclarations_eq_ok_spec h
  have hnodup : (c'.entries.map Prod.fst).Nodup := hgrows.nodup .nil
  have hkeys : (bs.map (key ws)).toFinset =
      ((c'.entries.filter (·.2.isSome)).map Prod.fst).toFinset := by
    ext k
    simp only [List.mem_toFinset, List.mem_map, List.mem_filter]
    constructor
    · rintro ⟨b, hb, rfl⟩
      have hknown := lookup_key (coherent_empty ws suffix) h hb
      exact ⟨(key ws b, some b.template), ⟨(mem_iff_lookup hnodup).2 hknown, rfl⟩, rfl⟩
    · rintro ⟨⟨k, found⟩, ⟨hentry, hsome⟩, rfl⟩
      obtain ⟨t, rfl⟩ := Option.isSome_iff_exists.1 hsome
      have hknown := (mem_iff_lookup hnodup).1 hentry
      obtain ⟨x, hx, hkey⟩ := (hgrows.asked k _ hknown).resolve_left (by simp)
      obtain ⟨-, rfl⟩ := key?_eq_some_iff.1 hkey
      exact ⟨⟨x.1, t⟩, (hmem _).2 ⟨x, hx, rfl, hknown⟩,
        key_of_lookup (coherent_ofDeclarations (coherent_empty ws suffix) h) hknown⟩
  rw [hkeys, List.toFinset_card_of_nodup (hnodup.sublist (List.filter_sublist.map _)),
    List.length_map, ← List.countP_eq_length_filter]
  exact hgrows.tally rfl

/-- With a catalog one finds what one finds without, exactly when one can tell what is there. -/
theorem agrees_iff (hc : Coherent ws suffix c) :
    ((ofDeclarations ws ds).run c).1.map (List.map forget) = plain ws suffix ds ↔
      AllTold ws suffix ds := by
  rw [(forgets_ofDeclarations ds c hc).1, ofDeclarationsAfresh_eq]
  exact filterMap_lookAfresh_iff (wanted ds)

/-- Bindings are not found when the first template that is not found so fails. -/
theorem ofDeclarations_eq_error_iff (hc : Coherent ws suffix c) {f : Failure} :
    ((ofDeclarations ws ds).run c).1 = .error f ↔
      ∃ before x after, wanted ds = before ++ x :: after ∧
        (∀ y ∈ before, ∃ found, lookAfresh ws suffix y = .ok found) ∧
        lookAfresh ws suffix x = .error f := by
  have hmap : ((ofDeclarations ws ds).run c).1 = .error f ↔
      ofDeclarationsAfresh ws suffix ds = .error f := by
    rw [← (forgets_ofDeclarations ds c hc).1]
    cases ((ofDeclarations ws ds).run c).1 <;> simp [Except.map]
  have hfilter : ofDeclarationsAfresh ws suffix ds = .error f ↔
      (wanted ds).mapM (lookAfresh ws suffix) = .error f := by
    rw [ofDeclarationsAfresh_eq]
    cases (wanted ds).mapM (lookAfresh ws suffix) <;> simp [bind, Except.bind, pure, Except.pure]
  rw [hmap, hfilter, Except.mapM_eq_error_iff]

/-- When bindings are found, one could tell what is there. -/
theorem plain_of_eq_ok (hc : Coherent ws suffix c)
    (h : ((ofDeclarations ws ds).run c).1 = .ok bs) :
    plain ws suffix ds = .ok (bs.map forget) := by
  have htold : AllTold ws suffix ds := by
    intro before x after heq hbefore
    by_contra hnot
    obtain ⟨f, hf, -⟩ := lookAfresh_of_not_isTold hnot
    have herror := (ofDeclarations_eq_error_iff hc).2 ⟨before, x, after, heq, hbefore, hf⟩
    cases h.symm.trans herror
  rw [← (agrees_iff hc).2 htold, h]
  rfl

/-- The bindings that are found without a catalog are those of the templates that are there. -/
theorem map_of_plain (h : plain ws suffix ds = .ok bs) :
    bs.map (fun b => (b.declaration, b.template.name)) =
      (wanted ds).filter (isThere ws suffix) := by
  have hall := Except.mapM_eq_ok h
  generalize (wanted ds).filter (isThere ws suffix) = xs at hall
  clear h
  induction hall with
  | nil => rfl
  | cons hx _ ih =>
    obtain ⟨t, ht, rfl⟩ := Except.map_eq_ok.1 hx
    rw [List.map_cons, ih, (loadAfresh_eq_ok ht).1]

end Cached

/-- Whatever a catalog has been asked before, the bindings of declarations are found as if there
were none, exactly when one can tell of each template that is looked for whether it is there. They
are those of the files that are there, each with the template as it is loaded afresh; bindings with
the same directory and name share their template; the first template that fails decides how finding
bindings fails; and a new catalog compiles one template for each directory and name that is
bound. -/
theorem ofDeclarations_agrees_iff (ws : Workspace) (suffix : String)
    (earlier : List (Path × String)) (ds : List Go.Declaration) :
    let c := filled ws suffix earlier
    let out := (ofDeclarations ws ds).run c
    (out.1.map (List.map forget) = plain ws suffix ds ↔ AllTold ws suffix ds) ∧
    (∀ bs, out.1 = .ok bs →
      plain ws suffix ds = .ok (bs.map forget) ∧
      bs.map (fun b => (b.declaration, b.template.name)) =
        (wanted ds).filter (isThere ws suffix) ∧
      (∀ b ∈ bs, ∀ b' ∈ bs, key ws b = key ws b' → b.template = b'.template) ∧
      (earlier = [] → out.2.parseCount = (bs.map (key ws)).toFinset.card)) ∧
    (∀ f, out.1 = .error f ↔ ∃ before x after, wanted ds = before ++ x :: after ∧
      (∀ y ∈ before, ∃ found, lookAfresh ws suffix y = .ok found) ∧
      lookAfresh ws suffix x = .error f) ∧
    (ws.Proper → ∀ x ∈ wanted ds, ∀ l, ws.locate x.1.directory = .ok l →
      ws.tree.get? l = some .directory →
      (isThere ws suffix x = true ↔
        ws.isFile (templatePath suffix x.1.directory x.2) = .ok true) ∧
      (File.IsPlain (x.2 ++ suffix) → x.2 ++ suffix ≠ ".." → '\x00' ∉ (x.2 ++ suffix).toList →
        (IsTold ws suffix x ↔ (x.2 ++ suffix).utf8ByteSize ≤ File.maxNameBytes))) := by
  intro c out
  have hc : Coherent ws suffix c := coherent_filled ws suffix earlier
  refine ⟨agrees_iff hc, fun bs hout => ?_, fun f => ofDeclarations_eq_error_iff hc, ?_⟩
  · have hplain := plain_of_eq_ok hc hout
    have hrun : (ofDeclarations ws ds).run c = (.ok bs, out.2) := Prod.ext hout rfl
    refine ⟨hplain, ?_, fun b hb b' hb' hkey => ?_, ?_⟩
    · rw [← map_of_plain hplain, List.map_map]
      rfl
    · have hlookup := lookup_key hc hrun hb
      rw [hkey, lookup_key hc hrun hb'] at hlookup
      exact (Option.some.inj (Option.some.inj hlookup)).symm
    · rintro rfl
      exact parseCount_of_new hrun
  · intro hw x _ l hl hd
    refine ⟨?_, isTold_iff_of_isPlain hw hl hd⟩
    rw [isThere, hasTemplate_iff]
    exact hw.test_resolve_join hl hd _ _ true

/-- A directory with one template. -/
def oneTemplate : Workspace where
  tree := ⟨[(["m"], .directory), (["m", "Foo.tmpl"], .file (Text.Utf8.encode ['x']))]⟩
  here := []

/-- A declaration that embeds a type with a name of three hundred letters. -/
def longNamed : Go.Declaration where
  name := "Bar"
  package := "models"
  kind := Go.Declaration.structKind
  embedded := [String.ofList (List.replicate 300 'x')]
  file := ⟨.relative, ["m", "model.go"]⟩

/-- No file has such a name, but the declaration has not just no binding: asking for it fails. -/
theorem not_agrees_longNamed :
    ((ofDeclarations oneTemplate [longNamed]).run { suffix := defaultSuffix }).1.map
      (List.map forget) ≠ plain oneTemplate defaultSuffix [longNamed] := by
  have hw : oneTemplate.Proper := by decide +kernel
  have hl : oneTemplate.locate longNamed.directory = .ok ["m"] := by decide +kernel
  let x : Go.Declaration × String := (longNamed, String.ofList (List.replicate 300 'x'))
  have hwanted : wanted [longNamed] = [x] := rfl
  have hchars : (x.2 ++ defaultSuffix).toList = List.replicate 300 'x' ++ ".tmpl".toList := by
    rw [String.toList_append, String.toList_ofList]
    rfl
  have hne (s : String) (hs : s.toList ≠ List.replicate 300 'x' ++ ".tmpl".toList) :
      x.2 ++ defaultSuffix ≠ s := fun h => hs (h ▸ hchars)
  have htoo : File.maxNameBytes < (x.2 ++ defaultSuffix).utf8ByteSize := by decide +kernel
  rw [Ne, agrees_iff (coherent_empty oneTemplate defaultSuffix)]
  intro htold
  have hfits := (isTold_iff_of_isPlain hw hl rfl
    ⟨hne "" (by decide), hne "." (by decide), by rw [hchars]; decide⟩ (hne ".." (by decide))
    (by rw [hchars]; decide)).1 (htold [] x [] hwanted (by simp))
  omega

end TypeWeave.Binding
