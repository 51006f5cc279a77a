import TypeWeave.Binding
import TypeWeave.Proofs.Except
import Mathlib.Data.List.Nodup

/-!
# The catalog only remembers

Work with a catalog comes to what it would come to if every template were read and compiled each
time it is asked for; only the numbers of the templates tell the difference, and no rendering reads
them. Main statements: `Forgets` and its lemmas, up to `forgets_ofDeclarations` for all bindings of
some declarations.
-/

namespace TypeWeave

namespace Template

/-- A template without its number. -/
def Loaded.forget (t : Loaded) : Loaded := { t with serial := 0 }

/-- A template with a number. -/
def Loaded.number (n : Nat) (t : Loaded) : Loaded := { t with serial := n }

namespace Catalog

open File (Workspace Path)

/-- The template in a file. -/
def loadAfresh (ws : Workspace) (path : Path) (name : String) : Except Failure Loaded :=
  match ws.read path with
  | .error e => .error (.file e)
  | .ok bytes =>
    match Text.Utf8.decode bytes with
    | .error e => .error (.template path ("invalid UTF-8 at byte " ++ toString e.offset) none)
    | .ok cs =>
      match compile (String.ofList (Text.normalizeNewlines cs)) with
      | .error f => .error (.template path f.message (some f.line))
      | .ok compiled => .ok ⟨name, path, compiled, 0⟩

/-- The template of a name in a directory, if there is one. -/
def afresh (ws : Workspace) (suffix : String) (directory : Path) (name : String) :
    Except Failure (Option Loaded) :=
  let path := templatePath suffix directory name
  match ws.isFile path with
  | .error e => .error (.file e)
  | .ok false => .ok none
  | .ok true => (loadAfresh ws path name).map some

theorem afresh_of_isFile_eq_ok {ws : Workspace} {suffix : String} {directory : Path} {name : String}
    {b : Bool} (h : ws.isFile (templatePath suffix directory name) = .ok b) :
    afresh ws suffix directory name =
      if b then (loadAfresh ws (templatePath suffix directory name) name).map some
      else .ok none := by
  unfold afresh
  dsimp only
  rw [h]
  cases b <;> rfl

theorem afresh_of_isFile_eq_error {ws : Workspace} {suffix : String} {directory : Path}
    {name : String} {e : File.Error}
    (h : ws.isFile (templatePath suffix directory name) = .error e) :
    afresh ws suffix directory name = .error (.file e) := by
  unfold afresh
  dsimp only
  rw [h]

/-- What a name in a directory is remembered by, unless the directory cannot be resolved. -/
def key? (ws : Workspace) (directory : Path) (name : String) : Option (Path × String) :=
  if directory.text.toList.contains '\x00' then none else some (ws.resolve directory, name)

/-- The template of a name in a directory as it is given, if there is one. -/
def seek (ws : Workspace) (suffix : String) (directory : Path) (name : String) :
    Except Failure (Option Loaded) :=
  match key? ws directory name with
  | none => .error .embeddedNul
  | some key => afresh ws suffix key.1 key.2

/-- Whether looking for a template came to compiling it: it was found, or it has a line that is no
template. -/
def wasCompiled : Except Failure (Option Loaded) → Bool
  | .ok found => found.isSome
  | .error (.template _ _ line) => line.isSome
  | .error _ => false

/-- A catalog that has compiled one more template, or not. -/
def counting (compiled : Bool) (c : Catalog) : Catalog :=
  { c with parseCount := c.parseCount + compiled.toNat }

/-- A catalog that has found something. -/
def remember (key : Path × String) (found : Option Loaded) (c : Catalog) : Catalog :=
  { c with entries := c.entries ++ [(key, found)] }

/-- A catalog that has answered from memory once more. -/
def hit (c : Catalog) : Catalog := { c with hits := c.hits + 1 }

/-- What a catalog remembers is what is there. -/
structure Coherent (ws : Workspace) (suffix : String) (c : Catalog) : Prop where
  suffix_eq : c.suffix = suffix
  entries : ∀ key found, c.entries.lookup key = some found →
    afresh ws suffix key.1 key.2 = .ok (found.map Loaded.forget)

variable {ws : Workspace} {suffix : String} {α β : Type}

theorem coherent_empty (ws : Workspace) (suffix : String) :
    Coherent ws suffix { suffix := suffix } :=
  ⟨rfl, by simp⟩

/-- Work goes on with the catalog that the first part of it leaves, unless that part fails. -/
theorem run_bind (x : Work α) (k : α → Work β) (c : Catalog) :
    (x >>= k).run c = match x.run c with
      | (.ok a, c') => (k a).run c'
      | (.error e, c') => (.error e, c') := by
  change (x.run c >>= fun p => ExceptT.bindCont k p.1 p.2 : Id (Except Failure β × Catalog)) = _
  rcases x.run c with ⟨e | a, c'⟩ <;> rfl

/-- Work that succeeds succeeds in both of its parts. -/
theorem run_bind_eq_ok {x : Work α} {k : α → Work β} {c c'' : Catalog} {b : β} :
    (x >>= k).run c = (.ok b, c'') ↔
      ∃ a c', x.run c = (.ok a, c') ∧ (k a).run c' = (.ok b, c'') := by
  rw [run_bind]
  generalize x.run c = out
  obtain ⟨e | a, c'⟩ := out
  · exact iff_of_false (fun h => by cases h) (fun ⟨a, c', h, _⟩ => by cases h)
  · exact ⟨fun h => ⟨a, c', rfl, h⟩, fun ⟨_, _, h, h'⟩ => by cases h; exact h'⟩

/-- Work with any coherent catalog comes to something that forgets what the catalog adds, and leaves
the catalog coherent. -/
def Forgets (ws : Workspace) (suffix : String) (x : Work α) (f : α → β) (y : Except Failure β) :
    Prop :=
  ∀ c, Coherent ws suffix c → (x.run c).1.map f = y ∧ Coherent ws suffix (x.run c).2

namespace Forgets

theorem pure (a : α) (f : α → β) : Forgets ws suffix (pure a) f (.ok (f a)) :=
  fun _ hc => ⟨rfl, hc⟩

theorem bind {γ δ : Type} {x : Work α} {f : α → β} {y : Except Failure β} {k : α → Work γ}
    {g : γ → δ} {k' : β → Except Failure δ} (hx : Forgets ws suffix x f y)
    (hk : ∀ a, Forgets ws suffix (k a) g (k' (f a))) :
    Forgets ws suffix (x >>= k) g (y >>= k') := by
  intro c hc
  obtain ⟨hy, hc'⟩ := hx c hc
  rw [run_bind]
  generalize x.run c = out at hy hc' ⊢
  obtain ⟨r, c'⟩ := out
  subst hy
  cases r with
  | error e => exact ⟨rfl, hc'⟩
  | ok a => exact hk a c' hc'

theorem mapM {γ : Type} {x : γ → Work α} {f : α → β} {y : γ → Except Failure β} (l : List γ)
    (h : ∀ c ∈ l, Forgets ws suffix (x c) f (y c)) :
    Forgets ws suffix (l.mapM x) (List.map f) (l.mapM y) := by
  induction l with
  | nil => exact pure [] (List.map f)
  | cons c l ih =>
    rw [List.mapM_cons, List.mapM_cons]
    refine bind (h c List.mem_cons_self) fun a => ?_
    exact bind (ih fun d hd => h d (List.mem_cons_of_mem _ hd))
      fun as => pure (a :: as) (List.map f)

end Forgets

/-- Loading gives the template in the file, numbered by the templates compiled so far. -/
theorem run_load (ws : Workspace) (path : Path) (name : String) (c : Catalog) :
    (load ws path name).run c =
      ((loadAfresh ws path name).map (Loaded.number (c.parseCount + 1)),
        c.counting (wasCompiled ((loadAfresh ws path name).map some))) := by
  unfold load loadAfresh
  cases ws.read path with
  | error e => rfl
  | ok bytes =>
    simp only [pure_bind]
    cases Text.Utf8.decode bytes with
    | error e => rfl
    | ok cs =>
      simp only [run_bind]
      cases compile (String.ofList (Text.normalizeNewlines cs)) <;> rfl

/-- What is remembered is told again; what is not is looked for, and remembered unless that
fails. -/
theorem run_consult (ws : Workspace) (key : Path × String) (c : Catalog) :
    (consult ws key).run c = match c.entries.lookup key with
      | some found => (.ok found, c.hit)
      | none =>
        let sought := afresh ws c.suffix key.1 key.2
        let counted := c.counting (wasCompiled sought)
        match sought.map (Option.map (Loaded.number (c.parseCount + 1))) with
        | .error f => (.error f, counted)
        | .ok found => (.ok found, counted.remember key found) := by
  have hget : (get : Work Catalog).run c = (.ok c, c) := rfl
  unfold consult
  cases hl : c.entries.lookup key with
  | some found =>
    simp only [run_bind, hget, hl]
    rfl
  | none =>
    simp only [run_bind, hget, hl]
    unfold afresh
    dsimp only
    cases ws.isFile (templatePath c.suffix key.1 key.2) with
    | error e => rfl
    | ok b =>
      cases b with
      | false => rfl
      | true =>
        simp only [run_bind, run_load]
        cases loadAfresh ws (templatePath c.suffix key.1 key.2) key.2 <;> rfl

/-- A directory is resolved before anything is looked up in it. -/
theorem run_lookup (ws : Workspace) (directory : Path) (name : String) (c : Catalog) :
    (lookup ws directory name).run c = match key? ws directory name with
      | none => (.error .embeddedNul, c)
      | some key => (consult ws key).run c := by
  unfold lookup key?
  split <;> rfl

/-- What a look-up does with a catalog, and what it answers. -/
inductive Answers (ws : Workspace) (directory : Path) (name : String) (c : Catalog) :
    Except Failure (Option Loaded) × Catalog → Prop where
  /-- The directory cannot be resolved. -/
  | refused (hkey : key? ws directory name = none) :
    Answers ws directory name c (.error .embeddedNul, c)
  /-- The answer is remembered. -/
  | remembered {key : Path × String} {found : Option Loaded}
      (hkey : key? ws directory name = some key) (hknown : c.entries.lookup key = some found) :
    Answers ws directory name c (.ok found, c.hit)
  /-- There is no answer: the template does not load, or one cannot tell whether it is there. -/
  | failed {key : Path × String} {f : Failure} (hkey : key? ws directory name = some key)
      (hnew : c.entries.lookup key = none) (hsought : afresh ws c.suffix key.1 key.2 = .error f) :
    Answers ws directory name c (.error f, c.counting (wasCompiled (.error f)))
  /-- What is there is found, and numbered if it is a template. -/
  | found {key : Path × String} {found : Option Loaded} (hkey : key? ws directory name = some key)
      (hnew : c.entries.lookup key = none) (hsought : afresh ws c.suffix key.1 key.2 = .ok found) :
    Answers ws directory name c (.ok (found.map (Loaded.number (c.parseCount + 1))),
      (c.counting found.isSome).remember key (found.map (Loaded.number (c.parseCount + 1))))

/-- There is no other way for a look-up to go. -/
theorem answers_lookup (ws : Workspace) (directory : Path) (name : String) (c : Catalog) :
    Answers ws directory name c ((lookup ws directory name).run c) := by
  rw [run_lookup]
  cases hkey : key? ws directory name with
  | none => exact .refused hkey
  | some key =>
    dsimp only
    rw [run_consult]
    cases hl : c.entries.lookup key with
    | some found => exact .remembered hkey hl
    | none =>
      cases hsought : afresh ws c.suffix key.1 key.2 with
      | error f => exact .failed hkey hl hsought
      | ok found => exact .found hkey hl hsought

/-- Counting, remembering what is there and telling it keep a catalog coherent. -/
theorem Coherent.counting {c : Catalog} (hc : Coherent ws suffix c) (compiled : Bool) :
    Coherent ws suffix (c.counting compiled) :=
  ⟨hc.suffix_eq, hc.entries⟩

theorem Coherent.hit {c : Catalog} (hc : Coherent ws suffix c) : Coherent ws suffix c.hit :=
  ⟨hc.suffix_eq, hc.entries⟩

/-- Remembering something new changes nothing else. -/
theorem lookup_remember {c : Catalog} {key k : Path × String} {found r : Option Loaded}
    (hnew : c.entries.lookup key = none) :
    (c.remember key found).entries.lookup k = some r ↔
      (k, r) = (key, found) ∨ c.entries.lookup k = some r := by
  rw [remember, List.lookup_append, Option.or_eq_some_iff]
  by_cases hk : k = key
  · subst hk
    simp [hnew, eq_comm]
  · have hne : (k == key) = false := beq_false_of_ne hk
    simp [List.lookup_cons, hne, hk]

/-- What is remembered is remembered once. -/
theorem nodup_remember {c : Catalog} {key : Path × String} {found : Option Loaded}
    (hnew : c.entries.lookup key = none) (h : (c.entries.map Prod.fst).Nodup) :
    ((c.remember key found).entries.map Prod.fst).Nodup := by
  have hfresh : key ∉ c.entries.map Prod.fst := fun hmem => by
    obtain ⟨x, hx, rfl⟩ := List.mem_map.1 hmem
    simpa using List.lookup_eq_none_iff.1 hnew x hx
  rw [remember, List.map_append]
  exact h.append (List.nodup_singleton key) (List.disjoint_singleton.2 hfresh)

theorem Coherent.remember {c : Catalog} (hc : Coherent ws suffix c) {key : Path × String}
    {found : Option Loaded} (hnew : c.entries.lookup key = none)
    (h : afresh ws suffix key.1 key.2 = .ok (found.map Loaded.forget)) :
    Coherent ws suffix (c.remember key found) where
  suffix_eq := hc.suffix_eq
  entries k r hk := by
    rcases (lookup_remember hnew).1 hk with heq | hk
    · cases heq
      exact h
    · exact hc.entries k r hk

/-- A template that is loaded has the name that it was loaded by, and no number. -/
theorem loadAfresh_eq_ok {path : Path} {name : String} {t : Loaded}
    (h : loadAfresh ws path name = .ok t) : t.name = name ∧ t.path = path ∧ t.forget = t := by
  unfold loadAfresh at h
  split at h
  · cases h
  · split at h
    · cases h
    · split at h
      · cases h
      · cases h
        exact ⟨rfl, rfl, rfl⟩

/-- What is found afresh is loaded. -/
theorem afresh_eq_ok_some {directory : Path} {name : String} {t : Loaded}
    (h : afresh ws suffix directory name = .ok (some t)) :
    loadAfresh ws (templatePath suffix directory name) name = .ok t := by
  cases hfile : ws.isFile (templatePath suffix directory name) with
  | error e => cases (afresh_of_isFile_eq_error hfile).symm.trans h
  | ok b =>
    rw [afresh_of_isFile_eq_ok hfile] at h
    cases b with
    | false => cases h
    | true =>
      obtain ⟨t', ht, heq⟩ := Except.map_eq_ok.1 h
      cases heq
      exact ht

theorem forget_number_of_afresh {key : Path × String} {found : Option Loaded}
    (h : afresh ws suffix key.1 key.2 = .ok found) (n : Nat) :
    (found.map (Loaded.number n)).map Loaded.forget = found := by
  cases found with
  | none => rfl
  | some t => exact congrArg some (loadAfresh_eq_ok (afresh_eq_ok_some h)).2.2

theorem key?_eq_some_iff {directory : Path} {name : String} {key : Path × String} :
    key? ws directory name = some key ↔
      '\x00' ∉ directory.text.toList ∧ (ws.resolve directory, name) = key := by
  unfold key?
  simp

/-- What is found in a directory as it is given is what is found in the directory. -/
theorem afresh_of_seek {directory : Path} {name : String} {found : Option Loaded}
    (h : seek ws suffix directory name = .ok found) :
    afresh ws suffix (ws.resolve directory) name = .ok found := by
  unfold seek at h
  split at h
  · cases h
  · rename_i hkey
    obtain ⟨-, rfl⟩ := key?_eq_some_iff.1 hkey
    exact h

/-- Recalling a name gives the template that is there. -/
theorem forgets_consult (key : Path × String) :
    Forgets ws suffix (consult ws key) (Option.map Loaded.forget)
      (afresh ws suffix key.1 key.2) := by
  intro c hc
  rw [run_consult, hc.suffix_eq]
  cases hl : c.entries.lookup key with
  | some found => exact ⟨(hc.entries _ _ hl).symm, hc.hit⟩
  | none =>
    cases hf : afresh ws suffix key.1 key.2 with
    | error f => exact ⟨rfl, hc.counting _⟩
    | ok found =>
      have hforget := forget_number_of_afresh hf (c.parseCount + 1)
      exact ⟨congrArg Except.ok hforget, (hc.counting _).remember hl (hforget.symm ▸ hf)⟩

/-- Looking a name up gives the template that is there. -/
theorem forgets_lookup (directory : Path) (name : String) :
    Forgets ws suffix (lookup ws directory name) (Option.map Loaded.forget)
      (seek ws suffix directory name) := by
  intro c hc
  rw [run_lookup]
  unfold seek
  cases key? ws directory name with
  | none => exact ⟨rfl, hc⟩
  | some key => exact forgets_consult key c hc

end Catalog

end Template

namespace Binding

open Template Template.Catalog

/-- A binding without the number of its template. -/
def forget (b : Binding) : Binding := { b with template := b.template.forget }

/-- The bindings of a declaration when no catalog is kept. -/
def ofDeclarationAfresh (ws : File.Workspace) (suffix : String) (d : Go.Declaration) :
    Except Failure (List Binding) := do
  let found ← d.embedded.eraseDups.mapM fun name => do
    return (← seek ws suffix d.directory name).map fun t => Binding.mk d t
  return found.filterMap id

/-- The bindings of declarations when no catalog is kept. -/
def ofDeclarationsAfresh (ws : File.Workspace) (suffix : String) (ds : List Go.Declaration) :
    Except Failure (List Binding) := do
  return (← ds.mapM (ofDeclarationAfresh ws suffix)).flatten

variable {ws : File.Workspace} {suffix : String}

theorem forgets_ofDeclaration (d : Go.Declaration) :
    Forgets ws suffix (ofDeclaration ws d) (List.map forget) (ofDeclarationAfresh ws suffix d) := by
  have hname (name : String) : Forgets ws suffix
      (do return (← lookup ws d.directory name).map fun t => Binding.mk d t)
      (Option.map forget)
      (do
        return (← seek ws suffix d.directory name).map fun t => Binding.mk d t) := by
    refine .bind (forgets_lookup d.directory name) fun found => ?_
    cases found with
    | none => exact .pure none (Option.map forget)
    | some t => exact .pure (some ⟨d, t⟩) (Option.map forget)
  refine .bind (.mapM _ fun name _ => hname name) fun found => ?_
  have hmap : (found.map (Option.map forget)).filterMap id = (found.filterMap id).map forget := by
    rw [List.filterMap_map, List.map_filterMap]
    rfl
  rw [hmap]
  exact .pure (found.filterMap id) (List.map forget)

/-- The bindings of declarations are those there would be without a catalog. -/
theorem forgets_ofDeclarations (ds : List Go.Declaration) :
    Forgets ws suffix (ofDeclarations ws ds) (List.map forget)
      (ofDeclarationsAfresh ws suffix ds) := by
  refine .bind (.mapM _ fun d _ => forgets_ofDeclaration d) fun found => ?_
  rw [← List.map_flatten]
  exact .pure found.flatten (List.map forget)

/-- Rendering does not read the number of a template. -/
theorem renderAll_forget (imports : Imports) (bs : List Binding) :
    renderAll imports (bs.map forget) = renderAll imports bs := by
  induction bs generalizing imports with
  | nil => rfl
  | cons b bs ih =>
    have hrender : b.forget.render imports = b.render imports := rfl
    rw [List.map_cons, renderAll, renderAll, hrender]
    simp only [ih]

end Binding

end TypeWeave
