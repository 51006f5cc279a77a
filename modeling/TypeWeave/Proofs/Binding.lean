import TypeWeave.Proofs.Imports
import TypeWeave.Proofs.Template.Catalog
import Mathlib.Data.List.Forall2

/-!
# Which bindings there are, and what they render to

A declaration is bound once for each of its embedded names that a template file beside it has.
Rendering the bindings in order gives their texts in order, and the imports are those that any of
the renderings asks for. Main statements: `ofDeclarationsAfresh_eq_ok` and `renderAll_eq_ok`.
-/

namespace TypeWeave.Binding

open File (Workspace Path)
open Template Template.Catalog

/-- Whether a name has a template file in a directory. -/
def hasTemplate (ws : Workspace) (suffix : String) (directory : Path) (name : String) : Bool :=
  match ws.isFile (templatePath suffix directory name) with
  | .ok b => b
  | .error _ => false

theorem hasTemplate_iff {ws : Workspace} {suffix : String} {directory : Path} {name : String} :
    hasTemplate ws suffix directory name = true ↔
      ws.isFile (templatePath suffix directory name) = .ok true := by
  unfold hasTemplate
  cases ws.isFile (templatePath suffix directory name) <;> simp

theorem hasTemplate_of_isFile_eq_ok {ws : Workspace} {suffix : String} {directory : Path}
    {name : String} {b : Bool} (h : ws.isFile (templatePath suffix directory name) = .ok b) :
    hasTemplate ws suffix directory name = b := by
  unfold hasTemplate
  rw [h]

/-- What is bound to a template: each declaration in order with those of its embedded names that
have a template file beside it, in order of their first appearance. -/
def requested (ws : Workspace) (suffix : String) (directory : Path) (ds : List Go.Declaration) :
    List (Go.Declaration × String) :=
  ds.flatMap fun d => (d.embedded.eraseDups.filter (hasTemplate ws suffix directory)).map (d, ·)

/-- A declaration is bound to a name when it embeds the name and there is a template file. -/
theorem mem_requested {ws : Workspace} {suffix : String} {directory : Path}
    {ds : List Go.Declaration} {d : Go.Declaration} {name : String} :
    (d, name) ∈ requested ws suffix directory ds ↔ d ∈ ds ∧ name ∈ d.embedded ∧
      ws.isFile (templatePath suffix directory name) = .ok true := by
  simp only [requested, List.mem_flatMap, List.mem_map, List.mem_filter, List.mem_eraseDups,
    hasTemplate_iff, Prod.mk.injEq]
  constructor
  · rintro ⟨d, hd, name, ⟨hname, hfile⟩, rfl, rfl⟩
    exact ⟨hd, hname, hfile⟩
  · rintro ⟨hd, hname, hfile⟩
    exact ⟨d, hd, name, ⟨hname, hfile⟩, rfl, rfl⟩

/-- A binding of a declaration to the template file of a name. -/
structure Of (ws : Workspace) (suffix : String) (directory : Path) (x : Go.Declaration × String)
    (b : Binding) : Prop where
  declaration : b.declaration = x.1
  template : loadAfresh ws (templatePath suffix directory x.2) x.2 = .ok b.template

variable {ws : Workspace} {suffix : String} {directory : Path}

/-- A name is bound exactly when it has a template file. -/
private theorem of_seek {d : Go.Declaration} {name : String} {o : Option Binding}
    (hd : ws.resolve d.directory = directory)
    (h : (do return (← seek ws suffix d.directory name).map fun t => Binding.mk d t :
      Except Failure (Option Binding)) = .ok o) :
    (hasTemplate ws suffix directory name = true ∧
        ∃ b, o = some b ∧ Of ws suffix directory (d, name) b) ∨
      hasTemplate ws suffix directory name = false ∧ o = none := by
  obtain ⟨found, hfound, h⟩ := Except.bind_eq_ok.1 h
  obtain rfl := Except.pure_eq_ok.1 h
  replace hfound := hd ▸ afresh_of_seek hfound
  cases hf : ws.isFile (templatePath suffix directory name) with
  | error e =>
    rw [afresh_of_isFile_eq_error hf] at hfound
    cases hfound
  | ok b =>
    rw [afresh_of_isFile_eq_ok hf] at hfound
    rw [hasTemplate_of_isFile_eq_ok hf]
    cases b with
    | false =>
      obtain rfl := Except.ok.inj hfound
      exact Or.inr ⟨rfl, rfl⟩
    | true =>
      obtain ⟨t, ht, rfl⟩ := Except.map_eq_ok.1 hfound
      exact Or.inl ⟨rfl, _, rfl, rfl, ht⟩

/-- The bindings of a declaration. -/
theorem ofDeclarationAfresh_eq_ok {d : Go.Declaration} {bs : List Binding}
    (hd : ws.resolve d.directory = directory) (h : ofDeclarationAfresh ws suffix d = .ok bs) :
    List.Forall₂ (Of ws suffix directory)
      ((d.embedded.eraseDups.filter (hasTemplate ws suffix directory)).map (d, ·)) bs := by
  obtain ⟨found, hfound, hbs⟩ := Except.bind_eq_ok.1 h
  obtain rfl := Except.pure_eq_ok.1 hbs
  have hall := Except.mapM_eq_ok hfound
  clear hfound hbs h
  generalize d.embedded.eraseDups = names at hall ⊢
  induction hall with
  | nil => exact .nil
  | @cons name o names found hname _ ih =>
    rcases of_seek hd hname with ⟨hhas, b, rfl, hb⟩ | ⟨hhas, rfl⟩
    · rw [List.filter_cons_of_pos hhas, List.map_cons]
      exact .cons hb ih
    · rw [List.filter_cons_of_neg (by simp [hhas])]
      exact ih

/-- The bindings of the declarations of a directory. -/
theorem ofDeclarationsAfresh_eq_ok {ds : List Go.Declaration} {bs : List Binding}
    (hd : ∀ d ∈ ds, ws.resolve d.directory = directory)
    (h : ofDeclarationsAfresh ws suffix ds = .ok bs) :
    List.Forall₂ (Of ws suffix directory) (requested ws suffix directory ds) bs := by
  obtain ⟨found, hfound, hbs⟩ := Except.bind_eq_ok.1 h
  obtain rfl := Except.pure_eq_ok.1 hbs
  have hall := Except.mapM_eq_ok hfound
  clear hfound hbs h
  induction hall with
  | nil => exact .nil
  | @cons d bs ds found hbs _ ih =>
    obtain ⟨hd, hds⟩ := List.forall_mem_cons.1 hd
    exact List.rel_append (ofDeclarationAfresh_eq_ok hd hbs) (ih hds)

/-- The template of a binding is that of the file of the name. -/
theorem Of.path {x : Go.Declaration × String} {b : Binding} (h : Of ws suffix directory x b) :
    b.template.path = templatePath suffix directory x.2 := (loadAfresh_eq_ok h.template).2.1

/-- The templates of bindings are those of the files of the names. -/
theorem map_path_of_forall₂ {xs : List (Go.Declaration × String)} {bs : List Binding}
    (h : List.Forall₂ (Of ws suffix directory) xs bs) :
    bs.map (·.template.path) = xs.map fun x => templatePath suffix directory x.2 := by
  induction h with
  | nil => rfl
  | cons hb _ ih => rw [List.map_cons, List.map_cons, hb.path, ih]

/-- What a rendering gives, with the paths that it asks to import. -/
structure Rendered (b : Binding) (rd : Rendering) (paths : List String) : Prop where
  render : b.template.compiled.render b.declaration b.template.name = .ok rd
  /-- Every request has a path. -/
  paths : rd.imports.map Imports.pathOf? = paths.map some

section Perform

variable {work : Eval String} {store : Store} {text : String} {pending : Imports}

/-- Reading a list changes nothing. -/
private theorem listItems_eq_ok {r : Ref} {s s' : Store} {items : List Value}
    (h : (Eval.listItems r).run s = .ok (items, s')) : s' = s := by
  unfold Eval.listItems at h
  rw [StateT.run_bind] at h
  obtain ⟨⟨cell, s₁⟩, hfetch, h⟩ := Except.bind_eq_ok.1 h
  have hs₁ : s₁ = s := by
    rw [Eval.fetch, StateT.run_bind] at hfetch
    obtain ⟨⟨t, s₂⟩, hget, hfetch⟩ := Except.bind_eq_ok.1 hfetch
    cases hget
    dsimp only at hfetch
    split at hfetch <;> cases hfetch
    rfl
  split at h <;> cases h <;> exact hs₁

/-- Work succeeds when it gives a text and each of its requests has a path. -/
theorem perform_eq_ok : perform work store = .ok (text, pending) ↔
    ∃ s, ∃ items : List Value, ∃ paths : List String, work.run store = .ok (text, s) ∧
      (Eval.listItems importsRef).run s = .ok (items, s) ∧
      items.map Imports.pathOf? = paths.map some ∧
      pending = paths.foldl Imports.insert Imports.empty := by
  unfold perform
  constructor
  · intro h
    obtain ⟨⟨x, s₄⟩, h, hx⟩ := Except.bind_eq_ok.1 h
    obtain rfl := Except.pure_eq_ok.1 hx
    rw [StateT.run_bind] at h
    obtain ⟨⟨text', s⟩, htext, h⟩ := Except.bind_eq_ok.1 h
    rw [StateT.run_bind] at h
    obtain ⟨⟨items, s'⟩, hitems, h⟩ := Except.bind_eq_ok.1 h
    obtain rfl := listItems_eq_ok hitems
    rw [StateT.run_bind] at h
    obtain ⟨⟨⟨imports, refused⟩, s''⟩, hall, h⟩ := Except.bind_eq_ok.1 h
    cases refused with
    | some f => cases h
    | none =>
      cases h
      obtain ⟨paths, hpaths, rfl⟩ := Imports.registerAll_eq_ok hall
      exact ⟨s', items, paths, htext, hitems, hpaths, rfl⟩
  · rintro ⟨s, items, paths, htext, hitems, hpaths, rfl⟩
    refine Except.bind_eq_ok.2 ⟨((text, _), s), ?_, rfl⟩
    simp only [StateT.run_bind]
    exact Except.bind_eq_ok.2 ⟨_, htext, Except.bind_eq_ok.2 ⟨_, hitems,
      Except.bind_eq_ok.2 ⟨_, Imports.registerAll_of_pathOf? hpaths s, rfl⟩⟩⟩

/-- The paths of work that succeeds can be requested again, and are taken. -/
theorem registerAll_of_perform (h : perform work store = .ok (text, pending)) (imports : Imports)
    (s : Store) : (imports.registerAll (pending.paths.map fun path => .text path false)).run s =
      .ok ((imports.union pending, none), s) := by
  obtain ⟨-, items, paths, -, -, hpaths, rfl⟩ := perform_eq_ok.1 h
  refine Imports.registerAll_of_pathOf? ?_ s
  rw [List.map_map]
  refine List.map_congr_left fun path hpath => ?_
  have hmem : path ∈ paths := by simpa [Imports.empty] using Imports.mem_foldl_insert.1 hpath
  obtain ⟨v, -, hv⟩ : ∃ v ∈ items, Imports.pathOf? v = some path :=
    List.mem_map.1 (hpaths ▸ List.mem_map_of_mem hmem)
  exact Imports.pathOf?_text hv false

/-- Once the paths of a rendering are put together, nothing can go wrong any more. -/
theorem renderBy_eq (b : Binding) (work : Eval String) (imports : Imports) :
    b.renderBy work imports = match perform work b.store with
      | .error f => (.error (b.failure f), imports)
      | .ok (text, pending) => (.ok text, imports.union pending) := by
  unfold renderBy
  cases h : perform work b.store with
  | error f => rfl
  | ok x =>
    obtain ⟨text, pending⟩ := x
    simp only [registerAll_of_perform h]

end Perform

/-- A rendering that succeeds is that of the template, and all that it asks to import are paths. -/
theorem perform_work_eq_ok {b : Binding} {text : String} {pending : Imports}
    (h : perform b.work b.store = .ok (text, pending)) :
    ∃ rd paths, Rendered b rd paths ∧ rd.text = text ∧
      pending = paths.foldl Imports.insert Imports.empty := by
  obtain ⟨s, items, paths, hwork, hitems, hpaths, rfl⟩ := perform_eq_ok.1 h
  refine ⟨⟨text, items⟩, paths, ⟨?_, hpaths⟩, rfl, rfl⟩
  rw [work, StateT.run_bind] at hwork
  obtain ⟨⟨names, s₁⟩, hnames, hwork⟩ := Except.bind_eq_ok.1 hwork
  refine Except.bind_eq_ok.2 ⟨(⟨text, items⟩, s), ?_, rfl⟩
  simp only [StateT.run_bind]
  exact Except.bind_eq_ok.2 ⟨_, hnames, Except.bind_eq_ok.2 ⟨_, hwork,
    Except.bind_eq_ok.2 ⟨_, hitems, rfl⟩⟩⟩

/-- Rendering bindings in order gives their texts, and adds the paths that any of them asks for. -/
theorem renderAll_eq_ok {bs : List Binding} {imports imports' : Imports} {texts : List String}
    (h : renderAll imports bs = .ok (texts, imports')) :
    ∃ rds : List (Rendering × List String),
      List.Forall₂ (fun b rd => Rendered b rd.1 rd.2) bs rds ∧ texts = rds.map (·.1.text) ∧
      (imports.Ordered → imports'.Ordered) ∧
      ∀ q, q ∈ imports'.paths ↔ q ∈ imports.paths ∨ ∃ rd ∈ rds, q ∈ rd.2 := by
  induction bs generalizing imports texts with
  | nil =>
    cases h
    exact ⟨[], .nil, rfl, id, by simp⟩
  | cons b bs ih =>
    rw [renderAll, render, renderBy_eq] at h
    cases hb : perform b.work b.store with
    | error f =>
      rw [hb] at h
      cases h
    | ok x =>
      obtain ⟨text, pending⟩ := x
      rw [hb] at h
      obtain ⟨⟨texts', last⟩, hbs, h⟩ := Except.bind_eq_ok.1 h
      cases h
      obtain ⟨rd, paths, hrd, rfl, rfl⟩ := perform_work_eq_ok hb
      obtain ⟨rds, hrds, rfl, hordered, hmem⟩ := ih hbs
      refine ⟨(rd, paths) :: rds, .cons hrd hrds, rfl,
        fun ho => hordered (Imports.ordered_union ho _), fun q => ?_⟩
      rw [hmem, Imports.mem_union, Imports.mem_foldl_insert]
      simp [Imports.empty, or_assoc]

end TypeWeave.Binding
