import TypeWeave.Proofs.Binding

/-!
# Imports are merged binding by binding

Rendering a binding either succeeds and adds all its imports to those of the file, or fails and adds
none, whatever work renders it. So after a row of bindings whose failures are caught the file has
the imports that it had and those of the bindings that succeeded. A failure is told with the names
of the binding unless its fault cannot be told. Main statements: `render_eq_ok_iff`,
`render_eq_error_iff`, `mem_renderEach` and `renderEach_merges`.
-/

namespace TypeWeave.Binding

open Template

/-- A binding with the work that renders it. -/
structure Job where
  binding : Binding
  work : Eval String

namespace Job

/-- Render the binding of a job. -/
def render (j : Job) (imports : Imports) : Except Failure String × Imports :=
  j.binding.renderBy j.work imports

/-- A job gives a text and asks for some imports, each of which is a path. -/
def Gives (j : Job) (text : String) (requests : List Value) : Prop :=
  ∃ s, j.work.run j.binding.store = .ok (text, s) ∧
    (Eval.listItems importsRef).run s = .ok (requests, s) ∧
    ∀ v ∈ requests, ∃ path, Imports.pathOf? v = some path

/-- A job has a fault: its work has one, or one of its requests is refused. -/
def Faults (j : Job) (f : Fault) : Prop := perform j.work j.binding.store = .error f

/-- A job succeeds and asks for a path. -/
def Asks (j : Job) (path : String) : Prop :=
  ∃ text requests, j.Gives text requests ∧ ∃ v ∈ requests, Imports.pathOf? v = some path

/-- A failure of the rendering of a job, with the names of its declaration and its template. -/
def IsNamed (j : Job) (f : Failure) : Prop :=
  ∃ diagnostic, f = .rendering j.binding.declaration.name j.binding.template.name diagnostic

/-- The paths of some requests. -/
def pathsOf (requests : List Value) : Imports :=
  (requests.filterMap Imports.pathOf?).foldl Imports.insert Imports.empty

theorem mem_pathsOf {requests : List Value} {path : String} :
    path ∈ (pathsOf requests).paths ↔ ∃ v ∈ requests, Imports.pathOf? v = some path := by
  simp [pathsOf, Imports.mem_foldl_insert, Imports.empty]

/-- Requests that all have paths are told by their paths. -/
private theorem map_pathOf?_eq_iff {requests : List Value} {paths : List String} :
    requests.map Imports.pathOf? = paths.map some ↔
      paths = requests.filterMap Imports.pathOf? ∧
        ∀ v ∈ requests, ∃ path, Imports.pathOf? v = some path := by
  constructor
  · intro h
    refine ⟨?_, fun v hv => ?_⟩
    · have hfilter := congrArg (List.filterMap id) h
      rw [List.filterMap_map, List.filterMap_map] at hfilter
      simpa using hfilter.symm
    · obtain ⟨path, -, hpath⟩ := List.mem_map.1 (h ▸ List.mem_map_of_mem hv)
      exact ⟨path, hpath.symm⟩
  · rintro ⟨rfl, hall⟩
    induction requests with
    | nil => rfl
    | cons v requests ih =>
      obtain ⟨⟨path, hpath⟩, hall⟩ := List.forall_mem_cons.1 hall
      rw [List.map_cons, ih hall, List.filterMap_cons_some hpath, List.map_cons, hpath]

variable {j : Job} {imports imports' : Imports}

/-- Work that succeeds is that of a job that gives something. -/
theorem perform_eq_ok_iff {text : String} {pending : Imports} :
    perform j.work j.binding.store = .ok (text, pending) ↔
      ∃ requests, j.Gives text requests ∧ pending = pathsOf requests := by
  rw [perform_eq_ok]
  constructor
  · rintro ⟨s, requests, paths, hwork, hitems, hpaths, rfl⟩
    obtain ⟨rfl, hall⟩ := map_pathOf?_eq_iff.1 hpaths
    exact ⟨requests, ⟨s, hwork, hitems, hall⟩, rfl⟩
  · rintro ⟨requests, ⟨s, hwork, hitems, hall⟩, rfl⟩
    exact ⟨s, requests, _, hwork, hitems, map_pathOf?_eq_iff.2 ⟨rfl, hall⟩, rfl⟩

/-- A job succeeds when it gives a text and asks for paths only. Then all of these are added. -/
theorem render_eq_ok_iff {text : String} :
    j.render imports = (.ok text, imports') ↔
      ∃ requests, j.Gives text requests ∧ imports' = imports.union (pathsOf requests) := by
  rw [render, renderBy_eq]
  cases hperform : perform j.work j.binding.store with
  | error f =>
    refine iff_of_false (fun h => by cases h) ?_
    rintro ⟨requests, hgives, -⟩
    cases hperform.symm.trans (perform_eq_ok_iff.2 ⟨requests, hgives, rfl⟩)
  | ok x =>
    obtain ⟨text', pending⟩ := x
    constructor
    · intro h
      cases h
      obtain ⟨requests, hgives, rfl⟩ := perform_eq_ok_iff.1 hperform
      exact ⟨requests, hgives, rfl⟩
    · rintro ⟨requests, hgives, rfl⟩
      cases hperform.symm.trans (perform_eq_ok_iff.2 ⟨requests, hgives, rfl⟩)
      rfl

/-- A job that fails leaves the imports alone. -/
theorem render_eq_error_iff {f : Failure} :
    j.render imports = (.error f, imports') ↔
      imports' = imports ∧ ∃ g, j.Faults g ∧ f = j.binding.failure g := by
  rw [render, renderBy_eq]
  unfold Faults
  cases perform j.work j.binding.store with
  | error g =>
    simp only [Prod.mk.injEq, Except.error.injEq, exists_eq_left', @eq_comm _ imports,
      @eq_comm _ (j.binding.failure g)]
    exact and_comm
  | ok x => exact iff_of_false (fun h => by cases h) fun ⟨_, g, h, _⟩ => by cases h

/-- What a job gives it gives in one way only. -/
theorem Gives.unique {text text' : String} {requests requests' : List Value}
    (h : j.Gives text requests) (h' : j.Gives text' requests') : requests = requests' := by
  obtain ⟨s, hwork, hitems, -⟩ := h
  obtain ⟨s', hwork', hitems', -⟩ := h'
  cases hwork.symm.trans hwork'
  cases hitems.symm.trans hitems'
  rfl

/-- After a job, the imports are those before and those of the job if it succeeded. -/
theorem mem_render {path : String} :
    path ∈ (j.render imports).2.paths ↔ path ∈ imports.paths ∨ j.Asks path := by
  cases hj : j.render imports with
  | mk r imports' =>
  cases r with
  | error f =>
    obtain ⟨rfl, g, hg, -⟩ := render_eq_error_iff.1 hj
    refine (or_iff_left ?_).symm
    rintro ⟨text, requests, hgives, -⟩
    cases hg.symm.trans (perform_eq_ok_iff.2 ⟨requests, hgives, rfl⟩)
  | ok text =>
    obtain ⟨requests, hgives, rfl⟩ := render_eq_ok_iff.1 hj
    rw [Imports.mem_union, mem_pathsOf]
    refine or_congr_right ⟨fun h => ⟨text, requests, hgives, h⟩, ?_⟩
    rintro ⟨text', requests', hgives', h⟩
    exact hgives.unique hgives' ▸ h

/-- The imports stay in order. -/
theorem ordered_render (h : imports.Ordered) : (j.render imports).2.Ordered := by
  cases hj : j.render imports with
  | mk r imports' =>
  cases r with
  | error f => exact (render_eq_error_iff.1 hj).1 ▸ h
  | ok text =>
    obtain ⟨requests, -, rfl⟩ := render_eq_ok_iff.1 hj
    exact Imports.ordered_union h _

/-- A fault is told with the names of the binding unless it cannot be told. -/
theorem isNamed_failure_iff {f : Fault} : j.IsNamed (j.binding.failure f) ↔ f.untold? = none := by
  unfold IsNamed failure
  cases f.untold? with
  | none => exact iff_of_true ⟨_, rfl⟩ rfl
  | some g => exact iff_of_false (fun ⟨_, h⟩ => by cases h) nofun

end Job

/-- Render the bindings of jobs in turn, going on after failures: what comes of each, and the
imports of the file afterwards. -/
def renderEach (imports : Imports) : List Job → List (Except Failure String) × Imports
  | [] => ([], imports)
  | j :: jobs =>
    let (result, imports) := j.render imports
    let (results, imports) := renderEach imports jobs
    (result :: results, imports)

section Each

variable {initial : Imports} {jobs : List Job}

theorem renderEach_cons (initial : Imports) (j : Job) (jobs : List Job) :
    renderEach initial (j :: jobs) =
      ((j.render initial).1 :: (renderEach (j.render initial).2 jobs).1,
        (renderEach (j.render initial).2 jobs).2) := rfl

/-- Whatever jobs fail, the imports stay in order. -/
theorem ordered_renderEach (h : initial.Ordered) : (renderEach initial jobs).2.Ordered := by
  induction jobs generalizing initial with
  | nil => exact h
  | cons j jobs ih => exact ih (Job.ordered_render h)

/-- After all jobs, the imports are those before and those of the jobs that succeeded. -/
theorem mem_renderEach {path : String} : path ∈ (renderEach initial jobs).2.paths ↔
    path ∈ initial.paths ∨ ∃ j ∈ jobs, j.Asks path := by
  induction jobs generalizing initial with
  | nil => simp [renderEach]
  | cons j jobs ih => rw [renderEach_cons, ih, Job.mem_render, List.exists_mem_cons_iff, or_assoc]

/-- What comes of a job is what comes of it with the imports that the jobs before it left. -/
theorem getElem?_renderEach (before : List Job) (j : Job) (after : List Job) :
    (renderEach initial (before ++ j :: after)).1[before.length]? =
      some (j.render (renderEach initial before).2).1 := by
  induction before generalizing initial with
  | nil => rfl
  | cons k before ih => exact ih

end Each

/-- Any row of jobs: the imports of the file are merged job by job, all of one that succeeds and
none of one that fails; a job succeeds exactly when it gives a text and asks for paths only; and
every failure has the names of its job exactly when every fault can be told. -/
theorem renderEach_merges (initial : Imports) (jobs : List Job) :
    (initial.Ordered → (renderEach initial jobs).2.Ordered) ∧
    (∀ path, path ∈ (renderEach initial jobs).2.paths ↔
      path ∈ initial.paths ∨ ∃ j ∈ jobs, j.Asks path) ∧
    (∀ before j after, jobs = before ++ j :: after →
      let imports := (renderEach initial before).2
      (renderEach initial jobs).1[before.length]? = some (j.render imports).1 ∧
      (∀ text imports', j.render imports = (.ok text, imports') ↔
        ∃ requests, j.Gives text requests ∧ imports' = imports.union (Job.pathsOf requests)) ∧
      (∀ f imports', j.render imports = (.error f, imports') ↔
        imports' = imports ∧ ∃ g, j.Faults g ∧ f = j.binding.failure g)) ∧
    ((∀ before j after f, jobs = before ++ j :: after →
        (j.render (renderEach initial before).2).1 = .error f → j.IsNamed f) ↔
      ∀ j ∈ jobs, ∀ g, j.Faults g → g.untold? = none) := by
  refine ⟨ordered_renderEach, fun path => mem_renderEach, ?_, ?_, ?_⟩
  · rintro before j after rfl
    exact ⟨getElem?_renderEach before j after, fun _ _ => Job.render_eq_ok_iff,
      fun _ _ => Job.render_eq_error_iff⟩
  · intro h j hj g hg
    obtain ⟨before, after, rfl⟩ := List.append_of_mem hj
    have herror : j.render (renderEach initial before).2 =
        (.error (j.binding.failure g), (renderEach initial before).2) :=
      Job.render_eq_error_iff.2 ⟨rfl, g, hg, rfl⟩
    exact Job.isNamed_failure_iff.1 (h before j after _ rfl (congrArg Prod.fst herror))
  · rintro h before j after f rfl hf
    obtain ⟨-, g, hg, rfl⟩ := Job.render_eq_error_iff.1 (Prod.ext hf rfl)
    exact Job.isNamed_failure_iff.2 (h j (by simp) g hg)

/-- A template that takes a number too long to print out of an empty dictionary. -/
def longKey : String := "\x7b\x7b \x7b\x7d.pop((10 ** (70 * name|length)) ** 70) \x7d\x7d"

/-- The fault that cannot be told, if rendering a binding ends with one. -/
def untoldFault? (b : Binding) : Option Fault :=
  match perform b.work b.store with
  | .error f => f.untold?
  | .ok _ => none

/-- Rendering that template fails without the names of the binding. -/
theorem not_isNamed_longKey : ∃ compiled f, compile longKey = .ok compiled ∧
    let d : Go.Declaration := { name := "A", package := "p", kind := Go.Declaration.structKind }
    let b : Binding := ⟨d, "T", ⟨.relative, ["T.tmpl"]⟩, compiled, 1⟩
    (b.render .empty).1 = .error f ∧ ¬ Job.IsNamed ⟨b, b.work⟩ f := by
  let d : Go.Declaration := { name := "A", package := "p", kind := Go.Declaration.structKind }
  have hlong : ((compile longKey).toOption.bind fun compiled =>
      untoldFault? ⟨d, "T", ⟨.relative, ["T.tmpl"]⟩, compiled, 1⟩).isSome = true := by
    decide +kernel
  cases hcompiled : compile longKey with
  | error f => simp [hcompiled, Except.toOption] at hlong
  | ok compiled =>
    let b : Binding := ⟨d, "T", ⟨.relative, ["T.tmpl"]⟩, compiled, 1⟩
    replace hlong : (untoldFault? b).isSome = true := by
      rw [hcompiled] at hlong
      exact hlong
    unfold untoldFault? at hlong
    cases hperform : perform b.work b.store with
    | ok x => simp [hperform] at hlong
    | error f =>
      rw [hperform] at hlong
      have herror : (⟨b, b.work⟩ : Job).render .empty = (.error (b.failure f), .empty) :=
        Job.render_eq_error_iff.2 ⟨rfl, f, hperform, rfl⟩
      refine ⟨compiled, b.failure f, rfl, congrArg Prod.fst herror, fun hnamed => ?_⟩
      have htold : f.untold? = none := Job.isNamed_failure_iff.1 hnamed
      simp [htold] at hlong

end TypeWeave.Binding
