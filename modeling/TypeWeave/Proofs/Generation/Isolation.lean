import TypeWeave.Command.Shell
import TypeWeave.Generation.Run
import TypeWeave.Proofs.Generation.Independence

/-!
# Failures stay in their directory

In a run, generation for a directory goes on from what the directories before it have left, and
comes to the result that it has alone. So a run has a result for each directory, and keeps what
succeeds, exactly when no directory fails in a way that is not reported. Main statements:
`each_results`, `each_induction` and `run_isolates_iff`.
-/

namespace TypeWeave.Generation

open File (Workspace Path Location IsName)

/-- Nothing that generation for a directory reads is where the output of another one goes. -/
def Plan.Apart (p : Plan) (ws : Workspace) (dir other : Path) : Prop :=
  p.Avoids ws dir {l | ws.locate (p.outputFile other) = .ok l}

/-- No links lead from what generation for a directory reads, or from its output, to where the
output of another directory goes. -/
structure Plan.Unlinked (p : Plan) (ws : Workspace) (dir other : Path) : Prop where
  reads : ∀ q, p.Reads ws dir q → ws.LinksMiss q {l | ws.locate (p.outputFile other) = .ok l}
  output : ws.LinksMiss (p.outputFile dir) {l | ws.locate (p.outputFile other) = .ok l}

/-- Without links none lead to outputs. -/
theorem Plan.unlinked_of_entries {p : Plan} {ws : Workspace}
    (h : ∀ x ∈ ws.tree.entries, x.2.target? = none) (dir other : Path) :
    p.Unlinked ws dir other where
  reads q _ := Workspace.linksMiss_of_entries h q _
  output := Workspace.linksMiss_of_entries h _ _

/-- Directories that have the same place in them are the same. -/
private theorem resolve_eq_of_append {ws : Workspace} {dir other : Path} {k k' : Location}
    {m n : String} (hk : ws.locate dir = .ok k) (hk' : ws.locate other = .ok k')
    (hd : ws.tree.get? k' = some .directory) (heq : k ++ [m] = k' ++ [n]) :
    ws.resolve dir = ws.resolve other := by
  obtain ⟨rfl, -⟩ := List.append_inj' heq rfl
  exact (Workspace.resolve_eq hk hd).trans (Workspace.resolve_eq hk' hd).symm

/-- Directories of different places have outputs at different places. -/
theorem Plan.Accepted.locate_outputFile_ne {p : Plan} (hp : p.Accepted) {ws : Workspace}
    {dir other : Path} (hne : ws.resolve dir ≠ ws.resolve other) {l : Location}
    (hl : ws.locate (p.outputFile dir) = .ok l) : ws.locate (p.outputFile other) ≠ .ok l := by
  intro hl'
  obtain ⟨k, hk, -, rfl, -⟩ := hp.isOutput hl
  obtain ⟨k', hk', hd, heq, -⟩ := hp.isOutput hl'
  exact hne (resolve_eq_of_append hk hk' hd heq)

/-- The place of a source file is that of no output. -/
theorem Plan.Accepted.not_source {p : Plan} (hp : p.Accepted) {ws : Workspace} {dir other : Path}
    {n : String} (hn : IsName n) (hsource : Go.Package.isSource p.outputName n = true)
    {l : Location} (hl : ws.locate (dir.child n) = .ok l) :
    ws.locate (p.outputFile other) ≠ .ok l := by
  intro hout
  obtain ⟨-, -, -, -, hname⟩ := hp.isOutput hout
  obtain ⟨k, -, -, -, rfl⟩ := (Workspace.locate_child_eq_ok hn.toIsPlain hn.ne_dots).1 hl
  rw [hname.isSource_eq_false List.getLast?_concat] at hsource
  cases hsource

/-- Directories of different places are apart when templates lie in the directory of their
declarations, and no links lead from what is read for one to the output of the other. -/
theorem Plan.Accepted.apart {p : Plan} (hp : p.Accepted) (hslash : '/' ∉ p.templateSuffix.toList)
    {ws : Workspace} (hw : ws.Proper) {dir other : Path} (hne : ws.resolve dir ≠ ws.resolve other)
    (hlinks : ∀ q, p.Reads ws dir q →
      ws.LinksMiss q {l | ws.locate (p.outputFile other) = .ok l}) : p.Apart ws dir other := by
  intro q hq
  refine Workspace.misses_iff.2 ⟨fun l hl hout => ?_, hlinks q hq⟩
  cases hq with
  | source hn hsource => exact hp.not_source hn hsource hl hout
  | @template scan hscan d hd name hname =>
    obtain ⟨found, hscanned, hdecls, -⟩ := Go.Package.scan_eq_ok hw hscan
    obtain ⟨-, -, -, -, -, hnames⟩ := hscanned.of_mem_declarations (hdecls ▸ hd)
    obtain ⟨hplain, hdots⟩ := hp.isPlain_template hslash (hnames name hname)
    obtain ⟨k, hk, -, -, rfl⟩ := (Workspace.locate_child_eq_ok hplain hdots).1 hl
    obtain ⟨k', hk', hd', heq, -⟩ := hp.isOutput hout
    exact hne (resolve_eq_of_append hk hk' hd' heq)

/-- Where the outputs of some directories go. -/
def Plan.outputs (p : Plan) (ws : Workspace) (dirs : List Path) : Set Location :=
  {l | ∃ dir ∈ dirs, ws.locate (p.outputFile dir) = .ok l}

/-- The output of a directory goes where that of no other place goes. -/
theorem Plan.Accepted.not_mem_outputs {p : Plan} (hp : p.Accepted) {ws : Workspace} {dir : Path}
    {others : List Path} (hne : ∀ other ∈ others, ws.resolve dir ≠ ws.resolve other)
    {l : Location} (hl : ws.locate (p.outputFile dir) = .ok l) : l ∉ p.outputs ws others := by
  rintro ⟨other, hother, hout⟩
  exact hp.locate_outputFile_ne (hne other hother) hl hout

/-- A directory that is apart from others reads nothing where their outputs go. -/
theorem Plan.avoids_outputs {p : Plan} {ws : Workspace} {dir : Path} {others : List Path}
    (h : ∀ other ∈ others, p.Apart ws dir other) : p.Avoids ws dir (p.outputs ws others) := by
  rintro q hq l hl k hk ⟨other, hother, hout⟩
  exact h other hother q hq l hl k hk hout

/-- What a run makes of what generation for a directory came to. -/
def kept (dir : Path) : Except Failure Result → Except Failure Result
  | .ok r => .ok r
  | .error f =>
    if f.isReported then .ok { directory := dir, failure := some (recorded dir f) } else .error f

/-- In a run, generation for a directory is what it is alone, with failures recorded. -/
theorem isolated_eq (p : Plan) (dryRun : Bool) (ws : Workspace) (dir : Path) :
    (isolated p dryRun false ws dir).result = kept dir (directory p dryRun ws dir).result ∧
      (isolated p dryRun false ws dir).workspace = (directory p dryRun ws dir).workspace := by
  unfold isolated kept
  cases h : (directory p dryRun ws dir).result with
  | error f => cases hf : f.isReported <;> simp [h, hf]
  | ok r => simp [h]

/-- A run keeps a result unless a failure is not reported. -/
theorem kept_eq_ok_iff {dir : Path} {x : Except Failure Result} :
    (∃ r, kept dir x = .ok r) ↔ ∀ f, x = .error f → f.isReported = true := by
  cases x with
  | ok r => simp [kept]
  | error f => cases hf : f.isReported <;> simp [kept, hf]

/-- The result of generation for a directory tells the directory. -/
theorem directory_of_result {p : Plan} {dryRun : Bool} {ws : Workspace} {dir : Path} {r : Result}
    (h : (directory p dryRun ws dir).result = .ok r) :
    r.directory = dir ∧ r.succeeded = true := by
  rw [(directory_eq p dryRun ws dir).1, Except.map_eq_ok] at h
  obtain ⟨⟨r', c⟩, hv, rfl⟩ := h
  obtain ⟨found, -, rfl, -⟩ := verdict_eq_ok hv
  cases found <;> exact ⟨rfl, rfl⟩

/-- Whatever a run keeps tells the directory. -/
theorem directory_of_kept {p : Plan} {dryRun : Bool} {ws : Workspace} {dir : Path} {r : Result}
    (h : kept dir (directory p dryRun ws dir).result = .ok r) : r.directory = dir := by
  cases hr : (directory p dryRun ws dir).result with
  | ok r' =>
    rw [hr] at h
    cases h
    exact (directory_of_result hr).1
  | error f =>
    rw [hr, kept] at h
    split at h
    · cases h
      rfl
    · cases h

/-- A run is that of the first directory and then that of the others, unless a failure ends it. -/
theorem each_cons (p : Plan) (dryRun aborted sideBySide : Bool) (ws : Workspace) (dir : Path)
    (dirs : List Path) :
    let o := isolated p dryRun aborted ws dir
    let rest := each p dryRun aborted sideBySide o.workspace dirs
    (each p dryRun aborted sideBySide ws (dir :: dirs)).1 =
        o.result.bind (fun r => rest.1.map (r :: ·)) ∧
      ∀ r, o.result = .ok r →
        (each p dryRun aborted sideBySide ws (dir :: dirs)).2.1 = rest.2.1 := by
  dsimp only
  rw [each]
  cases (isolated p dryRun aborted ws dir).result with
  | error f => cases sideBySide <;> simp [Except.bind]
  | ok r => simp [Except.bind]

section Each

variable {p : Plan} {dryRun : Bool} {ws : Workspace} {I : List Path → Workspace → Prop}
  {dirs : List Path}

/-- What each directory of a run keeps, the whole run keeps, if no failure ends it. -/
theorem each_induction {done todo : List Path} {v : Workspace} {sideBySide : Bool}
    {rs : List Result} (hdirs : done ++ todo = dirs)
    (hstep : ∀ done dir rest v, done ++ dir :: rest = dirs → I done v →
      I (done ++ [dir]) (directory p dryRun v dir).workspace)
    (hv : I done v) (h : (each p dryRun false sideBySide v todo).1 = .ok rs) :
    I dirs (each p dryRun false sideBySide v todo).2.1 := by
  induction todo generalizing done v rs with
  | nil =>
    rw [List.append_nil] at hdirs
    exact hdirs ▸ hv
  | cons dir todo ih =>
    have hnext := hstep done dir todo v hdirs hv
    rw [← (isolated_eq p dryRun v dir).2] at hnext
    obtain ⟨hfst, hsnd⟩ := each_cons p dryRun false sideBySide v dir todo
    rw [hfst] at h
    obtain ⟨r, hr, h⟩ := Except.bind_eq_ok.1 h
    obtain ⟨rs, hrs, -⟩ := Except.map_eq_ok.1 h
    rw [hsnd r hr]
    exact ih (by simpa using hdirs) hnext hrs

/-- The results of a run are those that the directories have alone, if each keeps what it takes. -/
theorem each_results {done todo : List Path} {v : Workspace} {sideBySide : Bool}
    (hdirs : done ++ todo = dirs)
    (hstep : ∀ done dir rest v, done ++ dir :: rest = dirs → I done v →
      I (done ++ [dir]) (directory p dryRun v dir).workspace)
    (hresult : ∀ done dir rest v, done ++ dir :: rest = dirs → I done v →
      (directory p dryRun v dir).result = (directory p dryRun ws dir).result)
    (hv : I done v) :
    (each p dryRun false sideBySide v todo).1 =
      todo.mapM fun dir => kept dir (directory p dryRun ws dir).result := by
  induction todo generalizing done v with
  | nil => rfl
  | cons dir todo ih =>
    have hnext := hstep done dir todo v hdirs hv
    rw [← (isolated_eq p dryRun v dir).2] at hnext
    have ih := ih (by simpa using hdirs) hnext
    have hone := (isolated_eq p dryRun v dir).1
    rw [hresult done dir todo v hdirs hv] at hone
    rw [(each_cons p dryRun false sideBySide v dir todo).1, List.mapM_cons, ← hone, ← ih]
    rfl

end Each

/-- A workspace that generation for some directories has left. -/
structure Reached (p : Plan) (ws : Workspace) (done : List Path) (v : Workspace) : Prop where
  /-- It differs where their outputs go only. -/
  same : Workspace.SameBut (p.outputs ws done) ws v
  proper : v.Proper

namespace Reached

variable {p : Plan} {dryRun : Bool} {ws v : Workspace} {done : List Path} {dir : Path}

theorem nil (p : Plan) (hw : ws.Proper) : Reached p ws [] ws := ⟨.refl _ ws, hw⟩

/-- Outputs have the name of the output. -/
theorem isOutput (hp : p.Accepted) : ∀ l ∈ p.outputs ws done, p.IsOutput l := by
  rintro l ⟨dir, -, hl⟩
  obtain ⟨-, -, -, -, hl⟩ := hp.isOutput hl
  exact hl

/-- A path that leads to a place leads there still. -/
theorem locate_iff (h : Reached p ws done v) {q : Path} {l : Location} :
    v.locate q = .ok l ↔ ws.locate q = .ok l := ((h.same.locate q).ok_iff l).symm

/-- Generation for one more directory goes on. -/
theorem step (hp : p.Accepted) (h : Reached p ws done v) (dir : Path) :
    Reached p ws (done ++ [dir]) (directory p dryRun v dir).workspace where
  same := by
    refine (h.same.mono ?_).trans ((sameBut_directory p dryRun v dir).mono ?_)
    · rintro l ⟨d, hd, hl⟩
      exact ⟨d, List.mem_append_left _ hd, hl⟩
    · intro l hl
      exact ⟨dir, by simp, h.locate_iff.1 hl⟩
  proper := proper_directory hp h.proper dryRun dir

/-- A directory has the result that it has alone. -/
theorem result_eq (hp : p.Accepted) (hw : ws.Proper) (h : Reached p ws done v)
    (hapart : ∀ d ∈ done, p.Apart ws dir d) :
    (directory p dryRun v dir).result = (directory p dryRun ws dir).result :=
  (result_congr hp h.same hw h.proper (isOutput hp) (Plan.avoids_outputs hapart) dryRun).symm

end Reached

/-- What is written once generation for some directories is done. A directory with bindings has its
source where its output goes, unless one that is done later has its output there. -/
def Written (p : Plan) (ws : Workspace) (done : List Path) (v : Workspace) : Prop :=
  ∀ (i : Nat) dir r, done[i]? = some dir → (directory p false ws dir).result = .ok r →
    0 < r.bindings →
    ∃ l source, ws.locate (p.outputFile dir) = .ok l ∧ r.source = some source ∧
      ((∀ later ∈ done.drop (i + 1), (∃ r', (directory p false ws later).result = .ok r') →
          ws.locate (p.outputFile later) ≠ .ok l) →
        v.tree.get? l = some (.file source.toUTF8.data.toList))

/-- Generation for a directory writes its output, and no other one. -/
theorem Written.step {p : Plan} {ws v : Workspace} {done : List Path} {dir : Path}
    (hreached : Reached p ws done v) (h : Written p ws done v)
    (hresult : (directory p false v dir).result = (directory p false ws dir).result) :
    Written p ws (done ++ [dir]) (directory p false v dir).workspace := by
  intro i d r hi hr hpos
  rw [List.getElem?_append] at hi
  split at hi
  · rename_i hlt
    obtain ⟨l, source, hl, hsource, hkept⟩ := h i d r hi hr hpos
    refine ⟨l, source, hl, hsource, fun hlater => ?_⟩
    rw [List.drop_append_of_le_length (by omega), List.forall_mem_append] at hlater
    rw [← hkept hlater.1, (directory_eq p false v dir).2]
    have hown := hlater.2 dir List.mem_cons_self
    rw [← hresult, (directory_eq p false v dir).1] at hown
    cases hv : verdict p false v dir with
    | error f => rfl
    | ok x =>
      rw [hv] at hown
      refine Change.get?_apply_of_ne v fun hplace => hown ⟨x.1, rfl⟩ ?_
      exact hreached.locate_iff.1 (isAt_of_verdict hv l hplace).1
  · obtain rfl : d = dir := by simpa using List.mem_of_getElem? hi
    rw [← hresult, (directory_eq p false v d).1, Except.map_eq_ok] at hr
    obtain ⟨⟨r', c⟩, hv, rfl⟩ := hr
    obtain ⟨l, source, hl, hsource, hget⟩ := get?_of_verdict hv hpos
    refine ⟨l, source, hreached.locate_iff.1 hl, hsource, fun _ => ?_⟩
    rw [(directory_eq p false v d).2, hv]
    exact hget

/-- What isolation promises of a run: a result for each directory, in order; and for each directory
that generation succeeds for alone its own result, with the output written. -/
def Report.Isolates (p : Plan) (dryRun : Bool) (ws : Workspace) (dirs : List Path)
    (report : Report) : Prop :=
  ∃ rs : List Result, report.results = .ok rs ∧ rs.map Result.directory = dirs ∧
    (∀ (i : Nat) dir r, dirs[i]? = some dir → (directory p dryRun ws dir).result = .ok r →
      rs[i]? = some r ∧ r.succeeded = true) ∧
    (dryRun = false → Written p ws dirs report.workspace)

section Run

variable {p : Plan} {dryRun : Bool} {ws : Workspace} {dirs : List Path}

/-- A run has the results and the file tree of its directories, one after the other. -/
theorem run_eq (p : Plan) (workers : Int) (dryRun aborted : Bool) (ws : Workspace)
    (dirs : List Path) : ∃ sideBySide,
      (run p workers dryRun aborted ws dirs).results =
        (each p dryRun aborted sideBySide ws dirs).1 ∧
      (run p workers dryRun aborted ws dirs).workspace =
        (each p dryRun aborted sideBySide ws dirs).2.1 := by
  refine ⟨1 < workers && 1 < dirs.length, ?_⟩
  unfold run
  dsimp only
  generalize each p dryRun aborted (1 < workers && 1 < dirs.length) ws dirs = out
  obtain ⟨results, v, notices⟩ := out
  cases results <;> exact ⟨rfl, rfl⟩

/-- A directory is done after others that it is apart from. -/
private theorem apart_of_mem
    (hdirs : dirs.Pairwise fun earlier later => p.Apart ws later earlier) {done rest : List Path}
    {dir : Path} (h : done ++ dir :: rest = dirs) : ∀ d ∈ done, p.Apart ws dir d := by
  rw [← h, List.pairwise_append] at hdirs
  exact fun d hd => hdirs.2.2 d hd dir List.mem_cons_self

/-- The results of a run are those that the directories have alone. -/
theorem run_results (hp : p.Accepted) (hw : ws.Proper)
    (hdirs : dirs.Pairwise fun earlier later => p.Apart ws later earlier) (workers : Int)
    (dryRun : Bool) :
    (run p workers dryRun false ws dirs).results =
      dirs.mapM fun dir => kept dir (directory p dryRun ws dir).result := by
  obtain ⟨sideBySide, hresults, -⟩ := run_eq p workers dryRun false ws dirs
  rw [hresults]
  refine each_results (I := Reached p ws) rfl (fun done dir rest v _ h => h.step hp dir) ?_
    (Reached.nil p hw)
  exact fun done dir rest v heq h => h.result_eq hp hw (apart_of_mem hdirs heq)

/-- A run that no failure ends writes the outputs. -/
theorem run_written (hp : p.Accepted) (hw : ws.Proper)
    (hdirs : dirs.Pairwise fun earlier later => p.Apart ws later earlier) {workers : Int}
    {rs : List Result} (h : (run p workers false false ws dirs).results = .ok rs) :
    Written p ws dirs (run p workers false false ws dirs).workspace := by
  obtain ⟨sideBySide, hresults, hws⟩ := run_eq p workers false false ws dirs
  rw [hws]
  rw [hresults] at h
  refine (each_induction (I := fun done v => Reached p ws done v ∧ Written p ws done v) rfl ?_
    ⟨Reached.nil p hw, fun i dir r hi => by simp at hi⟩ h).2
  rintro done dir rest v heq ⟨hreached, hwritten⟩
  exact ⟨hreached.step hp dir,
    hwritten.step hreached (hreached.result_eq hp hw (apart_of_mem hdirs heq))⟩

/-- A failure that is not reported ends the run. -/
theorem run_results_of_head {dir : Path} {f : Failure}
    (h : (directory p dryRun ws dir).result = .error f) (hf : f.isReported = false) (workers : Int)
    (dirs : List Path) : (run p workers dryRun false ws (dir :: dirs)).results = .error f := by
  obtain ⟨sideBySide, hresults, -⟩ := run_eq p workers dryRun false ws (dir :: dirs)
  rw [hresults, (each_cons ..).1, (isolated_eq ..).1, h]
  simp [kept, hf, Except.bind]

/-- When no directory reads anything where the output of an earlier one goes, failures stay in their
directory exactly when all of them are reported. -/
theorem run_isolates_iff (hp : p.Accepted) (hw : ws.Proper)
    (hdirs : dirs.Pairwise fun earlier later => p.Apart ws later earlier) (workers : Int)
    (dryRun : Bool) :
    (run p workers dryRun false ws dirs).Isolates p dryRun ws dirs ↔
      ∀ dir ∈ dirs, ∀ f, (directory p dryRun ws dir).result = .error f → f.isReported = true := by
  have hresults := run_results hp hw hdirs workers dryRun
  constructor
  · rintro ⟨rs, hrs, -⟩ dir hdir
    rw [hresults] at hrs
    obtain ⟨i, hi⟩ := List.getElem?_of_mem hdir
    obtain ⟨r, -, hr⟩ := Except.getElem?_of_mapM hrs hi
    exact kept_eq_ok_iff.1 ⟨r, hr⟩
  · intro hreported
    obtain ⟨rs, hrs⟩ := Except.exists_mapM_eq_ok fun dir hdir =>
      kept_eq_ok_iff.2 (hreported dir hdir)
    have hall := Except.mapM_eq_ok hrs
    refine ⟨rs, hresults.trans hrs, ?_, fun i dir r hi hr => ?_, fun hdry => ?_⟩
    · rw [← List.forall₂_eq_eq_eq, List.forall₂_map_left_iff]
      exact hall.flip.imp fun r dir hr => directory_of_kept hr
    · obtain ⟨r', hr', hkept⟩ := Except.getElem?_of_mapM hrs hi
      rw [hr] at hkept
      cases hkept
      exact ⟨hr', (directory_of_result hr).2⟩
    · subst hdry
      exact run_written hp hw hdirs (hresults.trans hrs)

/-- The plan of settings that ask for the syntax check is accepted. -/
theorem accepted_samplePlan : samplePlan.Accepted := by
  let s : Settings := { formatter := "check" }
  have hs : s.Accepted := ⟨Settings.checkOutputName_eq_ok.2 (by decide +kernel),
    Settings.checkTemplateSuffix_eq_ok.2 (by decide +kernel), rfl, rfl, rfl, by decide +kernel⟩
  have hplan : Plan.ofSettings (fun _ _ => .error .notFound) s = .ok samplePlan := rfl
  exact Plan.accepted_of_settings hs hplan

/-- Of the sample and a directory that is not there, each has the result that it has alone. -/
theorem run_isolates_iff_sampleWorkspace :
    let dirs : List Path := [⟨.relative, ["p"]⟩, ⟨.relative, ["q"]⟩]
    samplePlan.Accepted ∧ sampleWorkspace.Proper ∧
      dirs.Pairwise (fun earlier later => samplePlan.Apart sampleWorkspace later earlier) ∧
      (run samplePlan 2 true false sampleWorkspace dirs).Isolates samplePlan true sampleWorkspace
        dirs := by
  intro dirs
  have hp : samplePlan.Accepted := accepted_samplePlan
  have hw : sampleWorkspace.Proper := by decide +kernel
  have hdirs : dirs.Pairwise fun earlier later => samplePlan.Apart sampleWorkspace later earlier :=
    List.pairwise_pair.2 (hp.apart (by decide) hw (by decide +kernel)
      (Plan.unlinked_of_entries (by decide +kernel) _ _).reads)
  have hnone : (directory samplePlan true sampleWorkspace ⟨.relative, ["q"]⟩).result =
      .ok { directory := ⟨.relative, ["q"]⟩ } := by decide +kernel
  refine ⟨hp, hw, hdirs, (run_isolates_iff hp hw hdirs 2 true).2 fun dir hdir f hf => ?_⟩
  rcases List.mem_pair.1 hdir with rfl | rfl
  · rw [result_sampleWorkspace] at hf
    cases hf
  · rw [hnone] at hf
    cases hf

/-- Two directories with a source file and a template each. -/
def twoPackages : Workspace where
  tree := ⟨[(["bad"], .directory),
    (["bad", "T.tmpl"], .file (Text.Utf8.encode "// ~\n".toList)),
    (["bad", "a.go"], .file (Text.Utf8.encode "package p\ntype A struct\x7bT\x7d\n".toList)),
    (["good"], .directory),
    (["good", "T.tmpl"], .file (Text.Utf8.encode "// good\n".toList)),
    (["good", "a.go"], .file (Text.Utf8.encode "package p\ntype A struct\x7bT\x7d\n".toList))]⟩
  here := []

theorem list_twoPackages {dir : String} (h : dir = "bad" ∨ dir = "good") :
    twoPackages.list ⟨.relative, [dir]⟩ = .ok ["T.tmpl", "a.go"] := by
  rcases h with rfl | rfl
  all_goals exact Workspace.list_of_pairwise (by decide +kernel) rfl rfl (by decide)

/-- A formatter command that answers a directory with bytes that are no text ends the run, and keeps
another directory from the file that it gets alone. -/
theorem not_isolates_twoPackages :
    let s : Settings := { formatter := "gofmt", command := ["tr", "~", "\\377"] }
    let dirs : List Path := [⟨.relative, ["bad"]⟩, ⟨.relative, ["good"]⟩]
    ∃ p r, s.Accepted ∧ Plan.ofSettings (Command.Shell.runner twoPackages) s = .ok p ∧
      twoPackages.Proper ∧ (directory p false twoPackages ⟨.relative, ["good"]⟩).result = .ok r ∧
      0 < r.bindings ∧
      ∀ workers,
        ¬(run p workers false false twoPackages dirs).Isolates p false twoPackages dirs := by
  intro s dirs
  let p : Plan := {
    outputName := s.outputName
    templateSuffix := s.templateSuffix
    format := (Formatter.command s.command).format (Command.Shell.runner twoPackages)
    writer := {} }
  let r : Result := {
    directory := ⟨.relative, ["good"]⟩
    outputFile := some ⟨.relative, ["good", "embedgen_gen.go"]⟩
    bindings := 1
    source := some "// Code generated by embedgen. DO NOT EDIT.\n\npackage p\n\n// good\n" }
  have hs : s.Accepted := ⟨Settings.checkOutputName_eq_ok.2 (by decide +kernel),
    Settings.checkTemplateSuffix_eq_ok.2 (by decide +kernel), rfl, rfl, rfl, by decide +kernel⟩
  have hp : Plan.ofSettings (Command.Shell.runner twoPackages) s = .ok p := rfl
  have hbad : (directory p false twoPackages ⟨.relative, ["bad"]⟩).result =
      .error (.undecodable ⟨59, 1, 0xff, .badStart⟩) := by
    unfold directory
    rw [Go.Package.scan_eq, Go.Package.sourceFiles, list_twoPackages (Or.inl rfl)]
    decide +kernel
  have hgood : (directory p false twoPackages ⟨.relative, ["good"]⟩).result = .ok r := by
    unfold directory
    rw [Go.Package.scan_eq, Go.Package.sourceFiles, list_twoPackages (Or.inr rfl)]
    decide +kernel
  refine ⟨p, r, hs, hp, by decide +kernel, hgood, by decide, ?_⟩
  rintro workers ⟨rs, hrs, -⟩
  rw [run_results_of_head hbad rfl] at hrs
  cases hrs

end Run

end TypeWeave.Generation
