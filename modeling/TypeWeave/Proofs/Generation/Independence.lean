import TypeWeave.Proofs.Generation.Accepted
import TypeWeave.Proofs.Generation.Meaning

/-!
# Directories are independent

What generation for a directory writes, another generation does not read: the outputs are no
sources, and the temporary files are gone. So generation gives the same result in workspaces that
differ in outputs only, unless a template is looked for where an output is. Main statements:
`drafted_congr`, `result_congr` and `verdict_congr`.
-/

namespace TypeWeave.Generation

open File (Workspace Path Location IsPlain IsName)
open Template (Catalog)

/-- Paths that generation for a directory reads: those of source files, and those at which templates
of embedded names are looked for. -/
inductive Plan.Reads (p : Plan) (ws : Workspace) (dir : Path) : Path → Prop
  | source {n : String} (hn : IsName n) (hsource : Go.Package.isSource p.outputName n = true) :
    p.Reads ws dir (dir.child n)
  | template {scan : Go.Package.Scan} (hscan : Go.Package.scan ws dir p.outputName = .ok scan)
    {d : Go.Declaration} (hd : d ∈ scan.declarations) {name : String} (hname : name ∈ d.embedded) :
    p.Reads ws dir (Catalog.templatePath p.templateSuffix dir name)

/-- Nothing that generation for a directory reads is at some places. -/
def Plan.Avoids (p : Plan) (ws : Workspace) (dir : Path) (S : Set Location) : Prop :=
  ∀ q, p.Reads ws dir q → ws.Misses q S

/-- Places with the name of the output. -/
def Plan.IsOutput (p : Plan) (l : Location) : Prop := l.getLast? = some p.outputName

/-- Outputs have no names of source files. -/
theorem Plan.IsOutput.isSource_eq_false {p : Plan} {l : Location} (h : p.IsOutput l) {n : String}
    (hn : l.getLast? = some n) : Go.Package.isSource p.outputName n = false := by
  obtain rfl := Option.some.inj (hn.symm.trans h)
  simp [Go.Package.isSource]

/-- Where an output goes has the name of the output. -/
theorem Plan.Accepted.isOutput {p : Plan} (hp : p.Accepted) {ws : Workspace} {dir : Path}
    {l : Location} (h : ws.locate (p.outputFile dir) = .ok l) :
    ∃ k, ws.locate dir = .ok k ∧ ws.tree.get? k = some .directory ∧ l = k ++ [p.outputName] ∧
      p.IsOutput l := by
  obtain ⟨hplain, hdots⟩ := hp.isPlain_outputName
  obtain ⟨k, hk, hd, -, rfl⟩ := (Workspace.locate_child_eq_ok hplain hdots).1 h
  exact ⟨k, hk, hd, rfl, List.getLast?_concat⟩

section Congruence

variable {p : Plan} {S : Set Location} {v w : Workspace} {dir : Path}

/-- A template is the same where it is looked for at no place that differs. -/
private theorem afresh_congr (h : Workspace.SameBut S v w) {suffix name : String}
    (havoid : v.Misses (Catalog.templatePath suffix dir name) S) :
    Catalog.afresh v suffix dir name = Catalog.afresh w suffix dir name := by
  unfold Catalog.afresh
  dsimp only
  rw [← h.isFile havoid]
  cases hfile : v.isFile (Catalog.templatePath suffix dir name) with
  | error e => rfl
  | ok b =>
    cases b with
    | false => rfl
    | true => simp only [Catalog.loadAfresh, h.read havoid hfile]

/-- A path below the absolute path of a directory misses what it misses below any path of it. -/
private theorem misses_resolve_join (hv : v.Proper) {l : Location} (hl : v.locate dir = .ok l)
    (hd : v.tree.get? l = some .directory) {q : Path} (h : v.Misses (dir.join q) S) :
    v.Misses ((v.resolve dir).join q) S := by
  unfold Workspace.Misses
  rwa [hv.locate_resolve_join hl hd]

/-- What is to be written for a directory does not depend on places at which nothing that is read
is. -/
theorem drafted_congr (h : Workspace.SameBut S v w) (hv : v.Proper) (hw : w.Proper)
    (havoid : p.Avoids v dir S) : drafted p v dir = drafted p w dir := by
  unfold drafted
  rw [← Go.Package.scan_congr_of_sameBut h hv hw fun n hn hsource =>
    havoid _ (.source hn hsource)]
  simp only [bind, Except.bind]
  cases hscan : Go.Package.scan v dir p.outputName with
  | error f => rfl
  | ok scan =>
    obtain ⟨found, hscanned, hdecls, -⟩ := Go.Package.scan_eq_ok hv hscan
    have hfresh : Binding.ofDeclarationsAfresh v p.templateSuffix scan.declarations =
        Binding.ofDeclarationsAfresh w p.templateSuffix scan.declarations := by
      refine congrArg (· >>= _) (Except.mapM_congr fun d hd => ?_)
      refine congrArg (· >>= _) (Except.mapM_congr fun name hname => ?_)
      have hname : name ∈ d.embedded := List.mem_eraseDups.1 hname
      obtain ⟨x, hx, -, -, hdir, -⟩ := hscanned.of_mem_declarations (hdecls ▸ hd)
      obtain ⟨k, hk, hkdir⟩ := exists_locate_of_scanned hv hscanned (List.ne_nil_of_mem hx)
      have hresolve : w.resolve d.directory = v.resolve d.directory := by
        rw [hdir, Workspace.resolve_eq (((h.locate dir).ok_iff k).1 hk)
          ((h.directory_iff k).1 hkdir), Workspace.resolve_eq hk hkdir]
      have hkey : Catalog.key? w d.directory name = Catalog.key? v d.directory name := by
        rw [Catalog.key?, Catalog.key?, hresolve]
      unfold Catalog.seek
      rw [hkey]
      cases hv' : Catalog.key? v d.directory name with
      | none => rfl
      | some key =>
        obtain ⟨-, rfl⟩ := Catalog.key?_eq_some_iff.1 hv'
        dsimp only
        rw [hdir, afresh_congr h (misses_resolve_join hv hk hkdir (havoid _ ?_))]
        exact .template hscan hd hname
    simp only [draft_eq, hfresh]

/-- What is to be written is for a directory that there is. -/
private theorem exists_locate_of_drafted (hv : v.Proper) {d : Draft}
    (h : drafted p v dir = .ok (some d)) :
    ∃ k, v.locate dir = .ok k ∧ v.tree.get? k = some .directory := by
  obtain ⟨scan, hscan, hdraft⟩ := Except.bind_eq_ok.1 h
  obtain ⟨found, hscanned, hdecls, -⟩ := Go.Package.scan_eq_ok hv hscan
  refine exists_locate_of_scanned hv hscanned ?_
  rintro rfl
  exact declarations_ne_nil_of_draft hdraft hdecls

/-- Writing an output comes to the same when only outputs differ. -/
private theorem writing_congr (hp : p.Accepted) (h : Workspace.SameBut S v w) (hv : v.Proper)
    (hS : ∀ l ∈ S, p.IsOutput l) {k : Location} (hk : v.locate dir = .ok k)
    (hd : v.tree.get? k = some .directory) (text : String) :
    Output.writing p.writer v (p.outputFile dir) text =
      Output.writing p.writer w (p.outputFile dir) text := by
  have htags : ∀ tag ∈ p.writer.tags, k ++ [File.Atomic.temporaryName p.outputName tag] ∉ S := by
    intro tag _ hmem
    have hname : File.Atomic.temporaryName p.outputName tag = p.outputName := by
      simpa [Plan.IsOutput] using hS _ hmem
    exact File.Atomic.temporaryName_ne _ _ hname
  unfold Output.writing Plan.outputFile
  simp only [File.Atomic.decision_congr p.writer.hazards _ h hv hp.isPlain_outputName.1 hk hd
    (fun tag => hp.isPlain_temporaryName) htags]

/-- Removing an output fails when one cannot tell whether it is there. -/
private theorem removing_eq_error_iff (hv : v.Proper) {target : Path} {e : File.Error} :
    Output.removing v target = .error e ↔ v.isFile target = .error e := by
  cases hfile : v.isFile target with
  | error e' => rw [Output.removing_of_error hfile, Except.error.injEq, Except.error.injEq]
  | ok b =>
    cases b with
    | false => simp [Output.removing_of_not_isFile hfile]
    | true =>
      obtain ⟨l, bytes, hl, he⟩ := hv.isFile_eq_true_iff.1 hfile
      simp [Output.removing_of_isFile hfile hl he]

/-- Removing an output comes to the same where the output is no place that differs. -/
private theorem removing_congr (h : Workspace.SameBut S v w) (hv : v.Proper) {target : Path}
    (hout : v.Misses target S) : Output.removing v target = Output.removing w target := by
  have hsame := h.isFile hout
  cases hfile : v.isFile target with
  | error e => rw [Output.removing_of_error hfile, Output.removing_of_error (hsame ▸ hfile)]
  | ok b =>
    cases b with
    | false =>
      rw [Output.removing_of_not_isFile hfile, Output.removing_of_not_isFile (hsame ▸ hfile)]
    | true =>
      obtain ⟨l, bytes, hl, he⟩ := hv.isFile_eq_true_iff.1 hfile
      have hl' := ((h.locate target).ok_iff l).1 hl
      have he' := (h.look (hout l hl)).symm.trans he
      rw [Output.removing_of_isFile hfile hl he, Output.removing_of_isFile (hsame ▸ hfile) hl' he']

/-- The change that a draft comes to is the same where the output is no place that differs. -/
private theorem changeFor_congr (hp : p.Accepted) (h : Workspace.SameBut S v w) (hv : v.Proper)
    (hS : ∀ l ∈ S, p.IsOutput l) (hout : v.Misses (p.outputFile dir) S)
    {found : Option Draft} (hfound : drafted p v dir = .ok found) :
    changeFor p v (p.outputFile dir) found = changeFor p w (p.outputFile dir) found := by
  cases found with
  | none => simp only [changeFor, removing_congr h hv hout]
  | some d =>
    obtain ⟨k, hk, hd⟩ := exists_locate_of_drafted hv hfound
    exact writing_congr hp h hv hS hk hd d.source

/-- Generation comes to the same in workspaces that differ in outputs of others only. -/
theorem verdict_congr (hp : p.Accepted) (h : Workspace.SameBut S v w) (hv : v.Proper)
    (hw : w.Proper) (hS : ∀ l ∈ S, p.IsOutput l) (havoid : p.Avoids v dir S)
    (hout : v.Misses (p.outputFile dir) S) (dryRun : Bool) :
    verdict p dryRun v dir = verdict p dryRun w dir := by
  unfold verdict
  rw [← drafted_congr h hv hw havoid]
  cases hfound : drafted p v dir with
  | error f => rfl
  | ok found => simp only [Except.bind, changeFor_congr hp h hv hS hout hfound]

/-- Whether a change can be made does not depend on outputs. -/
private theorem changeFor_settles (hp : p.Accepted) (h : Workspace.SameBut S v w) (hv : v.Proper)
    (hw : w.Proper) (hS : ∀ l ∈ S, p.IsOutput l) {found : Option Draft}
    (hfound : drafted p v dir = .ok found) (r : Result) :
    (changeFor p v (p.outputFile dir) found).map (fun _ => r) =
      (changeFor p w (p.outputFile dir) found).map (fun _ => r) := by
  cases found with
  | some d =>
    obtain ⟨k, hk, hd⟩ := exists_locate_of_drafted hv hfound
    exact congrArg (Except.map _) (writing_congr hp h hv hS hk hd d.source)
  | none =>
    have herror (e : File.Error) : Output.removing v (p.outputFile dir) = .error e ↔
        Output.removing w (p.outputFile dir) = .error e := by
      rw [removing_eq_error_iff hv, removing_eq_error_iff hw]
      exact h.test_eq_error_iff
    simp only [changeFor]
    cases hr : Output.removing v (p.outputFile dir) with
    | error e => rw [(herror e).1 hr]
    | ok x =>
      cases hr' : Output.removing w (p.outputFile dir) with
      | error e =>
        rw [(herror e).2 hr'] at hr
        cases hr
      | ok y => rfl

/-- The result of generation does not depend on outputs. -/
theorem result_congr (hp : p.Accepted) (h : Workspace.SameBut S v w) (hv : v.Proper)
    (hw : w.Proper) (hS : ∀ l ∈ S, p.IsOutput l) (havoid : p.Avoids v dir S) (dryRun : Bool) :
    (directory p dryRun v dir).result = (directory p dryRun w dir).result := by
  rw [(directory_eq ..).1, (directory_eq ..).1]
  unfold verdict
  rw [← drafted_congr h hv hw havoid]
  cases hfound : drafted p v dir with
  | error f => rfl
  | ok found =>
    cases dryRun with
    | true => rfl
    | false =>
      have hsettles := changeFor_settles hp h hv hw hS hfound (resultFor p dir found)
      have hmap {c : Except Failure Change} {r : Result} :
          (c.map fun c => (r, c)).map Prod.fst = c.map fun _ => r := by cases c <;> rfl
      simpa only [Except.bind, Bool.false_eq_true, if_false, hmap] using hsettles

end Congruence

section Left

variable {p : Plan} {ws : Workspace} {dir : Path}

/-- A change of what a path leads to leaves a workspace that differs there only. -/
theorem Change.sameBut_apply {c : Change} {target : Path} (h : c.IsAt ws target) :
    Workspace.SameBut {l | ws.locate target = .ok l} ws (c.apply ws) := by
  cases c with
  | nothing => exact .refl _ ws
  | put l bytes =>
    obtain ⟨hl, hd⟩ := h l rfl
    exact (Workspace.sameBut_set hd bytes).mono (Set.singleton_subset_iff.2 hl)
  | remove l =>
    obtain ⟨hl, hd⟩ := h l rfl
    exact (Workspace.sameBut_erase hd).mono (Set.singleton_subset_iff.2 hl)

/-- Generation for a directory leaves a workspace that differs where the output goes only. -/
theorem sameBut_directory (p : Plan) (dryRun : Bool) (ws : Workspace) (dir : Path) :
    Workspace.SameBut {l | ws.locate (p.outputFile dir) = .ok l} ws
      (directory p dryRun ws dir).workspace := by
  rw [(directory_eq p dryRun ws dir).2]
  cases hv : verdict p dryRun ws dir with
  | error f => exact .refl _ ws
  | ok x => exact Change.sameBut_apply (isAt_of_verdict hv)

/-- An output that is written has a name that an entry of a directory can have. -/
private theorem isName_of_writing (hp : p.Accepted) (hw : ws.Proper) {text : String} {l : Location}
    {bytes : List UInt8}
    (h : Output.writing p.writer ws (p.outputFile dir) text = .ok (.put l bytes)) :
    (∀ n ∈ l, IsName n) ∧ ws.tree.get? l.dropLast = some .directory := by
  obtain ⟨_, heq, hl, -⟩ := Output.writing_eq_ok h
  cases heq
  obtain ⟨hplain, hdots⟩ := hp.isPlain_outputName
  obtain ⟨k, hk, hd, hshort, rfl⟩ := (Workspace.locate_child_eq_ok hplain hdots).1 hl
  refine ⟨fun n hn => ?_, by rwa [List.dropLast_concat]⟩
  rcases List.mem_append.1 hn with hn | hn
  · exact hw.tree.isName hd hn
  · obtain rfl := List.mem_singleton.1 hn
    refine ⟨hplain, hdots, fun hnul => ?_, hshort⟩
    have htext : '\x00' ∈ (p.outputFile dir).text.toList := by
      rw [Plan.outputFile, Path.child_of_isPlain hplain, Path.nul_mem_text_iff]
      exact ⟨_, List.mem_append_right _ List.mem_cons_self, hnul⟩
    simp [Output.writing, htext] at h

/-- Generation for a directory leaves a proper workspace. -/
theorem proper_directory (hp : p.Accepted) (hw : ws.Proper) (dryRun : Bool) (dir : Path) :
    (directory p dryRun ws dir).workspace.Proper := by
  have hsame := sameBut_directory p dryRun ws dir
  refine ⟨?_, ?_⟩
  · rw [(directory_eq p dryRun ws dir).2]
    cases hv : verdict p dryRun ws dir with
    | error f => exact hw.tree
    | ok x =>
      obtain ⟨r, c⟩ := x
      have hat := isAt_of_verdict hv
      cases c with
      | nothing => exact hw.tree
      | remove l => exact hw.tree.erase (hat l rfl).2
      | put l bytes =>
        obtain ⟨found, -, -, ⟨-, hc⟩ | ⟨-, hc⟩⟩ := verdict_eq_ok hv
        · cases hc
        · cases found with
          | none =>
            obtain ⟨s, hr⟩ := removing_of_changeFor hc
            rcases Output.removing_eq_ok hr with ⟨-, k, hk, -⟩ | ⟨-, hk⟩ <;> cases hk
          | some d =>
            obtain ⟨hnames, hup⟩ := isName_of_writing hp hw hc
            have hd := (hat l rfl).2
            exact hw.tree.set_file (by rintro rfl; exact hd rfl) hup hnames hd bytes
  · rw [← hsame.here]
    exact (hsame.directory_iff _).1 hw.here

end Left

end TypeWeave.Generation
