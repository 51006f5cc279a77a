import TypeWeave.Generation.Directory
import TypeWeave.Proofs.Except
import TypeWeave.Proofs.File.Atomic
import TypeWeave.Proofs.Text.Utf8

/-!
# What generation does to the file tree

Generation for a directory reads the tree, comes to a verdict, and changes at most one place. The
verdict is a failure, or a result with the change that goes with it, so that a failure at any stage
leaves the tree alone. A dry run comes to the same verdict, less the change. Main statements:
`Output.write_all_or_nothing` says what writing a file leaves behind, `directory_eq` that generation
is its verdict, `directory_all_or_nothing` what a caller finds in the tree afterwards, and
`dryRun_predicts` what a dry run tells about it.
-/

namespace TypeWeave.Generation

/-- What is done to a file tree in the end. -/
inductive Change where
  | nothing
  | put (l : File.Location) (bytes : List UInt8)
  | remove (l : File.Location)
  deriving DecidableEq, Repr

namespace Change

/-- A workspace after a change. -/
def apply : Change → File.Workspace → File.Workspace
  | .nothing, ws => ws
  | .put l bytes, ws => { ws with tree := ws.tree.set l (.file bytes) }
  | .remove l, ws => { ws with tree := ws.tree.erase l }

/-- The place that changes, if one does. -/
def place? : Change → Option File.Location
  | .nothing => none
  | .put l _ => some l
  | .remove l => some l

/-- A change is one of what a path leads to, where no directory is. -/
def IsAt (c : Change) (ws : File.Workspace) (target : File.Path) : Prop :=
  ∀ l, c.place? = some l → ws.locate target = .ok l ∧ ws.tree.get? l ≠ some .directory

theorem here_apply (c : Change) (ws : File.Workspace) : (c.apply ws).here = ws.here := by
  cases c <;> rfl

/-- Places other than the one that changes hold what they held. -/
theorem get?_apply_of_ne {c : Change} (ws : File.Workspace) {l : File.Location}
    (h : c.place? ≠ some l) : (c.apply ws).tree.get? l = ws.tree.get? l := by
  cases c with
  | nothing => rfl
  | put k bytes => exact File.Tree.get?_set_of_ne (by rintro rfl; exact h rfl)
  | remove k => exact File.Tree.get?_erase_of_ne (by rintro rfl; exact h rfl)

/-- A place that held the same holds the same after a change. -/
theorem get?_apply_congr (c : Change) {v w : File.Workspace} {l : File.Location}
    (h : v.tree.get? l = w.tree.get? l) :
    (c.apply v).tree.get? l = (c.apply w).tree.get? l := by
  by_cases hl : c.place? = some l
  · by_cases hroot : l = []
    · subst hroot
      rfl
    · cases c with
      | nothing => exact h
      | put k bytes =>
        obtain rfl := Option.some.inj hl
        exact (File.Tree.get?_set_self hroot).trans (File.Tree.get?_set_self hroot).symm
      | remove k =>
        obtain rfl := Option.some.inj hl
        exact (File.Tree.get?_erase_self hroot).trans (File.Tree.get?_erase_self hroot).symm
  · rw [get?_apply_of_ne v hl, get?_apply_of_ne w hl, h]

end Change

namespace Output

/-- A file that an earlier run left: a regular file whose text, with its undecodable bytes replaced,
has the marker of generated code. -/
def IsStale (ws : File.Workspace) (target : File.Path) : Prop :=
  ws.isFile target = .ok true ∧
    ∃ bytes, ws.read target = .ok bytes ∧ Go.Marker.isGenerated (Text.Utf8.decodeLossy bytes) = true

/-- The change that writing a text comes to. -/
def writing (writer : Writer) (ws : File.Workspace) (target : File.Path) (text : String) :
    Except Failure Change :=
  if target.text.toList.contains '\x00' then .error .embeddedNul
  else
    let bytes := Text.Utf8.encode text.toList
    ((File.Atomic.decision writer.hazards writer.tags ws target bytes).map
      (Change.put · bytes)).mapError Failure.file

/-- Writing is the change that it comes to. -/
theorem write_eq (writer : Writer) (ws : File.Workspace) (target : File.Path) (text : String) :
    write writer ws target text = match writing writer ws target text with
      | .error f => (.error f, ws)
      | .ok c => (.ok (), c.apply ws) := by
  unfold write writing
  split
  · rfl
  · simp only [File.Atomic.replace_eq]
    cases File.Atomic.decision writer.hazards writer.tags ws target _ <;> rfl

/-- A text is written as its bytes, to where its target lands, exactly when the target can be named
and the replacement goes well. -/
theorem writing_eq_ok_iff {writer : Writer} {ws : File.Workspace} {target : File.Path}
    {text : String} {c : Change} :
    writing writer ws target text = .ok c ↔ '\x00' ∉ target.text.toList ∧
      writer.hazards = .none ∧
      (∃ place, File.Atomic.freePlace ws (ws.absolute target.parent) target.name writer.tags =
        .ok place) ∧
      ∃ l, ws.landing target = .ok l ∧ c = .put l text.toUTF8.data.toList := by
  unfold writing
  split
  case isTrue hnul => simp [List.contains_iff_mem.1 hnul]
  case isFalse hnul =>
    simp only [Text.Utf8.encode_toList, Except.mapError_eq_ok, Except.map_eq_ok,
      File.Atomic.decision_eq_ok_iff, List.contains_iff_mem] at hnul ⊢
    constructor
    · rintro ⟨l, ⟨hazards, free, hl⟩, rfl⟩
      exact ⟨hnul, hazards, free, l, hl, rfl⟩
    · rintro ⟨-, hazards, free, l, hl, rfl⟩
      exact ⟨l, ⟨hazards, free, hl⟩, rfl⟩

/-- A text is written as its bytes, to where the path leads. -/
theorem writing_eq_ok {writer : Writer} {ws : File.Workspace} {target : File.Path} {text : String}
    {c : Change} (h : writing writer ws target text = .ok c) :
    ∃ l, c = .put l text.toUTF8.data.toList ∧ ws.locate target = .ok l ∧
      ws.tree.get? l ≠ some .directory := by
  obtain ⟨-, -, -, l, hl, rfl⟩ := writing_eq_ok_iff.1 h
  exact ⟨l, rfl, File.Workspace.landing_eq_ok hl⟩

/-- Writing goes well exactly when it comes to a change. -/
theorem write_eq_ok_iff {writer : Writer} {ws : File.Workspace} {target : File.Path}
    {text : String} :
    (write writer ws target text).1 = .ok () ↔ ∃ c, writing writer ws target text = .ok c := by
  rw [write_eq]
  cases writing writer ws target text <;> simp

/-- A file that was put where a path leads is read by that path. -/
theorem read_apply_put {ws : File.Workspace} {target : File.Path} {l : File.Location}
    {bytes : List UInt8} (hl : ws.locate target = .ok l)
    (hd : ws.tree.get? l ≠ some .directory) :
    ((Change.put l bytes).apply ws).read target = .ok bytes := by
  have hroot : l ≠ [] := by rintro rfl; exact hd rfl
  have hput := ((File.Workspace.sameBut_set hd bytes).locate target).ok_iff l
  exact File.Workspace.read_of_locate (hput.1 hl)
    (File.Tree.look_of_get? (File.Tree.get?_set_self hroot) rfl)

/-- A file is replaced as a whole or not at all. Either writing returns, the target holds the bytes
of the text as they are and every other place holds what it held, or writing fails and the tree is
the one there was, whichever of its steps was refused and however much was written by then. It
returns exactly when the target can be named, nothing outside the tree refuses a step, a temporary
name is free beside the target, and the target is not a directory. -/
theorem write_all_or_nothing (writer : Writer) (ws : File.Workspace) (target : File.Path)
    (text : String) :
    let written := write writer ws target text
    let bytes := text.toUTF8.data.toList
    ((written.1 = .ok () ∧ written.2.read target = .ok bytes ∧ written.2.here = ws.here ∧
        ∃ l, ws.locate target = .ok l ∧ written.2.tree.get? l = some (.file bytes) ∧
          ∀ k, k ≠ l → written.2.tree.get? k = ws.tree.get? k) ∨
      ((∃ f, written.1 = .error f) ∧ written.2 = ws)) ∧
    (written.1 = .ok () ↔ '\x00' ∉ target.text.toList ∧ writer.hazards = .none ∧
      (∃ place, File.Atomic.freePlace ws (ws.absolute target.parent) target.name writer.tags =
        .ok place) ∧
      ∃ l, ws.landing target = .ok l) := by
  refine ⟨?_, ?_⟩
  · rw [write_eq]
    cases h : writing writer ws target text with
    | error f => exact Or.inr ⟨⟨f, rfl⟩, rfl⟩
    | ok c =>
      obtain ⟨l, rfl, hl, hd⟩ := writing_eq_ok h
      have hroot : l ≠ [] := by rintro rfl; exact hd rfl
      exact Or.inl ⟨rfl, read_apply_put hl hd, rfl, l, hl, File.Tree.get?_set_self hroot,
        fun k hk => File.Tree.get?_set_of_ne hk⟩
  · simp only [write_eq_ok_iff, writing_eq_ok_iff]
    constructor
    · rintro ⟨-, hnul, hazards, free, l, hl, -⟩
      exact ⟨hnul, hazards, free, l, hl⟩
    · rintro ⟨hnul, hazards, free, l, hl⟩
      exact ⟨_, hnul, hazards, free, l, hl, rfl⟩

/-- What becomes of an output file that nothing asks for, and the change that it comes to. -/
def removing (ws : File.Workspace) (target : File.Path) : Except File.Error (Stale × Change) := do
  if !(← ws.isFile target) then return (.absent, .nothing)
  let bytes ← ws.read target
  if !Go.Marker.isGenerated (Text.Utf8.decodeLossy bytes) then return (.kept, .nothing)
  match ws.locate target with
  | .error r => throw { refusal := r, path := target.text }
  | .ok l =>
    match ws.tree.get? l with
    | none => throw { refusal := .notFound, path := target.text }
    | some .directory => throw { refusal := .isDirectory, path := target.text }
    | some _ => return (.removed, .remove l)

/-- Removing a file is the change that it comes to. -/
theorem removeStale_eq (ws : File.Workspace) (target : File.Path) :
    removeStale ws target = (removing ws target).map fun (s, c) => (s, c.apply ws) := by
  unfold removeStale removing
  simp only [bind, Except.bind, pure, Except.pure, throw, throwThe, MonadExceptOf.throw]
  cases ws.isFile target with
  | error e => rfl
  | ok b =>
    cases b with
    | false => rfl
    | true =>
      cases ws.read target with
      | error e => rfl
      | ok bytes =>
        by_cases hm : Go.Marker.isGenerated (Text.Utf8.decodeLossy bytes) = true
        · simp only [hm, Bool.not_true, Bool.false_eq_true, if_false]
          unfold File.Workspace.unlink
          cases ws.locate target with
          | error r => rfl
          | ok l =>
            cases he : ws.tree.get? l with
            | none => simp [he, Except.map]
            | some e => cases e <;> simp [he, Except.map, Change.apply]
        · simp [hm, Except.map, Change.apply]

/-- An output file from an earlier run is removed where its path leads, and nothing else is. -/
theorem removing_eq_ok {ws : File.Workspace} {target : File.Path} {s : Stale} {c : Change}
    (h : removing ws target = .ok (s, c)) :
    IsStale ws target ∧ (∃ l, c = .remove l ∧ ws.locate target = .ok l ∧
        ws.tree.get? l ≠ some .directory) ∨
      ¬IsStale ws target ∧ c = .nothing := by
  unfold removing at h
  simp only [bind, Except.bind, pure, Except.pure, throw, throwThe, MonadExceptOf.throw] at h
  split at h
  · simp at h
  rename_i b hb
  cases b with
  | false =>
    obtain ⟨rfl, rfl⟩ : Stale.absent = s ∧ Change.nothing = c := by simpa using h
    exact Or.inr ⟨fun hs => by simp [IsStale, hb] at hs, rfl⟩
  | true =>
    simp only [Bool.not_true, Bool.false_eq_true, if_false] at h
    split at h
    · simp at h
    rename_i bytes hr
    by_cases hm : Go.Marker.isGenerated (Text.Utf8.decodeLossy bytes) = true
    · refine Or.inl ⟨⟨hb, bytes, hr, hm⟩, ?_⟩
      simp only [hm, Bool.not_true, Bool.false_eq_true, if_false] at h
      cases hl : ws.locate target with
      | error r => simp [hl] at h
      | ok l =>
        simp only [hl] at h
        split at h
        · simp at h
        · simp at h
        · rename_i e hd he
          obtain ⟨-, rfl⟩ : Stale.removed = s ∧ Change.remove l = c := by simpa using h
          exact ⟨l, rfl, rfl, by rw [he]; rintro ⟨⟩; exact hd rfl⟩
    · simp only [hm, Bool.not_false, if_true] at h
      obtain ⟨rfl, rfl⟩ : Stale.kept = s ∧ Change.nothing = c := by simpa using h
      refine Or.inr ⟨?_, rfl⟩
      rintro ⟨-, bytes', hr', hm'⟩
      obtain rfl : bytes = bytes' := by simpa [hr] using hr'
      exact hm hm'

/-- Removing fails when one cannot tell whether there is a file. -/
theorem removing_of_error {ws : File.Workspace} {target : File.Path} {e : File.Error}
    (h : ws.isFile target = .error e) : removing ws target = .error e := by
  rw [removing, h]
  rfl

/-- Where no file is, nothing is removed. -/
theorem removing_of_not_isFile {ws : File.Workspace} {target : File.Path}
    (h : ws.isFile target = .ok false) : removing ws target = .ok (.absent, .nothing) := by
  rw [removing, h]
  rfl

/-- A regular file is removed if it is generated. -/
theorem removing_of_isFile {ws : File.Workspace} {target : File.Path} {l : File.Location}
    {bytes : List UInt8} (h : ws.isFile target = .ok true) (hl : ws.locate target = .ok l)
    (hfile : ws.tree.look l = .ok (.file bytes)) :
    removing ws target = .ok (if Go.Marker.isGenerated (Text.Utf8.decodeLossy bytes) then
      (.removed, .remove l) else (.kept, .nothing)) := by
  obtain ⟨e, he⟩ := Option.isSome_iff_exists.1 (File.Tree.isSome_get?_of_look hfile)
  have hd : e ≠ .directory := by
    rintro rfl
    cases (File.Tree.look_of_get? he rfl).symm.trans hfile
  unfold removing
  simp only [h, File.Workspace.read_of_locate hl hfile, hl, he, bind, Except.bind, pure,
    Except.pure, Bool.not_true, Bool.false_eq_true, if_false]
  cases Go.Marker.isGenerated (Text.Utf8.decodeLossy bytes) <;> rfl

end Output

/-- What generation writes for a directory, or why it cannot tell; nothing without bindings. -/
def drafted (p : Plan) (ws : File.Workspace) (dir : File.Path) : Except Failure (Option Draft) := do
  let scan ← Go.Package.scan ws dir p.outputName
  draft p ws scan

/-- The change that a draft, or the want of one, comes to. -/
def changeFor (p : Plan) (ws : File.Workspace) (target : File.Path) :
    Option Draft → Except Failure Change
  | none => ((Output.removing ws target).map Prod.snd).mapError Failure.file
  | some d => Output.writing p.writer ws target d.source

/-- The result that a draft, or the want of one, stands for. -/
def resultFor (p : Plan) (dir : File.Path) : Option Draft → Result
  | none => { directory := dir }
  | some d => d.result p dir

/-- What generation for a directory comes to: a failure, or a result and the change that goes with
it. -/
def verdict (p : Plan) (dryRun : Bool) (ws : File.Workspace) (dir : File.Path) :
    Except Failure (Result × Change) :=
  (drafted p ws dir).bind fun found =>
    let change := if dryRun then .ok .nothing else changeFor p ws (p.outputFile dir) found
    change.map fun c => (resultFor p dir found, c)

/-- The workspace that a verdict leaves. -/
def settled (ws : File.Workspace) : Except Failure (Result × Change) → File.Workspace
  | .error _ => ws
  | .ok (_, c) => c.apply ws

/-- A place that held the same holds the same when a verdict is carried out. -/
theorem settled_get?_congr {x : Except Failure (Result × Change)} {v w : File.Workspace}
    {l : File.Location} (h : v.tree.get? l = w.tree.get? l) :
    (settled v x).tree.get? l = (settled w x).tree.get? l := by
  cases x with
  | error f => exact h
  | ok x => exact x.2.get?_apply_congr h

/-- Generation is its verdict: the result of the verdict, in the workspace that this leaves. -/
theorem directory_eq (p : Plan) (dryRun : Bool) (ws : File.Workspace) (dir : File.Path) :
    (directory p dryRun ws dir).result = (verdict p dryRun ws dir).map Prod.fst ∧
      (directory p dryRun ws dir).workspace = settled ws (verdict p dryRun ws dir) := by
  unfold directory verdict drafted
  simp only [bind, Except.bind]
  cases Go.Package.scan ws dir p.outputName with
  | error f => exact ⟨rfl, rfl⟩
  | ok scan =>
    dsimp only
    cases draft p ws scan with
    | error f => exact ⟨rfl, rfl⟩
    | ok found =>
      cases dryRun with
      | true => cases found <;> exact ⟨rfl, rfl⟩
      | false =>
        cases found with
        | none =>
          simp only [Bool.false_eq_true, if_false, changeFor, Output.removeStale_eq]
          cases Output.removing ws (p.outputFile dir) with
          | error e => exact ⟨rfl, rfl⟩
          | ok x =>
            obtain ⟨s, c⟩ := x
            cases s <;> exact ⟨rfl, rfl⟩
        | some d =>
          simp only [Bool.false_eq_true, if_false, changeFor, Output.write_eq]
          cases Output.writing p.writer ws (p.outputFile dir) d.source <;> exact ⟨rfl, rfl⟩

/-- A draft has bindings. -/
theorem bindings_pos_of_draft {p : Plan} {ws : File.Workspace} {scan : Go.Package.Scan} {d : Draft}
    (h : draft p ws scan = .ok (some d)) : 0 < d.bindings := by
  obtain ⟨bindings, -, h⟩ := Except.bind_eq_ok.1 h
  split at h
  · cases h
  rename_i hne
  obtain ⟨⟨fragments, imports⟩, -, h⟩ := Except.bind_eq_ok.1 h
  obtain ⟨text, -, h⟩ := Except.bind_eq_ok.1 h
  cases h
  exact List.length_pos_iff.2 (by simpa using hne)

/-- A result says by its bindings whether there was a draft. -/
theorem bindings_resultFor {p : Plan} {ws : File.Workspace} {dir : File.Path}
    {found : Option Draft} (h : drafted p ws dir = .ok found) :
    (resultFor p dir found).bindings = 0 ↔ found = none := by
  cases found with
  | none => simp [resultFor]
  | some d =>
    obtain ⟨scan, -, hdraft⟩ := Except.bind_eq_ok.1 h
    simpa [resultFor, Draft.result] using (bindings_pos_of_draft hdraft).ne'

/-- Without a draft, the change is that of removing an output file. -/
theorem removing_of_changeFor {p : Plan} {ws : File.Workspace} {target : File.Path} {c : Change}
    (h : changeFor p ws target none = .ok c) : ∃ s, Output.removing ws target = .ok (s, c) := by
  obtain ⟨x, hr, rfl⟩ := Except.map_eq_ok.1 (Except.mapError_eq_ok.1 h)
  exact ⟨x.1, hr⟩

/-- Whatever a draft comes to changes only what the path of the output leads to. -/
theorem isAt_of_changeFor {p : Plan} {ws : File.Workspace} {target : File.Path}
    {found : Option Draft} {c : Change} (h : changeFor p ws target found = .ok c) :
    c.IsAt ws target := by
  intro l hl
  cases found with
  | none =>
    obtain ⟨s, hr⟩ := removing_of_changeFor h
    rcases Output.removing_eq_ok hr with ⟨-, k, rfl, hk⟩ | ⟨-, rfl⟩
    · obtain rfl : k = l := by simpa [Change.place?] using hl
      exact hk
    · simp [Change.place?] at hl
  | some d =>
    obtain ⟨k, rfl, hk⟩ := Output.writing_eq_ok h
    obtain rfl : k = l := by simpa [Change.place?] using hl
    exact hk

/-- A verdict that is no failure has a draft or the want of one, and the change it comes to. -/
theorem verdict_eq_ok {p : Plan} {dryRun : Bool} {ws : File.Workspace} {dir : File.Path}
    {r : Result} {c : Change} (h : verdict p dryRun ws dir = .ok (r, c)) :
    ∃ found, drafted p ws dir = .ok found ∧ r = resultFor p dir found ∧
      (dryRun = true ∧ c = .nothing ∨
        dryRun = false ∧ changeFor p ws (p.outputFile dir) found = .ok c) := by
  obtain ⟨found, hfound, h⟩ := Except.bind_eq_ok.1 h
  obtain ⟨c', hc, heq⟩ := Except.map_eq_ok.1 h
  obtain ⟨rfl, rfl⟩ := Prod.mk.inj heq
  refine ⟨found, hfound, rfl, ?_⟩
  cases dryRun with
  | true => exact Or.inl ⟨rfl, (Except.ok.inj hc).symm⟩
  | false => exact Or.inr ⟨rfl, hc⟩

/-- The change of a verdict is one of what the path of the output leads to. -/
theorem isAt_of_verdict {p : Plan} {dryRun : Bool} {ws : File.Workspace} {dir : File.Path}
    {r : Result} {c : Change} (h : verdict p dryRun ws dir = .ok (r, c)) :
    c.IsAt ws (p.outputFile dir) := by
  obtain ⟨found, -, -, ⟨-, rfl⟩ | ⟨-, hc⟩⟩ := verdict_eq_ok h
  · simp [Change.IsAt, Change.place?]
  · exact isAt_of_changeFor hc

/-- With bindings, what the path of the output leads to holds the source of the result. -/
theorem get?_of_verdict {p : Plan} {ws : File.Workspace} {dir : File.Path} {r : Result}
    {c : Change} (h : verdict p false ws dir = .ok (r, c)) (hpos : 0 < r.bindings) :
    ∃ l source, ws.locate (p.outputFile dir) = .ok l ∧ r.source = some source ∧
      (c.apply ws).tree.get? l = some (.file source.toUTF8.data.toList) := by
  obtain ⟨found, hfound, rfl, hc⟩ := verdict_eq_ok h
  obtain ⟨-, hc⟩ := hc.resolve_left fun h => by simp at h
  obtain ⟨d, rfl⟩ := Option.ne_none_iff_exists'.1 (mt (bindings_resultFor hfound).2 hpos.ne')
  obtain ⟨l, rfl, hl, hdir⟩ := Output.writing_eq_ok hc
  have hne : l ≠ [] := by rintro rfl; exact hdir rfl
  exact ⟨l, d.source, hl, rfl, File.Tree.get?_set_self hne⟩

/-- Generation that fails, and a dry run, leave the file tree as it was. Generation that succeeds
changes at most the place that the path of the output leads to: with bindings it then holds the
UTF-8 bytes of the source of the result, and without any it is left alone, or removed if it was a
generated file. -/
theorem directory_all_or_nothing (p : Plan) (dryRun : Bool) (ws : File.Workspace)
    (dir : File.Path) :
    let o := directory p dryRun ws dir
    let target := p.outputFile dir
    (∀ f, o.result = .error f → o.workspace = ws) ∧
      (dryRun = true → o.workspace = ws) ∧
      ∀ r, o.result = .ok r → dryRun = false →
        o.workspace.here = ws.here ∧
        (∀ l, ws.locate target ≠ .ok l → o.workspace.tree.get? l = ws.tree.get? l) ∧
        (0 < r.bindings → ∃ l source, ws.locate target = .ok l ∧ r.source = some source ∧
          o.workspace.tree.get? l = some (.file source.toUTF8.data.toList)) ∧
        (r.bindings = 0 →
          (Output.IsStale ws target →
            ∃ l, ws.locate target = .ok l ∧ o.workspace.tree.get? l = none) ∧
          (¬Output.IsStale ws target → o.workspace = ws)) := by
  intro o target
  obtain ⟨hres, hws⟩ := directory_eq p dryRun ws dir
  change o.result = _ at hres
  change o.workspace = _ at hws
  cases hv : verdict p dryRun ws dir with
  | error f =>
    have hsame : o.workspace = ws := by rw [hws, hv]; rfl
    refine ⟨fun _ _ => hsame, fun _ => hsame, fun r hr => ?_⟩
    rw [hres, hv] at hr
    cases hr
  | ok x =>
    obtain ⟨r, c⟩ := x
    have hleft : o.workspace = c.apply ws := by rw [hws, hv]; rfl
    have hresult : o.result = .ok r := by rw [hres, hv]; rfl
    obtain ⟨found, hfound, rfl, hc⟩ := verdict_eq_ok hv
    refine ⟨fun f hf => ?_, fun hdry => ?_, fun r hr hdry => ?_⟩
    · rw [hresult] at hf
      cases hf
    · obtain ⟨-, rfl⟩ := hc.resolve_right fun h => by simp [hdry] at h
      exact hleft
    obtain rfl : resultFor p dir found = r := Except.ok.inj (hresult.symm.trans hr)
    obtain ⟨-, hc⟩ := hc.resolve_left fun h => by simp [hdry] at h
    have hat : c.IsAt ws target := isAt_of_changeFor hc
    rw [hleft]
    refine ⟨c.here_apply ws, fun l hl => ?_, fun hpos => ?_, fun hzero => ?_⟩
    · exact Change.get?_apply_of_ne ws fun hplace => hl (hat l hplace).1
    · exact get?_of_verdict (hdry ▸ hv) hpos
    · obtain rfl := (bindings_resultFor hfound).1 hzero
      obtain ⟨s, hr⟩ := removing_of_changeFor hc
      rcases Output.removing_eq_ok hr with ⟨hstale, l, rfl, hl, hdir⟩ | ⟨hstale, rfl⟩
      · have hne : l ≠ [] := by rintro rfl; exact hdir rfl
        exact ⟨fun _ => ⟨l, hl, File.Tree.get?_erase_self hne⟩, fun h => absurd hstale h⟩
      · exact ⟨fun h => absurd h hstale, fun _ => rfl⟩

/-- A dry run leaves the file tree as it was. -/
theorem workspace_dryRun (p : Plan) (ws : File.Workspace) (dir : File.Path) :
    (directory p true ws dir).workspace = ws := by
  rw [(directory_eq p true ws dir).2]
  cases hv : verdict p true ws dir with
  | error f => rfl
  | ok x =>
    obtain ⟨r, c⟩ := x
    obtain ⟨-, -, -, ⟨-, rfl⟩ | ⟨hreal, -⟩⟩ := verdict_eq_ok hv
    · rfl
    · cases hreal

/-- What generation does about the output file in the end: it writes the source of a result, or
removes the file of an earlier run when there is none. -/
def Plan.conclude (p : Plan) (ws : File.Workspace) (dir : File.Path) (r : Result) :
    Except Failure Unit :=
  match r.source with
  | some source => (Output.write p.writer ws (p.outputFile dir) source).1
  | none => ((Output.removeStale ws (p.outputFile dir)).mapError Failure.file).map fun _ => ()

/-- The last operation succeeds or fails as the change that a draft, or the want of one, comes to. -/
theorem conclude_resultFor (p : Plan) (ws : File.Workspace) (dir : File.Path)
    (found : Option Draft) :
    p.conclude ws dir (resultFor p dir found) =
      (changeFor p ws (p.outputFile dir) found).map fun _ => () := by
  cases found with
  | none =>
    simp only [Plan.conclude, resultFor, changeFor, Output.removeStale_eq]
    cases Output.removing ws (p.outputFile dir) <;> rfl
  | some d =>
    simp only [Plan.conclude, resultFor, Draft.result, changeFor, Output.write_eq]
    cases Output.writing p.writer ws (p.outputFile dir) d.source <;> rfl

/-- A dry run leaves the file tree alone and tells what the real run comes to: a failure is the same
failure, and a result is the same result unless the real run fails at writing or removing the output
file. A real run with bindings leaves the source that the dry run told where its output goes. -/
theorem dryRun_predicts (p : Plan) (ws : File.Workspace) (dir : File.Path) :
    let dry := directory p true ws dir
    let real := directory p false ws dir
    dry.workspace = ws ∧
      (∀ f, dry.result = .error f → real.result = .error f) ∧
      (∀ r, dry.result = .ok r →
        (p.conclude ws dir r = .ok () → real.result = .ok r) ∧
          ∀ f, p.conclude ws dir r = .error f → real.result = .error f) ∧
      ∀ r, real.result = .ok r → dry.result = .ok r ∧
        (0 < r.bindings → ∃ l source, ws.locate (p.outputFile dir) = .ok l ∧
          r.source = some source ∧
            real.workspace.tree.get? l = some (.file source.toUTF8.data.toList)) := by
  intro dry real
  have hdry : dry.result = (verdict p true ws dir).map Prod.fst := (directory_eq p true ws dir).1
  obtain ⟨hreal, htree⟩ := directory_eq p false ws dir
  change real.result = _ at hreal
  change real.workspace = _ at htree
  refine ⟨workspace_dryRun p ws dir, ?_⟩
  cases hfound : drafted p ws dir with
  | error f =>
    have hv (dryRun : Bool) : verdict p dryRun ws dir = .error f := by
      rw [verdict, hfound]
      rfl
    rw [hv] at hdry hreal
    refine ⟨fun _ h => hreal.trans (hdry.symm.trans h), fun r h => ?_, fun r h => ?_⟩
    · cases hdry.symm.trans h
    · cases hreal.symm.trans h
  | ok found =>
    have hdry : dry.result = .ok (resultFor p dir found) := by
      rw [hdry, verdict, hfound]
      rfl
    have hv : verdict p false ws dir =
        (changeFor p ws (p.outputFile dir) found).map fun c => (resultFor p dir found, c) := by
      rw [verdict, hfound]
      rfl
    have hconclude := conclude_resultFor p ws dir found
    refine ⟨fun f h => (nomatch hdry.symm.trans h), fun r h => ?_, fun r h => ?_⟩
    · obtain rfl := Except.ok.inj (hdry.symm.trans h)
      rw [hreal, hv, hconclude]
      cases changeFor p ws (p.outputFile dir) found with
      | error f => exact ⟨nofun, fun f' h => congrArg _ (Except.error.inj h)⟩
      | ok c => exact ⟨fun _ => rfl, nofun⟩
    · obtain ⟨⟨r', c⟩, hok, rfl⟩ := Except.map_eq_ok.1 (hreal.symm.trans h)
      obtain ⟨c', -, heq⟩ := Except.map_eq_ok.1 (hv.symm.trans hok)
      obtain rfl : resultFor p dir found = r' := congrArg Prod.fst heq
      refine ⟨hdry, fun hpos => ?_⟩
      rw [htree, hok]
      exact get?_of_verdict hok hpos

end TypeWeave.Generation
