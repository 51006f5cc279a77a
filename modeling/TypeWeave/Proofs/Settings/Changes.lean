import TypeWeave.Proofs.Settings.Sources

/-!
# Settings from their load on

What is loaded keeps to the rules of all fields, although the defaults are not checked, and so do
settings after any row of assignments to fields, whether these are taken or refused. A refused
assignment changes nothing, and one that is taken changes its own field only. Main statement:
`load_sound_throughout`.
-/

namespace TypeWeave.Settings

theorem checkFormatter_eq_ok {s t : String} :
    checkFormatter s = .ok t ↔ s ∈ ["gofmt", "check"] ∧ s = t := by
  unfold checkFormatter
  split
  · rename_i h
    rw [List.contains_iff_mem, formatters] at h
    rw [Except.ok.injEq, and_iff_right h]
  · rename_i h
    rw [List.contains_iff_mem, formatters] at h
    exact iff_of_false nofun fun h' => h h'.1

theorem checkCommand_eq_ok {ws vs : List String} :
    checkCommand ws = .ok vs ↔ ws ≠ [] ∧ ws = vs := by
  unfold checkCommand
  cases ws <;> simp

theorem checkWorkers_eq_ok {n m : Int} : checkWorkers n = .ok m ↔ 1 ≤ n ∧ n = m := by
  unfold checkWorkers
  split
  · rename_i h
    exact iff_of_false nofun fun h' => absurd h'.1 (Int.not_le.2 h)
  · rename_i h
    rw [Except.ok.injEq, and_iff_right (Int.not_lt.1 h)]

/-- A verbosity is put into lower case before it is looked for. -/
theorem checkLogLevel_eq_ok {s t : String} : checkLogLevel s = .ok t ↔
    t ∈ ["quiet", "normal", "verbose", "debug"] ∧ String.ofList (Text.lower s.toList) = t := by
  have hlevels {u : String} : logLevels.contains u = true ↔
      u ∈ ["quiet", "normal", "verbose", "debug"] := by
    rw [List.contains_iff_mem, logLevels]
  simp only [checkLogLevel, hlevels]
  split
  · rename_i h
    rw [Except.ok.injEq, iff_and_self]
    exact fun heq => heq ▸ h
  · rename_i h
    exact iff_of_false nofun fun ⟨ht, heq⟩ => h (heq ▸ ht)

/-- A verbosity that was let through is let through as it is. -/
theorem checkLogLevel_self {s t : String} (h : checkLogLevel s = .ok t) :
    checkLogLevel t = .ok t := by
  obtain ⟨hmem, -⟩ := checkLogLevel_eq_ok.1 h
  refine checkLogLevel_eq_ok.2 ⟨hmem, ?_⟩
  have hall : ∀ u ∈ ["quiet", "normal", "verbose", "debug"],
      String.ofList (Text.lower u.toList) = u := by decide +kernel
  exact hall t hmem

/-- Settings that keep to the rules of all fields. -/
structure Sound (s : Settings) : Prop where
  outputSuffix : ".go".toList <:+ s.outputName.toList
  outputBare : '/' ∉ s.outputName.toList ∧ '\\' ∉ s.outputName.toList
  outputNoTest : ¬"_test.go".toList <:+ s.outputName.toList
  templateDot : ".".toList <+: s.templateSuffix.toList
  templateLength : 2 ≤ s.templateSuffix.toList.length
  formatter : s.formatter ∈ ["gofmt", "check"]
  command : s.command ≠ []
  workers : 1 ≤ s.workers
  logLevel : s.logLevel ∈ ["quiet", "normal", "verbose", "debug"]

/-- What the checks let through keeps to the rules. -/
theorem Accepted.sound {s : Settings} (h : s.Accepted) : s.Sound := by
  obtain ⟨⟨hgo, hslash, hback, htest⟩, -⟩ := checkOutputName_eq_ok.1 h.outputName
  obtain ⟨⟨hdot, hlength⟩, -⟩ := checkTemplateSuffix_eq_ok.1 h.templateSuffix
  exact {
    outputSuffix := hgo
    outputBare := ⟨hslash, hback⟩
    outputNoTest := htest
    templateDot := hdot
    templateLength := hlength
    formatter := (checkFormatter_eq_ok.1 h.formatter).1
    command := (checkCommand_eq_ok.1 h.command).1
    workers := (checkWorkers_eq_ok.1 h.workers).1
    logLevel := (checkLogLevel_eq_ok.1 h.logLevel).1 }

theorem blame_eq_ok {α : Type} {f : Field} {x : Checked α} {a : α} :
    blame f x = .ok a ↔ x = .ok a := by
  cases x with
  | error e => exact iff_of_false nofun nofun
  | ok b => rw [blame, Except.ok.injEq, Except.ok.injEq]

/-- A value that is taken leaves accepted settings accepted. -/
theorem Accepted.put {s t : Settings} (hs : s.Accepted) {f : Field} {v : Raw}
    (h : put s f v = .ok t) : t.Accepted := by
  cases f
  case command =>
    obtain ⟨words, -, h⟩ := Except.bind_eq_ok.1 h
    obtain ⟨command, hcheck, h⟩ := Except.bind_eq_ok.1 h
    cases h
    obtain ⟨hne, rfl⟩ := checkCommand_eq_ok.1 (blame_eq_ok.1 hcheck)
    exact { hs with command := checkCommand_eq_ok.2 ⟨hne, rfl⟩ }
  all_goals
    obtain ⟨x, hx, h⟩ := Except.bind_eq_ok.1 h
    cases h
    obtain ⟨raw, -, hcheck⟩ := Except.bind_eq_ok.1 (blame_eq_ok.1 hx)
  case outputName =>
    obtain ⟨hrules, rfl⟩ := checkOutputName_eq_ok.1 hcheck
    exact { hs with outputName := checkOutputName_eq_ok.2 ⟨hrules, rfl⟩ }
  case templateSuffix =>
    obtain ⟨hrules, rfl⟩ := checkTemplateSuffix_eq_ok.1 hcheck
    exact { hs with templateSuffix := checkTemplateSuffix_eq_ok.2 ⟨hrules, rfl⟩ }
  case formatter =>
    obtain ⟨hmem, rfl⟩ := checkFormatter_eq_ok.1 hcheck
    exact { hs with formatter := checkFormatter_eq_ok.2 ⟨hmem, rfl⟩ }
  case workers =>
    obtain ⟨hle, rfl⟩ := checkWorkers_eq_ok.1 hcheck
    exact { hs with workers := checkWorkers_eq_ok.2 ⟨hle, rfl⟩ }
  case logLevel => exact { hs with logLevel := checkLogLevel_self hcheck }

namespace Sources

variable (s : Sources)

/-- Looking at a field leaves accepted settings accepted, whatever the sources give for it. -/
theorem accepted_apply {acc : Settings × List Complaint} (h : acc.1.Accepted) (f : Field) :
    (s.apply acc f).1.Accepted := by
  unfold apply
  cases s.effective f with
  | none => exact h
  | some v =>
    dsimp only
    cases hput : Settings.put acc.1 f v with
    | ok t => exact h.put hput
    | error cs => exact h

theorem accepted_foldl_apply {acc : Settings × List Complaint} (h : acc.1.Accepted)
    (fs : List Field) : (fs.foldl s.apply acc).1.Accepted := by
  induction fs generalizing acc with
  | nil => exact h
  | cons f fs ih => exact ih (s.accepted_apply h f)

/-- What sources give is accepted: the defaults are, and each field that is looked at keeps it
so. -/
theorem accepted_settings {t : Settings} (h : s.settings = .ok t) : t.Accepted := by
  rw [settings_eq] at h
  split at h
  · cases h
    exact s.accepted_foldl_apply accepted_default Field.all
  · cases h

end Sources

/-- What is loaded is accepted. -/
theorem Session.accepted_load {n : Session} {ws : File.Workspace} {r : Request} {s : Settings}
    (h : (n.load ws r).1 = .ok s) : s.Accepted := by
  unfold load at h
  dsimp only at h
  split at h
  · cases h
  · cases h
  · obtain ⟨contents, -, h⟩ := Except.bind_eq_ok.1 h
    obtain ⟨environment, -, h⟩ := Except.bind_eq_ok.1 h
    obtain ⟨entries, -, h⟩ := Except.bind_eq_ok.1 h
    exact Sources.accepted_settings _ h

/-- An assignment: the name that is assigned to, and the value. -/
abbrev Assignment := String × Raw

/-- The settings after an assignment, which leaves them as they are if it is refused. -/
def after (s : Settings) (a : Assignment) : Settings :=
  match s.assign a.1 a.2 with
  | .ok t => t
  | .error _ => s

/-- An assignment that is taken is one to a field, whose value passes its check, or one to a name
that is no field's and does not count. -/
theorem assign_eq_ok_iff {s t : Settings} {name : String} {v : Raw} : s.assign name v = .ok t ↔
    (∃ f : Field, f.name = name ∧ put s f v = .ok t) ∨
      ((∀ f : Field, f.name ≠ name) ∧ name.startsWith "_" ∧ t = s) := by
  unfold assign
  split
  · rename_i f hname
    obtain rfl := Field.ofName?_eq_some_iff.1 hname
    have hfield : ¬∀ g : Field, g.name ≠ f.name := fun h => h f rfl
    rw [Except.mapError_eq_ok]
    simp only [hfield, false_and, or_false]
    constructor
    · exact fun h => ⟨f, rfl, h⟩
    · rintro ⟨g, hg, h⟩
      exact Field.name_injective hg ▸ h
  · rename_i hname
    have hnone (f : Field) : f.name ≠ name := by
      rintro rfl
      cases (Field.ofName?_eq_some_iff.2 rfl).symm.trans hname
    have hsome : ¬∃ f : Field, f.name = name ∧ put s f v = .ok t := fun ⟨f, hf, _⟩ => hnone f hf
    rw [or_iff_right hsome, and_iff_right hnone]
    split
    · rename_i hlead
      rw [and_iff_right hlead, Except.ok.injEq, eq_comm]
    · rename_i hlead
      exact iff_of_false nofun fun h => hlead h.1

/-- An assignment leaves accepted settings accepted. -/
theorem Accepted.after {s : Settings} (hs : s.Accepted) (a : Assignment) :
    (s.after a).Accepted := by
  unfold Settings.after
  cases h : s.assign a.1 a.2 with
  | error e => exact hs
  | ok t =>
    rcases assign_eq_ok_iff.1 h with ⟨f, -, hput⟩ | ⟨-, -, rfl⟩
    · exact hs.put hput
    · exact hs

theorem Accepted.foldl_after {s : Settings} (hs : s.Accepted) (as : List Assignment) :
    (as.foldl Settings.after s).Accepted := by
  induction as generalizing s with
  | nil => exact hs
  | cons a as ih => exact ih (hs.after a)

/-- Settings that are loaded keep to the rules of all fields from then on, whatever is assigned to
them and whether it is taken or refused. At any time an assignment that is refused leaves all fields
as they are, and one that is taken sets its own field to the checked form of the value and leaves
the others. -/
theorem load_sound_throughout {n : Session} {ws : File.Workspace} {r : Request} {s : Settings}
    (h : (n.load ws r).1 = .ok s) (as : List Assignment) :
    let now := as.foldl after s
    now.Sound ∧ ∀ name v,
      (∀ e, now.assign name v = .error e → now.after (name, v) = now) ∧
      ∀ t, now.assign name v = .ok t → now.after (name, v) = t ∧
        (∀ f : Field, f.name = name → validated f v = .ok (t.get f)) ∧
        ∀ f : Field, f.name ≠ name → t.get f = now.get f := by
  intro now
  refine ⟨((Session.accepted_load h).foldl_after as).sound, fun name v => ⟨fun e he => ?_,
    fun t ht => ?_⟩⟩
  · simp only [after, he]
  · refine ⟨by simp only [after, ht], ?_⟩
    rcases assign_eq_ok_iff.1 ht with ⟨f, rfl, hput⟩ | ⟨hnone, -, rfl⟩
    · obtain ⟨hvalid, hothers⟩ := put_eq_ok_iff.1 hput
      refine ⟨fun g hg => Field.name_injective hg ▸ hvalid, fun g hg => hothers g ?_⟩
      rintro rfl
      exact hg rfl
    · exact ⟨fun f hf => absurd hf (hnone f), fun f _ => rfl⟩

/-- Settings from a variable in capitals, assigned to three times, once in vain. -/
theorem load_sound_throughout_loud :
    let n : Session := { environment := [("EMBEDGEN_LOG_LEVEL", "DEBUG")] }
    let ws : File.Workspace := ⟨.empty, []⟩
    let loaded : Settings := { logLevel := "debug" }
    let as : List Assignment :=
      [("workers", .text "8"), ("formatter", .text "black"), ("log_level", .text "Quiet")]
    let now : Settings := { workers := 8, logLevel := "quiet" }
    (n.load ws {}).1 = .ok loaded ∧ as.foldl after loaded = now ∧ now.Sound ∧
      (∃ e, now.assign "workers" (.int 0) = .error e ∧ now.after ("workers", .int 0) = now) ∧
      ∃ t, now.assign "formatter" (.text "check") = .ok t ∧ t.get .formatter = .text "check" ∧
        t.get .workers = .int 8 := by
  intro n ws loaded as now
  have hload : (n.load ws {}).1 = .ok loaded := by decide +kernel
  have hnow : as.foldl after loaded = now := by decide +kernel
  obtain ⟨hsound, hassign⟩ := load_sound_throughout hload as
  rw [hnow] at hsound hassign
  refine ⟨hload, hnow, hsound, ?_, ?_⟩
  · have hrefused : (now.assign "workers" (.int 0)).isOk = false := by decide +kernel
    cases h : now.assign "workers" (.int 0) with
    | ok t => exact nomatch (congrArg Except.isOk h).symm.trans hrefused
    | error e => exact ⟨e, rfl, (hassign _ _).1 e h⟩
  · have htaken : (now.assign "formatter" (.text "check")).isOk = true := by decide +kernel
    cases h : now.assign "formatter" (.text "check") with
    | error e => exact nomatch (congrArg Except.isOk h).symm.trans htaken
    | ok t =>
      obtain ⟨-, hown, hothers⟩ := (hassign _ _).2 t h
      have hvalid : validated .formatter (.text "check") = .ok (.text "check") := rfl
      exact ⟨t, rfl, (Except.ok.inj (hvalid.symm.trans (hown .formatter rfl))).symm,
        hothers .workers (by decide)⟩

end TypeWeave.Settings
