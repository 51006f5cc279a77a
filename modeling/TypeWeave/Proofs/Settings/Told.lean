import TypeWeave.CommandLine.Program
import TypeWeave.Proofs.Console.Escape
import TypeWeave.Proofs.Settings.Precedence

/-!
# Failures that are told

Which failures of a load are told to the user as faults in the configuration, by what the project
file holds and what the variables say, and how a call of the program ends. Others come from bytes
that are no text, from scalars that cannot be read, from keys that are no texts and from a variable
for a list that is no JSON. Main statement: `load_told_iff`.
-/

namespace TypeWeave.Settings

namespace Project

/-- The project file that is named or else found. -/
def located (ws : File.Workspace) (env : Environment) (named : Option File.Path) :
    Except File.Error (Option File.Path) :=
  match named with
  | some p => .ok (some p)
  | none => find ws env .current

/-- The bytes of the project file; there are none without a regular file. -/
def content (ws : File.Workspace) (env : Environment) (named : Option File.Path) :
    Except File.Error (List UInt8) := do
  match ← located ws env named with
  | none => return []
  | some p => if ← ws.isFile p then ws.read p else return []

/-- Bytes are a text, and what is wrong with it, if anything, is wrong with it as a document. -/
def IsDocument (bytes : List UInt8) : Prop :=
  ∃ cs, Text.Utf8.decode bytes = .ok cs ∧
    ∀ f, Yaml.Value.ofChars (Text.normalizeNewlines cs) = .error f → f.isDocument = true

/-- The entries of a mapping; what is empty has none. -/
def mapping? : Raw → Option (List (Raw × Raw))
  | .map entries => some entries
  | v => if v.isVoid then some [] else none

/-- The entries of a document that is a mapping or empty. -/
def entriesOf? (bytes : List UInt8) : Option (List (Raw × Raw)) := do
  let cs ← (Text.Utf8.decode bytes).toOption
  mapping? (← (Yaml.Value.ofChars (Text.normalizeNewlines cs)).toOption)

variable {ws : File.Workspace} {p : File.Path} {bytes : List UInt8}

theorem isDocument_iff_of_value {cs : List Char} (hdecode : Text.Utf8.decode bytes = .ok cs) :
    IsDocument bytes ↔
      ∀ f, Yaml.Value.ofChars (Text.normalizeNewlines cs) = .error f → f.isDocument = true := by
  constructor
  · rintro ⟨cs', hcs', h⟩
    rwa [Except.ok.inj (hdecode.symm.trans hcs')]
  · exact fun h => ⟨cs, hdecode, h⟩

/-- Bytes that give entries are a document. -/
theorem isDocument_of_entriesOf? {entries : List (Raw × Raw)}
    (h : entriesOf? bytes = some entries) : IsDocument bytes := by
  obtain ⟨cs, hdecode, h⟩ := Option.bind_eq_some_iff.1 h
  obtain ⟨v, hvalue, -⟩ := Option.bind_eq_some_iff.1 h
  refine ⟨cs, Except.toOption_eq_some_iff.1 hdecode, fun f hf => ?_⟩
  cases (Except.toOption_eq_some_iff.1 hvalue).symm.trans hf

/-- Either bytes give entries, and these are read, or they give none, and then the failure to read
them is told when they are a document. -/
theorem read_spec (hread : ws.read p = .ok bytes) :
    (∃ entries, entriesOf? bytes = some entries ∧ read ws p = .ok entries) ∨
      (entriesOf? bytes = none ∧
        ∃ e, read ws p = .error e ∧ (e.isConfiguration = true ↔ IsDocument bytes)) := by
  cases hdecode : Text.Utf8.decode bytes with
  | error place =>
    refine Or.inr ⟨by simp [entriesOf?, hdecode, Except.toOption], .undecodable place, ?_, ?_⟩
    · simp only [read, hread, hdecode]
    · refine iff_of_false (by simp [Fault.isConfiguration]) ?_
      rintro ⟨cs, hcs, -⟩
      cases hdecode.symm.trans hcs
  | ok cs =>
    rw [isDocument_iff_of_value hdecode]
    cases hvalue : Yaml.Value.ofChars (Text.normalizeNewlines cs) with
    | error f =>
      refine Or.inr ⟨by simp [entriesOf?, hdecode, hvalue, Except.toOption], ?_⟩
      simp only [read, hread, hdecode, hvalue]
      cases hf : f.isDocument with
      | true => exact ⟨_, rfl, by simp [Fault.isConfiguration, hf]⟩
      | false => exact ⟨_, rfl, by simp [Fault.isConfiguration, hf]⟩
    | ok v =>
      have hentries : entriesOf? bytes = mapping? v := by
        simp [entriesOf?, hdecode, hvalue, Except.toOption]
      have hresult : read ws p = (mapping? v).elim (.error (.notMapping p v.kind)) .ok := by
        simp only [read, hread, hdecode, hvalue]
        cases v
        case map => rfl
        all_goals
          simp only [mapping?]
          split <;> rfl
      rw [hentries, hresult]
      cases mapping? v with
      | some entries => exact Or.inl ⟨entries, rfl, rfl⟩
      | none =>
        refine Or.inr ⟨rfl, _, rfl, iff_of_true rfl fun f hf => ?_⟩
        cases hf

/-- Without bytes there are no entries. -/
theorem entriesOf?_nil : entriesOf? [] = some [] := by
  have hread : (entriesOf? []).map List.isEmpty = some true := by decide +kernel
  obtain ⟨entries, hentries, hempty⟩ := Option.map_eq_some_iff.1 hread
  rw [hentries, List.isEmpty_iff.1 hempty]

variable {env : Environment} {named : Option File.Path}

/-- The contents of a located project file. -/
private theorem contents_eq : contents ws env named = match located ws env named with
    | .error e => .error (.file e)
    | .ok none => .ok {}
    | .ok (some p) => match ws.isFile p with
      | .error e => .error (.file e)
      | .ok false => .ok {}
      | .ok true => (read ws p).map fun entries => ⟨some p, entries⟩ := by
  unfold contents located
  cases named with
  | none =>
    cases find ws env .current with
    | error e => rfl
    | ok file =>
      cases file with
      | none => rfl
      | some p =>
        simp only [Except.mapError, bind, Except.bind]
        rcases ws.isFile p with e | (_ | _) <;> rfl
  | some p =>
    simp only [pure, Except.pure, Except.mapError, bind, Except.bind]
    rcases ws.isFile p with e | (_ | _) <;> rfl

/-- A project file cannot be looked for or read, or there is no regular one, or there is one and its
bytes are read. -/
theorem content_cases (ws : File.Workspace) (env : Environment) (named : Option File.Path) :
    (∃ e, content ws env named = .error e ∧ contents ws env named = .error (.file e)) ∨
      (content ws env named = .ok [] ∧ contents ws env named = .ok {}) ∨
      ∃ p bytes, ws.read p = .ok bytes ∧ content ws env named = .ok bytes ∧
        contents ws env named = (read ws p).map fun entries => ⟨some p, entries⟩ := by
  rw [contents_eq]
  unfold content
  cases located ws env named with
  | error e => exact Or.inl ⟨e, rfl, rfl⟩
  | ok file =>
    cases file with
    | none => exact Or.inr (Or.inl ⟨rfl, rfl⟩)
    | some p =>
      simp only [bind, Except.bind]
      cases ws.isFile p with
      | error e => exact Or.inl ⟨e, rfl, rfl⟩
      | ok regular =>
        cases regular with
        | false => exact Or.inr (Or.inl ⟨rfl, rfl⟩)
        | true =>
          simp only [if_true]
          cases hread : ws.read p with
          | error e => exact Or.inl ⟨e, rfl, by simp [read, hread, Except.map]⟩
          | ok bytes => exact Or.inr (Or.inr ⟨p, bytes, hread, rfl, rfl⟩)

/-- A project file that cannot be looked for or read gives no contents. -/
theorem contents_eq_error {e : File.Error} (h : content ws env named = .error e) :
    contents ws env named = .error (.file e) := by
  obtain ⟨e', he', hcontents⟩ | ⟨hnil, -⟩ | ⟨p, bytes, -, hbytes, -⟩ := content_cases ws env named
  · rw [hcontents, Except.error.inj (he'.symm.trans h)]
  · cases hnil.symm.trans h
  · cases hbytes.symm.trans h

/-- The contents of a project file are as its bytes are. -/
theorem contents_spec (h : content ws env named = .ok bytes) :
    (∃ entries, entriesOf? bytes = some entries ∧
      ∃ file, contents ws env named = .ok ⟨file, entries⟩) ∨
    (entriesOf? bytes = none ∧
      ∃ e, contents ws env named = .error e ∧ (e.isConfiguration = true ↔ IsDocument bytes)) := by
  obtain ⟨e, he, -⟩ | ⟨hnil, hcontents⟩ | ⟨p, bytes', hread, hbytes, hcontents⟩ :=
    content_cases ws env named
  · cases he.symm.trans h
  · obtain rfl := Except.ok.inj (hnil.symm.trans h)
    exact Or.inl ⟨[], entriesOf?_nil, none, hcontents⟩
  · obtain rfl := Except.ok.inj (hbytes.symm.trans h)
    rw [hcontents]
    obtain ⟨entries, hentries, hok⟩ | ⟨hnone, e, herror, he⟩ := read_spec hread
    · exact Or.inl ⟨entries, hentries, some p, by rw [hok]; rfl⟩
    · exact Or.inr ⟨hnone, e, by rw [herror]; rfl, he⟩

end Project

/-- A project file of some bytes and the variables leave nothing to fail that is not told: the bytes
are a document, and when they give entries the variable for a list, under a name in any letter case,
is JSON, and the keys are texts. -/
structure IsTold (env : Project.Environment) (bytes : List UInt8) : Prop where
  document : Project.IsDocument bytes
  list : ∀ entries, Project.entriesOf? bytes = some entries → ∀ text,
    Project.valueOf (lowered env) (variableLead ++ Field.command.name) = some text →
      ∃ v, Json.Reader.read? text.toList = some v
  keys : ∀ entries, Project.entriesOf? bytes = some entries → ∀ entry ∈ entries,
    ∃ k, entry.1 = .text k

/-- A project file that is named is there, or it is not there, or it cannot be looked for. -/
theorem load_cases (ws : File.Workspace) (env : Project.Environment) (r : Request) :
    (∀ p, r.file = some p → ws.pathExists p = .ok true) ∨
    ∃ p, r.file = some p ∧
      (ws.pathExists p = .ok false ∧ load ws env r = .error (.missing p) ∨
        ∃ e, ws.pathExists p = .error e ∧ load ws env r = .error (.file e)) := by
  unfold load Session.load
  cases hfile : r.file with
  | none => exact Or.inl nofun
  | some p =>
    cases hp : ws.pathExists p with
    | error e => exact Or.inr ⟨p, rfl, Or.inr ⟨e, hp, by simp [hp, Except.mapError]⟩⟩
    | ok isThere =>
      cases isThere with
      | false => exact Or.inr ⟨p, rfl, Or.inl ⟨hp, by simp [hp, Except.mapError]⟩⟩
      | true =>
        refine Or.inl fun q hq => ?_
        rw [← Option.some.inj hq, hp]

/-- Every failure of a load whose project file is read is told exactly when nothing else can fail. -/
theorem isTold_iff {ws : File.Workspace} {env : Project.Environment} {r : Request}
    (hnamed : ∀ p, r.file = some p → ws.pathExists p = .ok true) {bytes : List UInt8}
    (hcontent : Project.content ws env r.file = .ok bytes) :
    (∀ e, load ws env r = .error e → e.isConfiguration = true) ↔ IsTold env bytes := by
  rw [load_eq hnamed]
  obtain ⟨entries, hentries, file, hcontents⟩ | ⟨hnone, e, hcontents, he⟩ :=
    Project.contents_spec hcontent
  · have hsources : (Project.contents ws env r.file >>= fun c => ofSources r.overrides env c.entries) =
        ofSources r.overrides env entries := by rw [hcontents]; rfl
    rw [hsources, ofSources]
    cases henvironment : ofEnvironment env with
    | error e =>
      obtain ⟨rfl, text, htext, hread⟩ := ofEnvironment_eq_error_iff.1 henvironment
      refine iff_of_false (fun h => Bool.false_ne_true (h _ rfl)) fun h => ?_
      obtain ⟨v, hv⟩ := h.list entries hentries text htext
      cases hread.symm.trans hv
    | ok given =>
      cases hkeys : ofEntries entries with
      | error e =>
        obtain ⟨rfl, entry, hentry, hkey⟩ := ofEntries_eq_error_iff.1 hkeys
        refine iff_of_false (fun h => Bool.false_ne_true (h _ rfl)) fun h => ?_
        obtain ⟨k, hk⟩ := h.keys entries hentries entry hentry
        exact hkey k hk
      | ok file =>
        refine iff_of_true (fun e he => ?_) ⟨Project.isDocument_of_entriesOf? hentries,
          fun entries' hentries' text htext => ?_, fun entries' hentries' => ?_⟩
        · rw [Sources.settings_eq_error _ he]
          rfl
        · cases hread : Json.Reader.read? text.toList with
          | some v => exact ⟨v, rfl⟩
          | none =>
            cases henvironment.symm.trans (ofEnvironment_eq_error_iff.2 ⟨rfl, text, htext, hread⟩)
        · obtain rfl := Option.some.inj (hentries.symm.trans hentries')
          rw [ofEntries_eq_ok_iff.1 hkeys]
          exact List.forall_mem_map.2 fun _ _ => ⟨_, rfl⟩
  · have hfails : (Project.contents ws env r.file >>= fun c => ofSources r.overrides env c.entries) =
        .error e := by rw [hcontents]; rfl
    rw [hfails]
    constructor
    · intro h
      refine ⟨he.1 (h e rfl), fun entries hentries => ?_, fun entries hentries => ?_⟩
      · cases hnone.symm.trans hentries
      · cases hnone.symm.trans hentries
    · intro h e' he'
      obtain rfl := Except.error.inj he'
      exact he.2 h.document

/-- A call that fails to load its settings ends with the exit code for misuse when the failure is
told, and else with that for a failure. -/
theorem exit_of_load_eq_error {c : CommandLine.Call} {g : CommandLine.Globals} {t : CommandLine.Task}
    (hread : CommandLine.Request.read c.workspace c.arguments = .ok (.generate g t)) {e : Fault}
    (he : load c.workspace c.environment ⟨g.config, CommandLine.Call.overrides g t⟩ = .error e) :
    c.run.exit = if e.isConfiguration then .misuse else .failure := by
  have hrun : c.run = c.generate g t := by
    unfold CommandLine.Call.run
    simp only [hread]
  obtain ⟨text, htext⟩ := Console.exists_error_eq_ok e.message
  rw [hrun]
  unfold CommandLine.Call.generate
  simp only [he]
  split
  · simp only [htext, CommandLine.Call.tell]
  · rfl

/-- Every failure of a load is told exactly when a project file that is named is not there, or the
project file can be looked for and read and leaves, with the variables, nothing else to fail. A call
of the program that fails to load its settings ends with the exit code for misuse when the failure is
told, and else with that for a failure. -/
theorem load_told_iff (ws : File.Workspace) (env : Project.Environment) (r : Request) :
    ((∀ e, load ws env r = .error e → e.isConfiguration = true) ↔
      (∃ p, r.file = some p ∧ ws.pathExists p = .ok false) ∨
      (∀ p, r.file = some p → ws.pathExists p = .ok true) ∧
        ∃ bytes, Project.content ws env r.file = .ok bytes ∧ IsTold env bytes) ∧
    ∀ (c : CommandLine.Call) g t, c.workspace = ws → c.environment = env →
      CommandLine.Request.read ws c.arguments = .ok (.generate g t) →
      r = ⟨g.config, CommandLine.Call.overrides g t⟩ →
      ∀ e, load ws env r = .error e →
        c.run.exit.code = if e.isConfiguration then 2 else 1 := by
  refine ⟨?_, ?_⟩
  · obtain hnamed | ⟨p, hp, ⟨hmissing, hload⟩ | ⟨e, hrefused, hload⟩⟩ := load_cases ws env r
    · have hthere : ¬∃ p, r.file = some p ∧ ws.pathExists p = .ok false := by
        rintro ⟨p, hp, hmissing⟩
        cases (hnamed p hp).symm.trans hmissing
      rw [or_iff_right hthere, and_iff_right hnamed]
      cases hcontent : Project.content ws env r.file with
      | ok bytes =>
        rw [isTold_iff hnamed hcontent]
        simp
      | error e =>
        have hload : load ws env r = .error (.file e) := by
          rw [load_eq hnamed, Project.contents_eq_error hcontent]
          rfl
        refine iff_of_false (fun h => Bool.false_ne_true (h _ hload)) nofun
    · refine iff_of_true (fun e he => ?_) (Or.inl ⟨p, hp, hmissing⟩)
      obtain rfl := Except.error.inj (hload.symm.trans he)
      rfl
    · refine iff_of_false (fun h => Bool.false_ne_true (h _ hload)) ?_
      rintro (⟨q, hq, hmissing⟩ | ⟨hnamed, -⟩)
      · obtain rfl := Option.some.inj (hp.symm.trans hq)
        cases hrefused.symm.trans hmissing
      · cases hrefused.symm.trans (hnamed p hp)
  · rintro c g t rfl rfl hread rfl e he
    rw [exit_of_load_eq_error hread he]
    split <;> rfl

/-- A call that generates the current directory, where a project file holds some bytes. -/
def callOver (bytes : List UInt8) : CommandLine.Call where
  arguments := ["generate"]
  workspace := ⟨⟨[(["embedgen.yaml"], .file bytes)]⟩, []⟩
  runner := fun _ _ => .error .notFound

/-- What a call that generates the current directory asks of a load. -/
def plainRequest : Request := ⟨none, CommandLine.Call.overrides {} {}⟩

/-- A number that is none is told, and the call ends with the exit code for misuse. -/
theorem load_told_iff_callOver :
    let c := callOver (Text.Utf8.encode "workers: many\n".toList)
    ∃ e, load c.workspace c.environment plainRequest = .error e ∧ e.isConfiguration = true ∧
      c.run.exit.code = 2 := by
  intro c
  have hread : CommandLine.Request.read c.workspace c.arguments = .ok (.generate {} {}) := by
    decide +kernel
  have hload : load c.workspace c.environment plainRequest =
      .error (.invalid [⟨["workers"], notWhole⟩]) := by decide +kernel
  obtain ⟨-, hexit⟩ := load_told_iff c.workspace c.environment plainRequest
  exact ⟨_, hload, rfl, hexit c {} {} rfl rfl hread rfl _ hload⟩

/-- Bytes that are no text are not told, though they can be read, and the call ends with the exit
code for a failure. -/
theorem not_told_undecodable :
    let bytes := Text.Utf8.encode "workers:".toList ++ [0xff]
    let c := callOver bytes
    Project.content c.workspace c.environment none = .ok bytes ∧
      ¬(∀ e, load c.workspace c.environment plainRequest = .error e → e.isConfiguration = true) ∧
      c.run.exit.code = 1 := by
  intro bytes c
  have hcontent : Project.content c.workspace c.environment none = .ok bytes := by decide +kernel
  refine ⟨hcontent, fun h => ?_, by decide +kernel⟩
  have hload : load c.workspace c.environment plainRequest =
      .error (.undecodable ⟨8, 1, 255, .badStart⟩) := by decide +kernel
  cases h _ hload

end TypeWeave.Settings
