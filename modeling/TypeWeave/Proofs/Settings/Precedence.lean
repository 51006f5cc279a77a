import TypeWeave.Proofs.Settings.Sources

/-!
# Precedence of sources

A load over variables that set fields by exact names and a project file whose keys are texts: each
field is the checked form of its own raw value, which is the override if there is one, else what its
variable says, else what the project file says, else the default. Every field that does not pass its
check and every name that is not that of a field is named when the load fails. Main statement:
`load_precedence`.
-/

namespace TypeWeave.Settings

/-- A message names a field or a key when one of its lines starts with the name. -/
def Fault.Names (e : Fault) (n : String) : Prop :=
  ∃ mark ∈ [": ", " → "], ("\n  " ++ n ++ mark).toList <:+: e.message.toList

/-- Each of several lines stands behind the separator in what they are joined to. -/
private theorem isInfix_intercalate (separator : String) {line : String} {lines : List String}
    (h : line ∈ lines) :
    (separator ++ line).toList <:+: (separator ++ separator.intercalate lines).toList := by
  induction lines with
  | nil => cases h
  | cons first rest ih =>
    cases rest with
    | nil =>
      obtain rfl := List.mem_singleton.1 h
      have hone : separator.intercalate [line] = line := String.intercalate_singleton
      exact hone.symm ▸ List.infix_rfl
    | cons second rest =>
      have hjoined : (separator ++ separator.intercalate (first :: second :: rest)).toList =
          (separator ++ first).toList ++
            (separator ++ separator.intercalate (second :: rest)).toList := by
        rw [String.intercalate_cons_cons, ← String.toList_append]
        simp only [String.append_assoc]
      rw [hjoined]
      obtain rfl | h := List.mem_cons.1 h
      · exact (List.prefix_append _ _).isInfix
      · exact (ih h).trans (List.suffix_append _ _).isInfix

/-- The line of a complaint starts with the name that its path starts with. -/
private theorem exists_line_eq {c : Complaint} {n : String} (h : [n] <+: c.path) :
    ∃ mark ∈ [": ", " → "], ∃ rest, Fault.line " → " c = n ++ mark ++ rest := by
  obtain ⟨path, text⟩ := c
  obtain ⟨names, hnames⟩ := h
  change [n] ++ names = path at hnames
  subst hnames
  cases names with
  | nil => exact ⟨": ", by simp, text, by simp [Fault.line]⟩
  | cons name names =>
    refine ⟨" → ", by simp, " → ".intercalate (name :: names) ++ ": " ++ text, ?_⟩
    rw [Fault.line, List.singleton_append, String.intercalate_cons_cons]
    simp only [String.append_assoc]

/-- Complaints name what they are about. -/
theorem Fault.names_of_mem {complaints : List Complaint} {c : Complaint} (hc : c ∈ complaints)
    {n : String} (hn : [n] <+: c.path) : (Fault.invalid complaints).Names n := by
  obtain ⟨mark, hmark, rest, hline⟩ := exists_line_eq hn
  refine ⟨mark, hmark, ?_⟩
  have hlines := isInfix_intercalate "\n  "
    (List.mem_map_of_mem (f := Fault.line " → ") hc)
  have hmessage : (Fault.invalid complaints).message.toList = "Invalid configuration:".toList ++
      ("\n  " ++ "\n  ".intercalate (complaints.map (Fault.line " → "))).toList := by
    rw [← String.toList_append, ← String.append_assoc]
    rfl
  have hstart : ("\n  " ++ (n ++ mark ++ rest)).toList =
      ("\n  " ++ n ++ mark).toList ++ rest.toList := by
    rw [← String.toList_append]
    simp only [String.append_assoc]
  rw [hline, hstart] at hlines
  rw [hmessage]
  exact ((List.prefix_append _ _).isInfix.trans hlines).trans (List.suffix_append _ _).isInfix

/-- What a load reads: what it is asked for, the variables, and what the project file says. -/
structure Inputs where
  request : Request := {}
  environment : Project.Environment := []
  entries : List (Raw × Raw) := []

namespace Inputs

variable (i : Inputs)

/-- What is given for a field by the source that comes first among those that give it. -/
def given (f : Field) : Option Raw :=
  (overrideOf i.request.overrides f).or
    ((variableOf i.environment f).or (Project.lookup i.entries f.name))

/-- The raw value of a field: what is given for it, or else the default. -/
def raw (f : Field) : Raw := (i.given f).getD (({} : Settings).get f)

/-- A name that no field has, of an override that is given or of an entry of the project file. The
names of overrides are read in any letter case. -/
def Unknown (n : String) : Prop :=
  ((∃ v, (n, v) ∈ i.request.overrides ∧ v ≠ .null) ∧ Field.ofAnyCase? n = none) ∨
    ((∃ v, (.text n, v) ∈ i.entries) ∧ Field.ofName? n = none)

/-- The variables set fields by exact names, and the keys of the project file are texts. -/
structure IsPlain : Prop where
  environment : SetsExactly i.environment
  entries : ∀ entry ∈ i.entries, ∃ k, entry.1 = .text k

/-- The inputs are those of a workspace: a project file that is named is there, and the project file
says what it does. -/
structure FoundIn (ws : File.Workspace) : Prop where
  named : ∀ p, i.request.file = some p → ws.pathExists p = .ok true
  contents : ∃ file, Project.contents ws i.environment i.request.file = .ok ⟨file, i.entries⟩

/-- Inputs agree on a field when they give the same for it, as far as it comes to that: a variable
counts without an override, and the project file counts without a variable. -/
def AgreesOn (other : Inputs) (f : Field) : Prop :=
  overrideOf i.request.overrides f = overrideOf other.request.overrides f ∧
    (overrideOf i.request.overrides f = none →
      variableOf i.environment f = variableOf other.environment f ∧
      (variableOf i.environment f = none →
        Project.lookup i.entries f.name = Project.lookup other.entries f.name))

variable {i}

/-- Inputs that agree on a field have the same raw value for it. -/
theorem AgreesOn.raw_eq {other : Inputs} {f : Field} (h : i.AgreesOn other f) :
    i.raw f = other.raw f := by
  obtain ⟨hoverride, hrest⟩ := h
  unfold raw given
  rw [← hoverride]
  cases ho : overrideOf i.request.overrides f with
  | some v => rfl
  | none =>
    obtain ⟨hvariable, hrest⟩ := hrest ho
    rw [← hvariable]
    cases hv : variableOf i.environment f with
    | some v => rfl
    | none => rw [hrest hv]

end Inputs

/-- A load whose project file is there, if one is named, reads the project file and takes what it
says together with the overrides and the variables. -/
theorem load_eq {ws : File.Workspace} {env : Project.Environment} {r : Request}
    (h : ∀ p, r.file = some p → ws.pathExists p = .ok true) :
    load ws env r =
      (Project.contents ws env r.file >>= fun c => ofSources r.overrides env c.entries) := by
  unfold load Session.load
  cases hfile : r.file with
  | none => rfl
  | some p =>
    simp only [h p hfile, Except.mapError]
    rfl

/-- The sources of a load over plain inputs. -/
theorem exists_sources {ws : File.Workspace} {i : Inputs} (hfound : i.FoundIn ws)
    (hplain : i.IsPlain) : ∃ s : Sources, load ws i.environment i.request = s.settings ∧
      (∀ f, s.raw f = i.raw f) ∧ ∀ n, n ∈ s.unknown ↔ i.Unknown n := by
  obtain ⟨file, hcontents⟩ := hfound.contents
  obtain ⟨environment, henvironment, hvariable⟩ :=
    exists_ofEnvironment_eq_ok (variableFor_lowered hplain.environment)
  obtain ⟨entries, hread⟩ := exists_ofEntries_eq_ok hplain.entries
  have hentries := ofEntries_eq_ok_iff.1 hread
  refine ⟨⟨ofOverrides i.request.overrides, environment, entries⟩, ?_, fun f => ?_, fun n => ?_⟩
  · rw [load_eq hfound.named, hcontents]
    simp only [bind, Except.bind, ofSources, henvironment, hread]
  · rw [Sources.raw, Sources.effective, Inputs.raw, Inputs.given, hentries]
    simp only [lookup_ofOverrides, hvariable, lookup_map_text]
  · have hfile : n ∈ entries.map Prod.fst ↔ ∃ v, (.text n, v) ∈ i.entries := by
      rw [hentries]
      simp
    rw [Sources.mem_unknown_iff, Inputs.Unknown, hfile, ← mem_given_iff]
    constructor
    · rintro ⟨h | h, hname⟩
      · exact Or.inr ⟨h, hname⟩
      · exact Or.inl ((mem_ofOverrides_iff hname).1 h)
    · rintro (⟨h, hcase⟩ | ⟨h, hname⟩)
      · have hname := Field.ofName?_eq_none_of_ofAnyCase? hcase
        exact ⟨Or.inr ((mem_ofOverrides_iff hname).2 ⟨h, hcase⟩), hname⟩
      · exact ⟨Or.inl h, hname⟩

variable {ws : File.Workspace} {i : Inputs}

/-- A load gives settings exactly when each field is the checked form of its raw value and no name
is unknown. -/
theorem load_eq_ok_iff (hfound : i.FoundIn ws) (hplain : i.IsPlain) {t : Settings} :
    load ws i.environment i.request = .ok t ↔
      (∀ f, validated f (i.raw f) = .ok (t.get f)) ∧ ∀ n, ¬i.Unknown n := by
  obtain ⟨s, hload, hraw, hunknown⟩ := exists_sources hfound hplain
  rw [hload, s.settings_eq_ok_iff]
  simp only [hraw, hunknown]

/-- A load gives settings when every raw value passes its check and no name is unknown. -/
theorem exists_load_eq_ok_iff (hfound : i.FoundIn ws) (hplain : i.IsPlain) :
    (∃ t, load ws i.environment i.request = .ok t) ↔
      (∀ f, ∃ x, validated f (i.raw f) = .ok x) ∧ ∀ n, ¬i.Unknown n := by
  obtain ⟨s, hload, hraw, hunknown⟩ := exists_sources hfound hplain
  rw [hload, s.exists_settings_eq_ok_iff]
  simp only [hraw, hunknown]

/-- A load that fails names every field that does not pass its check and every unknown name. -/
theorem names_of_load_eq_error (hfound : i.FoundIn ws) (hplain : i.IsPlain) {e : Fault}
    (h : load ws i.environment i.request = .error e) : e.isConfiguration = true ∧
      (∀ f, (∀ x, validated f (i.raw f) ≠ .ok x) → e.Names f.name) ∧
      ∀ n, i.Unknown n → e.Names n := by
  obtain ⟨s, hload, hraw, hunknown⟩ := exists_sources hfound hplain
  obtain rfl := s.settings_eq_error (hload.symm.trans h)
  refine ⟨rfl, fun f hf => ?_, fun n hn => ?_⟩
  · cases hchecked : validated f (i.raw f) with
    | ok x => exact absurd hchecked (hf x)
    | error cs =>
      obtain ⟨hne, hpath⟩ := path_of_validated hchecked
      obtain ⟨c, hc⟩ := List.exists_mem_of_ne_nil cs hne
      have hmem : c ∈ complaints f (s.raw f) := by rwa [complaints, hraw, hchecked]
      refine Fault.names_of_mem (List.mem_append_left _ ?_) (hpath c hc)
      exact List.mem_flatMap.2 ⟨f, f.mem_all, hmem⟩
  · have hmem := List.mem_map_of_mem (f := fun n => Complaint.mk [n] "Extra inputs are not permitted")
      ((hunknown n).2 hn)
    exact Fault.names_of_mem (List.mem_append_right _ hmem) List.prefix_rfl

/-- A load over variables that set fields by exact names and a project file whose keys are texts
succeeds when the raw value of every field passes the check of the field and no name is unknown.
Then each field is its checked raw value, so that what the sources that come after the first one
give for it, and what is given for other fields, does not matter to it. Otherwise all fields whose
raw values do not pass, and all unknown names, are named. -/
theorem load_precedence (hfound : i.FoundIn ws) (hplain : i.IsPlain) :
    ((∃ s, load ws i.environment i.request = .ok s) ↔
      (∀ f, ∃ x, validated f (i.raw f) = .ok x) ∧ ∀ n, ¬i.Unknown n) ∧
    (∀ s, load ws i.environment i.request = .ok s →
      (∀ f, validated f (i.raw f) = .ok (s.get f)) ∧
      ∀ ws' other, other.FoundIn ws' → other.IsPlain →
        (∀ s', load ws' other.environment other.request = .ok s' →
          ∀ f, i.AgreesOn other f → s'.get f = s.get f) ∧
        ((∀ f, i.AgreesOn other f) → (∀ n, other.Unknown n → i.Unknown n) →
          load ws' other.environment other.request = .ok s)) ∧
    ∀ e, load ws i.environment i.request = .error e → e.isConfiguration = true ∧
      (∀ f, (∀ x, validated f (i.raw f) ≠ .ok x) → e.Names f.name) ∧
      ∀ n, i.Unknown n → e.Names n := by
  refine ⟨exists_load_eq_ok_iff hfound hplain, fun s hs => ?_,
    fun e he => names_of_load_eq_error hfound hplain he⟩
  obtain ⟨hvalid, hknown⟩ := (load_eq_ok_iff hfound hplain).1 hs
  refine ⟨hvalid, fun ws' other hfound' hplain' => ⟨fun s' hs' f hf => ?_, fun hagree hnames => ?_⟩⟩
  · obtain ⟨hvalid', -⟩ := (load_eq_ok_iff hfound' hplain').1 hs'
    have hsame := (hvalid' f).symm.trans ((congrArg (validated f) hf.raw_eq).symm.trans (hvalid f))
    exact Except.ok.inj hsame
  · refine (load_eq_ok_iff hfound' hplain').2 ⟨fun f => ?_, fun n hn => hknown n (hnames n hn)⟩
    rw [← (hagree f).raw_eq, hvalid f]

/-- An entry that is a text under a text. -/
private def textEntry? : Raw × Raw → Option (String × String)
  | (.text k, .text v) => some (k, v)
  | _ => none

private theorem eq_of_textEntries {entries : List (Raw × Raw)} {texts : List (String × String)}
    (h : entries.map textEntry? = texts.map some) :
    entries = texts.map fun e => (.text e.1, .text e.2) := by
  induction entries generalizing texts with
  | nil => cases texts <;> first | rfl | cases h
  | cons entry entries ih =>
    cases texts with
    | nil => cases h
    | cons text texts =>
      obtain ⟨hentry, hrest⟩ := List.cons.inj h
      rw [List.map_cons, ← ih hrest]
      unfold textEntry? at hentry
      split at hentry <;> cases hentry
      rfl

/-- A workspace with a project file that says nothing good of two fields. -/
def maskedWorkspace : File.Workspace where
  tree := ⟨[(["embedgen.yaml"],
    .file (Text.Utf8.encode "workers: many\nlog_level: loud\nformatter: check\n".toList))]⟩
  here := []

/-- What its project file says, as texts. -/
def maskedTexts : List (String × String) :=
  [("workers", "many"), ("log_level", "loud"), ("formatter", "check")]

/-- What its project file says. -/
def maskedEntries : List (Raw × Raw) := maskedTexts.map fun e => (.text e.1, .text e.2)

theorem contents_maskedWorkspace {env : Project.Environment}
    (henv : Project.chosenDirectory env = none) :
    Project.contents maskedWorkspace env none =
      .ok ⟨some ⟨.root, ["embedgen.yaml"]⟩, maskedEntries⟩ := by
  have hbare : Project.contents maskedWorkspace env none =
      Project.contents maskedWorkspace [] none := by
    simp only [Project.contents, Project.find, henv]
    rfl
  have hread : (Project.contents maskedWorkspace [] none).toOption.map
      (fun c => (c.file, c.entries.map textEntry?)) =
        some (some ⟨.root, ["embedgen.yaml"]⟩, maskedTexts.map some) := by decide +kernel
  rw [hbare]
  cases hcontents : Project.contents maskedWorkspace [] none with
  | error e =>
    rw [hcontents] at hread
    cases hread
  | ok c =>
    rw [hcontents] at hread
    simp only [Except.toOption, Option.map_some, Option.some.injEq, Prod.mk.injEq] at hread
    obtain ⟨hfile, hentries⟩ := hread
    obtain ⟨file, entries⟩ := c
    exact congrArg Except.ok (congrArg₂ _ hfile (eq_of_textEntries hentries))

/-- Values that do not pass their checks do no harm where a variable or an override stands above
them, whether they are there or not, and are named where nothing does. -/
theorem load_precedence_maskedWorkspace :
    let masked : Inputs := {
      request := { overrides := [("workers", .null), ("log_level", .text "DEBUG")] }
      environment := [("EMBEDGEN_WORKERS", "3")]
      entries := maskedEntries }
    let bare : Inputs := { masked with entries := [] }
    let broken : Inputs := { entries := maskedEntries }
    let empty : File.Workspace := ⟨.empty, []⟩
    let s : Settings := { formatter := "check", workers := 3, logLevel := "debug" }
    (masked.FoundIn maskedWorkspace ∧ masked.IsPlain) ∧ (bare.FoundIn empty ∧ bare.IsPlain) ∧
      (broken.FoundIn maskedWorkspace ∧ broken.IsPlain) ∧
      load maskedWorkspace masked.environment masked.request = .ok s ∧
      (∀ f, validated f (masked.raw f) = .ok (s.get f)) ∧
      (∀ s', load empty bare.environment bare.request = .ok s' →
        s'.get .workers = .int 3 ∧ s'.get .logLevel = .text "debug") ∧
      ∃ e, load maskedWorkspace broken.environment broken.request = .error e ∧
        e.Names "workers" ∧ e.Names "log_level" := by
  intro masked bare broken empty s
  have hkeys : ∀ entry ∈ maskedEntries, ∃ k, entry.1 = .text k :=
    List.forall_mem_map.2 fun _ _ => ⟨_, rfl⟩
  have henv : SetsExactly masked.environment := by
    refine ⟨fun v hv f h => ?_, by decide +kernel, fun text h => ?_⟩
    · obtain rfl := List.mem_singleton.1 hv
      cases f <;> first | rfl | exact absurd h (by decide +kernel)
    · have hnone : Project.valueOf masked.environment Field.command.variableName = none := by
        decide +kernel
      cases hnone.symm.trans h
  have hmasked : masked.FoundIn maskedWorkspace ∧ masked.IsPlain :=
    ⟨⟨nofun, _, contents_maskedWorkspace (by decide +kernel)⟩, henv, hkeys⟩
  have hfind : Project.find empty masked.environment .current = .ok none := by decide +kernel
  have hbare : bare.FoundIn empty ∧ bare.IsPlain := by
    refine ⟨⟨nofun, none, ?_⟩, henv, nofun⟩
    simp only [bare, masked, Project.contents, hfind]
    rfl
  have hbroken : broken.FoundIn maskedWorkspace ∧ broken.IsPlain :=
    ⟨⟨nofun, _, contents_maskedWorkspace (by decide +kernel)⟩, ⟨nofun, by rfl, nofun⟩, hkeys⟩
  have hload : load maskedWorkspace masked.environment masked.request = .ok s := by decide +kernel
  have hoverride : overrideOf masked.request.overrides .logLevel = some (.text "DEBUG") := rfl
  have hvariable : variableOf masked.environment .workers = some (.text "3") := rfl
  obtain ⟨-, hok, -⟩ := load_precedence hmasked.1 hmasked.2
  obtain ⟨hvalid, hothers⟩ := hok s hload
  refine ⟨hmasked, hbare, hbroken, hload, hvalid, fun s' hs' => ?_, ?_⟩
  · obtain ⟨hsame, -⟩ := hothers empty bare hbare.1 hbare.2
    exact ⟨hsame s' hs' .workers ⟨rfl, fun _ => ⟨rfl, fun h => nomatch hvariable.symm.trans h⟩⟩,
      hsame s' hs' .logLevel ⟨rfl, fun h => nomatch hoverride.symm.trans h⟩⟩
  · obtain ⟨hiff, -, hfails⟩ := load_precedence hbroken.1 hbroken.2
    have hinvalid (f : Field) (hnot : (validated f (broken.raw f)).isOk = false) (x : Raw) :
        validated f (broken.raw f) ≠ .ok x :=
      fun h => nomatch (congrArg Except.isOk h).symm.trans hnot
    have hworkers := hinvalid .workers (by decide +kernel)
    have hlogLevel := hinvalid .logLevel (by decide +kernel)
    cases hbad : load maskedWorkspace broken.environment broken.request with
    | ok t =>
      obtain ⟨x, hx⟩ := (hiff.1 ⟨t, hbad⟩).1 .workers
      exact absurd hx (hworkers x)
    | error e =>
      obtain ⟨-, hnames, -⟩ := hfails e hbad
      exact ⟨e, rfl, hnames .workers hworkers, hnames .logLevel hlogLevel⟩

end TypeWeave.Settings
