import TypeWeave.Proofs.Settings.Values

/-!
# Sources of settings

What overrides, variables and the entries of a project file say about a field, and what comes of it:
each field is checked on its own, and the complaints of all of them are gathered. Main statements:
`settings_eq_ok_iff` and `settings_eq_error` for what the sources give together, and
`lookup_ofOverrides`, `exists_ofEnvironment_eq_ok` and `ofEntries_eq_ok_iff` for each of them.
-/

namespace TypeWeave.Settings

/-- The complaints about a raw value of a field. -/
def complaints (f : Field) (v : Raw) : List Complaint :=
  match validated f v with
  | .ok _ => []
  | .error cs => cs

theorem complaints_eq_nil_iff {f : Field} {v : Raw} :
    complaints f v = [] ↔ ∃ x, validated f v = .ok x := by
  unfold complaints
  cases h : validated f v with
  | ok x => simp
  | error cs => simpa using (path_of_validated h).1

namespace Sources

variable (s : Sources)

/-- The raw value of a field: what the sources give, or else the default. -/
def raw (f : Field) : Raw := (s.effective f).getD (({} : Settings).get f)

/-- Looking at a field adds the complaints about its raw value. -/
theorem complaints_apply (acc : Settings × List Complaint) (f : Field) :
    (s.apply acc f).2 = acc.2 ++ complaints f (s.raw f) := by
  unfold apply raw
  cases s.effective f with
  | none =>
    have hdefault := validated_get accepted_default f
    simp [complaints, hdefault]
  | some v =>
    dsimp only [Option.getD_some]
    cases hput : put acc.1 f v with
    | ok t => simp [complaints, (put_eq_ok_iff.1 hput).1]
    | error cs => simp [complaints, put_eq_error_iff.1 hput]

/-- Looking at a field leaves the other fields. -/
theorem get_apply_of_ne (acc : Settings × List Complaint) {f g : Field} (h : g ≠ f) :
    (s.apply acc f).1.get g = acc.1.get g := by
  unfold apply
  cases s.effective f with
  | none => rfl
  | some v =>
    dsimp only
    cases hput : put acc.1 f v with
    | ok t => exact (put_eq_ok_iff.1 hput).2 g h
    | error cs => rfl

/-- Looking at a field that has its default sets it to its raw value once checked. -/
theorem get_apply_self {acc : Settings × List Complaint} {f : Field}
    (hacc : acc.1.get f = ({} : Settings).get f) {x : Raw} (hx : validated f (s.raw f) = .ok x) :
    (s.apply acc f).1.get f = x := by
  unfold raw at hx
  unfold apply
  cases he : s.effective f with
  | none =>
    rw [he, Option.getD_none, validated_get accepted_default] at hx
    exact hacc.trans (Except.ok.inj hx)
  | some v =>
    rw [he, Option.getD_some] at hx
    dsimp only
    cases hput : put acc.1 f v with
    | ok t => exact Except.ok.inj ((put_eq_ok_iff.1 hput).1.symm.trans hx)
    | error cs => exact nomatch (put_eq_error_iff.1 hput).symm.trans hx

/-- Looking at several fields, one after the other, is looking at each of them. -/
theorem foldl_apply {fs : List Field} (hfs : fs.Nodup) (acc : Settings × List Complaint) :
    (fs.foldl s.apply acc).2 = acc.2 ++ fs.flatMap (fun f => complaints f (s.raw f)) ∧
      (∀ g ∉ fs, (fs.foldl s.apply acc).1.get g = acc.1.get g) ∧
      ∀ g ∈ fs, acc.1.get g = ({} : Settings).get g → ∀ x, validated g (s.raw g) = .ok x →
        (fs.foldl s.apply acc).1.get g = x := by
  induction fs generalizing acc with
  | nil => simp
  | cons f fs ih =>
    obtain ⟨hf, hfs⟩ := List.nodup_cons.1 hfs
    obtain ⟨hcomplaints, hothers, hown⟩ := ih hfs (s.apply acc f)
    rw [List.foldl_cons]
    refine ⟨?_, fun g hg => ?_, fun g hg hacc x hx => ?_⟩
    · rw [hcomplaints, s.complaints_apply, List.append_assoc, List.flatMap_cons]
    · rw [List.mem_cons, not_or] at hg
      rw [hothers g hg.2, s.get_apply_of_ne acc hg.1]
    · by_cases hgf : g = f
      · subst hgf
        rw [hothers g hf, s.get_apply_self hacc hx]
      · have hmem := (List.mem_cons.1 hg).resolve_left hgf
        exact hown g hmem (by rw [s.get_apply_of_ne acc hgf, hacc]) x hx

/-- A name counts as unknown when a source gives it and no field has it. -/
theorem mem_unknown_iff {n : String} : n ∈ s.unknown ↔
    (n ∈ s.file.map Prod.fst ∨ n ∈ s.overrides.map Prod.fst) ∧ Field.ofName? n = none := by
  simp [unknown, List.mem_filter, List.mem_eraseDups, Option.isNone_iff_eq_none]

/-- All that is wrong with what the sources give. -/
def allComplaints : List Complaint :=
  Field.all.flatMap (fun f => complaints f (s.raw f)) ++
    s.unknown.map fun n => ⟨[n], "Extra inputs are not permitted"⟩

/-- Nothing is wrong when every raw value passes its check and every name is known. -/
theorem allComplaints_eq_nil_iff : s.allComplaints = [] ↔
    (∀ f, ∃ x, validated f (s.raw f) = .ok x) ∧ ∀ n, n ∉ s.unknown := by
  rw [allComplaints, List.append_eq_nil_iff, List.flatMap_eq_nil_iff, List.map_eq_nil_iff,
    List.eq_nil_iff_forall_not_mem]
  refine and_congr_left fun _ => ?_
  exact ⟨fun h f => complaints_eq_nil_iff.1 (h f f.mem_all),
    fun h f _ => complaints_eq_nil_iff.2 (h f)⟩

theorem settings_eq : s.settings =
    if s.allComplaints.isEmpty then .ok (Field.all.foldl s.apply ({}, [])).1
    else .error (.invalid s.allComplaints) := by
  have hall := (s.foldl_apply (by decide : Field.all.Nodup) ({}, [])).1
  rw [List.nil_append] at hall
  unfold settings allComplaints
  rw [← hall]

/-- The sources give settings exactly when each field is its checked raw value and no name is
unknown. -/
theorem settings_eq_ok_iff {t : Settings} : s.settings = .ok t ↔
    (∀ f, validated f (s.raw f) = .ok (t.get f)) ∧ ∀ n, n ∉ s.unknown := by
  obtain ⟨-, -, hown⟩ := s.foldl_apply (by decide : Field.all.Nodup) ({}, [])
  rw [settings_eq]
  constructor
  · intro h
    split at h
    · rename_i hempty
      obtain ⟨hvalid, hknown⟩ := s.allComplaints_eq_nil_iff.1 (List.isEmpty_iff.1 hempty)
      refine ⟨fun f => ?_, hknown⟩
      obtain ⟨x, hx⟩ := hvalid f
      rw [hx, ← Except.ok.inj h, hown f f.mem_all rfl x hx]
    · cases h
  · rintro ⟨hvalid, hknown⟩
    have hnil := s.allComplaints_eq_nil_iff.2 ⟨fun f => ⟨_, hvalid f⟩, hknown⟩
    rw [if_pos (List.isEmpty_iff.2 hnil)]
    exact congrArg Except.ok (ext_get fun f => hown f f.mem_all rfl _ (hvalid f))

/-- The sources give settings when every raw value passes its check and every name is known. -/
theorem exists_settings_eq_ok_iff : (∃ t, s.settings = .ok t) ↔
    (∀ f, ∃ x, validated f (s.raw f) = .ok x) ∧ ∀ n, n ∉ s.unknown := by
  rw [← allComplaints_eq_nil_iff, settings_eq]
  cases hnil : s.allComplaints <;> simp

/-- The sources fail with all that is wrong with them. -/
theorem settings_eq_error {e : Fault} (h : s.settings = .error e) :
    e = .invalid s.allComplaints := by
  rw [settings_eq] at h
  split at h
  · cases h
  · exact (Except.error.inj h).symm

end Sources

/-- The overrides that are given, under the names that they have; a null counts as not given. -/
def given (overrides : List (String × Json.Value)) : Given :=
  overrides.filterMap fun (k, v) =>
    match v with
    | .null => none
    | v => some (k, rawOfJson v)

theorem mem_given_iff {overrides : List (String × Json.Value)} {n : String} :
    n ∈ (given overrides).map Prod.fst ↔ ∃ v, (n, v) ∈ overrides ∧ v ≠ .null := by
  simp only [given, List.mem_map, List.mem_filterMap]
  constructor
  · rintro ⟨⟨k, x⟩, ⟨⟨k', v⟩, hmem, hx⟩, rfl⟩
    cases v <;> cases hx <;> exact ⟨_, hmem, nofun⟩
  · rintro ⟨v, hmem, hv⟩
    refine ⟨(n, rawOfJson v), ⟨(n, v), hmem, ?_⟩, rfl⟩
    cases v <;> first | rfl | exact absurd rfl hv

/-- The override of a field: the one under its name, or else the first one under its name in another
letter case. -/
def overrideOf (overrides : List (String × Json.Value)) (f : Field) : Option Raw :=
  ((given overrides).lookup f.name).or
    (((given overrides).find? fun e => Field.ofAnyCase? e.1 == some f).map Prod.snd)

/-- Whether a name is one of a field as it is written. -/
private def isExact (e : String × Raw) : Bool := (Field.ofName? e.1).isSome

/-- An override under a name in another letter case, put under the name of its field unless that is
given already. -/
private def renamed (exact : Given) (e : String × Raw) : Option (String × Raw) :=
  match Field.ofAnyCase? e.1 with
  | some f => if (exact.lookup f.name).isSome then none else some (f.name, e.2)
  | none => some e

private theorem ofOverrides_eq (overrides : List (String × Json.Value)) :
    ofOverrides overrides = (given overrides).filter isExact ++
      ((given overrides).filter fun e => !isExact e).filterMap
        (renamed ((given overrides).filter isExact)) := by
  have hparts : ofOverrides overrides = ((given overrides).partition isExact).1 ++
      ((given overrides).partition isExact).2.filterMap
        (renamed ((given overrides).partition isExact).1) := rfl
  rw [hparts, List.partition_eq_filter_filter]
  rfl

/-- Names that are exactly those of fields are looked up among those alone. -/
private theorem lookup_filter_isExact (l : Given) (f : Field) :
    (l.filter isExact).lookup f.name = l.lookup f.name := by
  induction l with
  | nil => rfl
  | cons e l ih =>
    obtain ⟨k, v⟩ := e
    by_cases hk : f.name = k
    · subst hk
      have hexact : isExact (f.name, v) = true := by
        rw [isExact, Field.ofName?_eq_some_iff.2 rfl, Option.isSome_some]
      rw [List.filter_cons_of_pos hexact, List.lookup_cons_self, List.lookup_cons_self]
    · rw [List.filter_cons]
      split
      · simp only [List.lookup_cons, beq_eq_false_iff_ne.2 hk, ih]
      · simp only [List.lookup_cons, beq_eq_false_iff_ne.2 hk, ih]

/-- Without an override under the name of a field, the first one in another letter case counts. -/
private theorem lookup_renamed {exact l : Given} {f : Field} (hexact : exact.lookup f.name = none)
    (hl : l.lookup f.name = none) :
    ((l.filter fun e => !isExact e).filterMap (renamed exact)).lookup f.name =
      (l.find? fun e => Field.ofAnyCase? e.1 == some f).map Prod.snd := by
  induction l with
  | nil => rfl
  | cons e l ih =>
    obtain ⟨k, v⟩ := e
    have hk : f.name ≠ k := by
      rintro rfl
      rw [List.lookup_cons_self] at hl
      cases hl
    rw [List.lookup_cons, beq_eq_false_iff_ne.2 hk] at hl
    have ih := ih hl
    cases hname : Field.ofName? k with
    | some g =>
      obtain rfl := Field.ofName?_eq_some_iff.1 hname
      have hne : g ≠ f := fun h => hk (congrArg Field.name h).symm
      have hg : isExact (g.name, v) = true := by rw [isExact, hname, Option.isSome_some]
      rw [List.filter_cons_of_neg (by simp [hg]),
        List.find?_cons_of_neg (by simpa [Field.ofAnyCase?_name] using hne), ih]
    | none =>
      have hg : isExact (k, v) = false := by rw [isExact, hname, Option.isSome_none]
      rw [List.filter_cons_of_pos (by simp [hg]), List.filterMap_cons]
      cases hcase : Field.ofAnyCase? k with
      | none =>
        have hrenamed : renamed exact (k, v) = some (k, v) := by simp [renamed, hcase]
        rw [hrenamed, List.find?_cons_of_neg (by simp [hcase])]
        simp only [List.lookup_cons, beq_eq_false_iff_ne.2 hk, ih]
      | some g =>
        by_cases hgf : g = f
        · subst hgf
          have hrenamed : renamed exact (k, v) = some (g.name, v) := by
            simp [renamed, hcase, hexact]
          rw [hrenamed, List.find?_cons_of_pos (by simp [hcase])]
          simp
        · rw [List.find?_cons_of_neg (by simpa [hcase] using hgf)]
          have hne : f.name ≠ g.name := fun h => hgf (Field.name_injective h).symm
          cases hgiven : exact.lookup g.name with
          | some x =>
            have hrenamed : renamed exact (k, v) = none := by simp [renamed, hcase, hgiven]
            rw [hrenamed, ih]
          | none =>
            have hrenamed : renamed exact (k, v) = some (g.name, v) := by
              simp [renamed, hcase, hgiven]
            rw [hrenamed]
            simp only [List.lookup_cons, beq_eq_false_iff_ne.2 hne, ih]

/-- What the overrides say about a field. -/
theorem lookup_ofOverrides (overrides : List (String × Json.Value)) (f : Field) :
    (ofOverrides overrides).lookup f.name = overrideOf overrides f := by
  rw [ofOverrides_eq, List.lookup_append, lookup_filter_isExact, overrideOf]
  cases h : (given overrides).lookup f.name with
  | some v => rfl
  | none =>
    rw [lookup_renamed (by rw [lookup_filter_isExact, h]) h]

/-- The names of overrides that are not those of fields are those that no field has in any letter
case. -/
theorem mem_ofOverrides_iff {overrides : List (String × Json.Value)} {n : String}
    (hn : Field.ofName? n = none) :
    n ∈ (ofOverrides overrides).map Prod.fst ↔
      n ∈ (given overrides).map Prod.fst ∧ Field.ofAnyCase? n = none := by
  rw [ofOverrides_eq, List.map_append, List.mem_append]
  constructor
  · rintro (h | h)
    · obtain ⟨e, he, rfl⟩ := List.mem_map.1 h
      have hexact := (List.mem_filter.1 he).2
      rw [isExact, hn] at hexact
      cases hexact
    · obtain ⟨e', he', rfl⟩ := List.mem_map.1 h
      obtain ⟨e, he, hrenamed⟩ := List.mem_filterMap.1 he'
      have hmem := List.mem_map_of_mem (f := Prod.fst) (List.mem_filter.1 he).1
      unfold renamed at hrenamed
      split at hrenamed
      · rename_i f _
        split at hrenamed
        · cases hrenamed
        · cases hrenamed
          rw [Field.ofName?_eq_some_iff.2 rfl] at hn
          cases hn
      · rename_i hcase
        cases hrenamed
        exact ⟨hmem, hcase⟩
  · rintro ⟨h, hcase⟩
    obtain ⟨e, he, rfl⟩ := List.mem_map.1 h
    have hexact : isExact e = false := by rw [isExact, hn, Option.isSome_none]
    refine Or.inr (List.mem_map_of_mem (List.mem_filterMap.2 ⟨e, ?_, ?_⟩))
    · exact List.mem_filter.2 ⟨he, by simp [hexact]⟩
    · simp [renamed, hcase]

/-- The variable of a field. -/
def Field.variableName : Field → String
  | .outputName => "EMBEDGEN_OUTPUT_FILENAME"
  | .templateSuffix => "EMBEDGEN_TEMPLATE_SUFFIX"
  | .formatter => "EMBEDGEN_FORMATTER"
  | .command => "EMBEDGEN_GOFMT_COMMAND"
  | .workers => "EMBEDGEN_WORKERS"
  | .logLevel => "EMBEDGEN_LOG_LEVEL"

/-- A name in lower case. -/
def lowerName (name : String) : String := String.ofList (Text.lower name.toList)

/-- The text of a variable as a raw value: JSON text for a list, else as it is. -/
def readVariable (f : Field) (text : String) : Option Raw :=
  match f with
  | .command => (Json.Reader.read? text.toList).map rawOfJson
  | _ => some (.text text)

/-- What the variable of a field says. -/
def variableOf (env : Project.Environment) (f : Field) : Option Raw :=
  (Project.valueOf env f.variableName).bind (readVariable f)

/-- Variables that set fields, and not parts of them, by the exact names of their variables, to
values that can be read and are no nulls. -/
structure SetsExactly (env : Project.Environment) : Prop where
  names : ∀ v ∈ env, ∀ f : Field, lowerName v.1 = variableLead ++ f.name → v.1 = f.variableName
  whole : hasParts (lowered env) .command = false
  readable : ∀ text, Project.valueOf env Field.command.variableName = some text →
    ∃ v, Json.Reader.read? text.toList = some v ∧ v ≠ .null

theorem lowerName_variableName (f : Field) : lowerName f.variableName = variableLead ++ f.name := by
  cases f <;> decide +kernel

/-- Of variables under other names, the one that is wanted is found under its other name. -/
private theorem lookup_map_name {rename : String → String} {vars : List (String × String)}
    {n n' : String} (h : ∀ v ∈ vars, n' = rename v.1 ↔ n = v.1) :
    (vars.map fun v => (rename v.1, v.2)).lookup n' = vars.lookup n := by
  induction vars with
  | nil => rfl
  | cons v vars ih =>
    obtain ⟨hv, hvars⟩ := List.forall_mem_cons.1 h
    have hbeq : (n' == rename v.1) = (n == v.1) := Bool.eq_iff_iff.2 (by simpa using hv)
    rw [List.map_cons, List.lookup_cons, List.lookup_cons, hbeq, ih hvars]

theorem valueOf_lowered {env : Project.Environment} (henv : SetsExactly env) (f : Field) :
    Project.valueOf (lowered env) (variableLead ++ f.name) = Project.valueOf env f.variableName := by
  have hmap : lowered env = env.map fun v => (lowerName v.1, v.2) := rfl
  rw [Project.valueOf, Project.valueOf, hmap, ← List.map_reverse]
  refine lookup_map_name fun v hv => ?_
  rw [List.mem_reverse] at hv
  constructor
  · intro h
    exact (henv.names v hv f h.symm).symm
  · intro h
    rw [← h, lowerName_variableName]

theorem variableFor_lowered {env : Project.Environment} (henv : SetsExactly env) (f : Field) :
    variableFor (lowered env) f = .ok (variableOf env f) := by
  have hvalue := valueOf_lowered henv f
  cases f
  case command =>
    rw [variableFor, listVariable, hvalue, henv.whole, variableOf]
    cases htext : Project.valueOf env Field.command.variableName with
    | none => rfl
    | some text =>
      obtain ⟨v, hv, hnull⟩ := henv.readable text htext
      simp only [Option.bind_some, readVariable, hv, Option.map_some]
  all_goals
    refine (congrArg (fun text => Except.ok (Option.map Yaml.Value.text text)) hvalue).trans ?_
    rw [Option.map_eq_bind]
    rfl

/-- Each field is found with what is told about it. -/
private theorem lookup_filterMap_name (told : Field → Option Raw) (fs : List Field) (g : Field) :
    (fs.filterMap fun f => (told f).map fun v => (f.name, v)).lookup g.name =
      if g ∈ fs then told g else none := by
  induction fs with
  | nil => rfl
  | cons f fs ih =>
    by_cases hgf : g = f
    · subst hgf
      rw [if_pos List.mem_cons_self]
      cases htold : told g with
      | none => rw [List.filterMap_cons, htold, Option.map_none, ih, htold, ite_self]
      | some v => rw [List.filterMap_cons, htold, Option.map_some, List.lookup_cons_self]
    · have hne : g.name ≠ f.name := fun h => hgf (Field.name_injective h)
      have hmem : g ∈ f :: fs ↔ g ∈ fs := by simp [hgf]
      rw [List.filterMap_cons, if_congr hmem rfl rfl, ← ih]
      cases told f with
      | none => rfl
      | some v => simp [List.lookup_cons, beq_eq_false_iff_ne.2 hne]

/-- Variables that tell something about every field give it under the names of the fields. -/
theorem exists_ofEnvironment_eq_ok {env : Project.Environment} {told : Field → Option Raw}
    (h : ∀ f, variableFor (lowered env) f = .ok (told f)) :
    ∃ given, ofEnvironment env = .ok given ∧ ∀ f, given.lookup f.name = told f := by
  refine ⟨Field.all.filterMap fun f => (told f).map fun v => (f.name, v), ?_, fun f => ?_⟩
  · unfold ofEnvironment
    simp only [h]
    rfl
  · rw [lookup_filterMap_name, if_pos f.mem_all]

/-- Only the variable for a list can fail. -/
private theorem ofEnvironment_eq_error_iff_listVariable {env : Project.Environment} {e : Fault} :
    ofEnvironment env = .error e ↔ listVariable (lowered env) .command = .error e := by
  cases hlist : listVariable (lowered env) .command with
  | error e' =>
    have hfail : ofEnvironment env = .error e' := by
      simp only [ofEnvironment, Field.all, List.mapM_cons, variableFor, hlist]
      rfl
    rw [hfail, Except.error.injEq, Except.error.injEq]
  | ok x =>
    have htold (f : Field) : variableFor (lowered env) f = .ok (match f with
        | .command => x
        | f => (Project.valueOf (lowered env) (variableLead ++ f.name)).map .text) := by
      cases f <;> first | exact hlist | rfl
    obtain ⟨given, hgiven, -⟩ := exists_ofEnvironment_eq_ok htold
    rw [hgiven]
    exact iff_of_false nofun nofun

/-- The variables fail when one that sets a list, under a name in any letter case, is no JSON. -/
theorem ofEnvironment_eq_error_iff {env : Project.Environment} {e : Fault} :
    ofEnvironment env = .error e ↔ e = .variable .command ∧ ∃ text,
      Project.valueOf (lowered env) (variableLead ++ Field.command.name) = some text ∧
      Json.Reader.read? text.toList = none := by
  rw [ofEnvironment_eq_error_iff_listVariable, listVariable]
  cases Project.valueOf (lowered env) (variableLead ++ Field.command.name) with
  | none => simp
  | some text =>
    cases hread : Json.Reader.read? text.toList with
    | none => simp [hread, eq_comm]
    | some v => cases v <;> simp [hread]

/-- The entries of a file are read when their keys are texts. -/
theorem ofEntries_eq_ok_iff {entries : List (Raw × Raw)} {given : Given} :
    ofEntries entries = .ok given ↔ entries = given.map fun e => (.text e.1, e.2) := by
  induction entries generalizing given with
  | nil => cases given <;> simp [ofEntries]
  | cons entry entries ih =>
    obtain ⟨k, v⟩ := entry
    cases k
    case text k =>
      rw [ofEntries, Except.map_eq_ok]
      constructor
      · rintro ⟨rest, hrest, rfl⟩
        rw [List.map_cons, ← ih.1 hrest]
      · intro h
        cases given with
        | nil => cases h
        | cons e given =>
          obtain ⟨hkey, hrest⟩ := List.cons.inj h
          cases hkey
          exact ⟨given, ih.2 hrest, rfl⟩
    all_goals
      refine iff_of_false nofun fun h => ?_
      cases given <;> cases h

/-- The entries of a file fail at a key that is no text. -/
theorem ofEntries_eq_error_iff {entries : List (Raw × Raw)} {e : Fault} :
    ofEntries entries = .error e ↔ e = .keyNotText ∧ ∃ entry ∈ entries, ∀ k, entry.1 ≠ .text k := by
  induction entries with
  | nil => simp [ofEntries]
  | cons entry entries ih =>
    obtain ⟨k, v⟩ := entry
    cases k
    case text k =>
      rw [ofEntries]
      cases hrest : ofEntries entries with
      | ok given => simpa [Except.map, hrest] using ih
      | error e' => simpa [Except.map, hrest] using ih
    all_goals simp [ofEntries, eq_comm]

/-- Entries whose keys are texts are read. -/
theorem exists_ofEntries_eq_ok {entries : List (Raw × Raw)}
    (h : ∀ entry ∈ entries, ∃ k, entry.1 = .text k) : ∃ given, ofEntries entries = .ok given := by
  cases hread : ofEntries entries with
  | ok given => exact ⟨given, rfl⟩
  | error e =>
    obtain ⟨-, entry, hentry, hkey⟩ := ofEntries_eq_error_iff.1 hread
    obtain ⟨k, hk⟩ := h entry hentry
    exact absurd hk (hkey k)

/-- What the entries with texts for keys tell about a name is found under it. -/
theorem lookup_map_text (given : Given) (n : String) :
    Project.lookup (given.map fun e => (.text e.1, e.2)) n = given.lookup n := by
  induction given with
  | nil => rfl
  | cons e given ih =>
    have hkey : (Yaml.Value.text e.1).sameKey (.text n) = (n == e.1) := Bool.beq_comm
    rw [Project.lookup] at ih ⊢
    rw [List.map_cons, List.find?_cons, List.lookup_cons]
    dsimp only
    rw [hkey]
    cases n == e.1 with
    | true => rfl
    | false => exact ih

end TypeWeave.Settings
