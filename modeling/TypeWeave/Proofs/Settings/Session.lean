import TypeWeave.Proofs.Settings.Precedence
import TypeWeave.Proofs.Text.LetterCase

/-!
# Sessions

A session keeps the variables and the project file that is named for the load that is going on. Loads
and calls for the defaults leave it as it was, whether they succeed or fail, so that what comes of one
does not depend on those before it. Once the variables of this program are set aside no field is told
anything, in whatever letter case names are read, so that the defaults stay what they are. Main
statements: `load_eq_of_environment`, `fst_defaults` and `play_independent`.
-/

namespace TypeWeave.Settings

/-- A variable whose name in lower case starts as those for fields do is one of this program's. -/
theorem Session.isOwn_of_isPrefix_lowerName {name : String}
    (h : variableLead.toList <+: (lowerName name).toList) : isOwn name = true := by
  have hlead : ∀ d ∈ variableLead.toList, d.toNat < 128 ∧ d ∉ ['\x00', 'i', 'k'] := by
    simp [variableLead]
  rw [lowerName, String.toList_ofList] at h
  exact List.isPrefixOf_iff_prefix.2 (Text.map_toUpper_isPrefix_upper hlead h)

/-- Variables of which none is this program's. -/
def IsForeign (env : Project.Environment) : Prop := ∀ v ∈ env, Session.isOwn v.1 = false

theorem isForeign_filter (env : Project.Environment) :
    IsForeign (env.filter fun v => !Session.isOwn v.1) := by
  intro v hv
  simpa using (List.mem_filter.1 hv).2

namespace IsForeign

variable {env : Project.Environment} (h : IsForeign env)
include h

/-- Without the variables of this program no name starts as those for fields do, in any letter
case. -/
theorem not_isPrefix_of_mem {v : String × String} (hv : v ∈ lowered env) :
    ¬variableLead.toList <+: v.1.toList := by
  obtain ⟨w, hw, rfl⟩ := List.mem_map.1 hv
  intro hlead
  have hown := Session.isOwn_of_isPrefix_lowerName hlead
  rw [h w hw] at hown
  cases hown

theorem valueOf_eq_none (n : String) : Project.valueOf (lowered env) (variableLead ++ n) = none := by
  refine List.lookup_eq_none_iff.2 fun v hv => ?_
  have hlead := h.not_isPrefix_of_mem (List.mem_reverse.1 hv)
  rw [bne_iff_ne]
  intro hname
  rw [← hname, String.toList_append] at hlead
  exact hlead (List.prefix_append _ _)

theorem hasParts_eq_false (f : Field) : hasParts (lowered env) f = false := by
  refine List.any_eq_false.2 fun v hv hparts => h.not_isPrefix_of_mem hv ?_
  rw [String.startsWith_string_iff, String.append_assoc, String.toList_append] at hparts
  exact (List.prefix_append _ _).trans hparts

/-- The variables of other programs tell nothing about a field. -/
theorem variableFor_eq (f : Field) : variableFor (lowered env) f = .ok none := by
  have hnone := h.valueOf_eq_none f.name
  cases f
  case command => rw [variableFor, listVariable, hnone, h.hasParts_eq_false]; rfl
  all_goals exact congrArg (fun text => Except.ok (Option.map Yaml.Value.text text)) hnone

/-- With the variables of other programs alone every field has its default. -/
theorem ofSources_eq : ofSources [] env [] = .ok {} := by
  obtain ⟨given, hgiven, htold⟩ := exists_ofEnvironment_eq_ok h.variableFor_eq
  have hsettings : (Sources.mk [] given []).settings = .ok {} := by
    refine (Sources.settings_eq_ok_iff _).2 ⟨fun f => ?_, fun n hn => ?_⟩
    · rw [Sources.raw, Sources.effective, htold f]
      exact validated_get accepted_default f
    · simpa using ((Sources.mem_unknown_iff _).1 hn).1
  simp only [ofSources, hgiven, ofEntries, bind, Except.bind]
  exact hsettings

end IsForeign

section Device

variable {ws : File.Workspace} {p : File.Path} (h : ws.probe p = .ok .device)
include h

/-- A device is no regular file. -/
theorem isFile_of_device : ws.isFile p = .ok false := by
  unfold File.Workspace.isFile File.Workspace.test
  rw [h]
  split <;> rfl

/-- Nothing is read from a device as a project file. -/
theorem contents_of_device (env : Project.Environment) :
    Project.contents ws env (some p) = .ok {} := by
  simp only [Project.contents, pure_bind, isFile_of_device h]
  rfl

end Device

namespace Session

variable (s : Session) (ws : File.Workspace)

/-- A load depends on the variables alone, and not on the project file that is named before it. It
leaves the session as it was. -/
theorem load_eq_of_environment (r : Request) :
    s.load ws r = (Settings.load ws s.environment r, s) := by
  unfold Settings.load load
  cases r.file with
  | none => rfl
  | some p =>
    dsimp only
    cases (ws.pathExists p).mapError Fault.file with
    | error f => rfl
    | ok isThere => cases isThere <;> rfl

/-- A call for the defaults is a load without the variables of this program and with a project file
that holds nothing. It leaves the session as it was. -/
theorem defaults_eq : s.defaults ws =
    (Settings.load ws (s.environment.filter fun v => !isOwn v.1) { file := some nowhere }, s) := by
  simp only [defaults, load_eq_of_environment]

/-- The defaults are those of all fields, whatever the variables and the project files say. -/
theorem fst_defaults {ws : File.Workspace} (h : ws.probe nowhere = .ok .device) :
    (s.defaults ws).1 = .ok {} := by
  have hexists : ws.pathExists nowhere = .ok true := by
    have htext : nowhere.text.toList.contains '\x00' = false := by decide
    rw [File.Workspace.pathExists, File.Workspace.test, htext, h]
    rfl
  have hthere : ∀ p, some nowhere = some p → ws.pathExists p = .ok true := by
    rintro p ⟨⟩
    exact hexists
  rw [defaults_eq, load_eq hthere, contents_of_device h]
  exact (isForeign_filter s.environment).ofSources_eq

/-- What is called for in a session. -/
inductive Call where
  | load (r : Request)
  | defaults

/-- What comes of a call, and the session after it. -/
def answer (c : Call) : Except Fault Settings × Session :=
  match c with
  | .load r => s.load ws r
  | .defaults => s.defaults ws

/-- What comes of calls one after the other, with the session after each. -/
def play (ws : File.Workspace) (s : Session) : List Call → List (Except Fault Settings × Session)
  | [] => []
  | c :: cs => s.answer ws c :: play ws (s.answer ws c).2 cs

/-- A session with the same variables in which nothing has been called for. -/
def fresh : Session := { environment := s.environment }

/-- What comes of a call is what comes of it in a fresh session, and the session stays as it was. -/
theorem answer_eq (c : Call) : s.answer ws c = ((s.fresh.answer ws c).1, s) := by
  cases c with
  | load r => simp only [answer, load_eq_of_environment, fresh]
  | defaults => simp only [answer, defaults_eq, fresh]

/-- Calls do not depend on one another: each of them gives what it gives as the only one, and the
session after it is the one before it, whether it succeeds or fails. A call for the defaults gives
the defaults of all fields, whatever the variables and the project files say. -/
theorem play_independent (cs : List Call) :
    s.play ws cs = cs.map (fun c => ((s.fresh.answer ws c).1, s)) ∧
      (ws.probe nowhere = .ok .device → (s.defaults ws).1 = .ok {}) := by
  refine ⟨?_, s.fst_defaults⟩
  induction cs with
  | nil => rfl
  | cons c cs ih => rw [play, s.answer_eq ws c, ih, List.map_cons]

/-- A workspace with a place that holds nothing and with a project file. -/
def nulledWorkspace : File.Workspace where
  tree := ⟨[(["dev"], .directory), (["dev", "null"], .device), (["embedgen.yaml"],
    .file (Text.Utf8.encode "workers: 4\nformatter: check\n".toList))]⟩
  here := []

/-- A load that fails leaves no trace, and neither does a call for the defaults, which stay as they
are although a load of the same file finds a variable in mixed case. -/
theorem play_independent_nulledWorkspace :
    let missing : File.Path := ⟨.relative, ["missing.yaml"]⟩
    let s : Session :=
      { environment := [("Embedgen_Workers", "8"), ("HOME", "/")], named := some missing }
    nulledWorkspace.probe nowhere = .ok .device ∧
      s.play nulledWorkspace
          [.load { file := some missing }, .defaults, .load { file := some nowhere }, .defaults] =
        [(.error (.missing missing), s), (.ok {}, s), (.ok { workers := 8 }, s), (.ok {}, s)] := by
  intro missing s
  have hdevice : nulledWorkspace.probe nowhere = .ok .device := rfl
  obtain ⟨hplay, -⟩ := play_independent s nulledWorkspace
    [.load { file := some missing }, .defaults, .load { file := some nowhere }, .defaults]
  obtain ⟨-, hdefaults⟩ := play_independent s.fresh nulledWorkspace []
  have hmissing : (s.fresh.load nulledWorkspace { file := some missing }).1 =
      .error (.missing missing) := by decide
  have hload : (s.fresh.load nulledWorkspace { file := some nowhere }).1 =
      .ok { workers := 8 } := by decide
  refine ⟨hdevice, hplay.trans ?_⟩
  simp only [List.map_cons, List.map_nil, answer, hdefaults hdevice, hmissing, hload]

end Session

end TypeWeave.Settings
