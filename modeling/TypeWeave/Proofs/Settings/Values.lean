import TypeWeave.Proofs.Generation.Accepted
import TypeWeave.Settings.Load

/-!
# Values of fields

A raw value is checked for its field alone: the checked value is put into the field, the other
fields stay, and a complaint about it names the field. Settings are their fields, and fields that
were checked pass their check as they are. Main statements: `put_eq_ok_iff`, `put_eq_error_iff`,
`path_of_validated` and `validated_get`.
-/

namespace TypeWeave.Settings

namespace Field

theorem mem_all (f : Field) : f ∈ all := by
  cases f <;> decide

/-- Fields have different names. -/
theorem name_injective : Function.Injective name := by
  intro f g h
  cases f <;> cases g <;> first | rfl | exact absurd h (by decide)

/-- A name is that of a field exactly when it is the name that the field has. -/
theorem ofName?_eq_some_iff {n : String} {f : Field} : ofName? n = some f ↔ n = f.name := by
  constructor
  · intro h
    have hname := List.find?_some h
    exact (beq_iff_eq.1 hname).symm
  · rintro rfl
    cases f <;> decide

/-- The name of a field is one in any letter case. -/
theorem ofAnyCase?_name (f : Field) : ofAnyCase? f.name = some f := by
  cases f <;> decide +kernel

/-- A name that no field has in any letter case is that of no field. -/
theorem ofName?_eq_none_of_ofAnyCase? {n : String} (h : ofAnyCase? n = none) : ofName? n = none := by
  cases hname : ofName? n with
  | none => rfl
  | some f =>
    rw [ofName?_eq_some_iff.1 hname, ofAnyCase?_name] at h
    cases h

end Field

/-- The value of a field. -/
def get (s : Settings) : Field → Raw
  | .outputName => .text s.outputName
  | .templateSuffix => .text s.templateSuffix
  | .formatter => .text s.formatter
  | .command => .list (s.command.map .text)
  | .workers => .int s.workers
  | .logLevel => .text s.logLevel

/-- Settings with one field taken from others. -/
def taking (s : Settings) (f : Field) (other : Settings) : Settings :=
  match f with
  | .outputName => { s with outputName := other.outputName }
  | .templateSuffix => { s with templateSuffix := other.templateSuffix }
  | .formatter => { s with formatter := other.formatter }
  | .command => { s with command := other.command }
  | .workers => { s with workers := other.workers }
  | .logLevel => { s with logLevel := other.logLevel }

/-- Settings are their fields. -/
theorem ext_get {s t : Settings} (h : ∀ f, s.get f = t.get f) : s = t := by
  have htext : Function.Injective (Yaml.Value.text) := fun _ _ h => by injection h
  obtain ⟨outputName, templateSuffix, formatter, command, workers, logLevel⟩ := s
  obtain ⟨outputName', templateSuffix', formatter', command', workers', logLevel'⟩ := t
  have hcommand : command = command' := by
    have := h .command
    simp only [get, Yaml.Value.list.injEq] at this
    exact htext.list_map this
  have hothers := And.intro (h .outputName) (And.intro (h .templateSuffix)
    (And.intro (h .formatter) (And.intro (h .workers) (h .logLevel))))
  simp only [get, Yaml.Value.text.injEq, Yaml.Value.int.injEq] at hothers
  obtain ⟨rfl, rfl, rfl, rfl, rfl⟩ := hothers
  rw [hcommand]

theorem get_taking_self (s : Settings) (f : Field) (other : Settings) :
    (s.taking f other).get f = other.get f := by
  cases f <;> rfl

theorem get_taking_of_ne (s : Settings) {f g : Field} (h : g ≠ f) (other : Settings) :
    (s.taking f other).get g = s.get g := by
  cases f <;> cases g <;> first | rfl | exact absurd rfl h

/-- The checked form of a raw value for a field, or the complaints about it. -/
def validated (f : Field) (v : Raw) : Except (List Complaint) Raw := (put {} f v).map (get · f)

/-- A raw value is checked whatever the settings are that it is put into. -/
theorem put_eq (s : Settings) (f : Field) (v : Raw) :
    put s f v = (put {} f v).map fun other => s.taking f other := by
  cases f
  case command =>
    simp only [put, bind, Except.bind, pure, Except.pure]
    cases readTexts [Field.command.name] v with
    | error cs => rfl
    | ok words =>
      dsimp only
      cases blame .command (checkCommand words) <;> rfl
  all_goals
    simp only [put]
    generalize blame _ _ = x
    cases x <;> rfl

/-- Putting a value into a field sets that field to the checked value and leaves the others. -/
theorem put_eq_ok_iff {s t : Settings} {f : Field} {v : Raw} :
    put s f v = .ok t ↔ validated f v = .ok (t.get f) ∧ ∀ g, g ≠ f → t.get g = s.get g := by
  rw [put_eq, validated]
  cases put {} f v with
  | error cs => exact iff_of_false nofun fun h => nomatch h.1
  | ok other =>
    have hself := get_taking_self s f other
    have hother {g : Field} (h : g ≠ f) := get_taking_of_ne s h other
    simp only [Except.map, Except.ok.injEq]
    constructor
    · rintro rfl
      exact ⟨hself.symm, fun g hg => hother hg⟩
    · rintro ⟨hf, hg⟩
      refine ext_get fun g => ?_
      by_cases h : g = f
      · rw [h, hself, hf]
      · rw [hother h, hg g h]

/-- A value that cannot be put into a field is complained about. -/
theorem put_eq_error_iff {s : Settings} {f : Field} {v : Raw} {cs : List Complaint} :
    put s f v = .error cs ↔ validated f v = .error cs := by
  rw [put_eq, validated]
  cases put {} f v <;> simp [Except.map]

/-- The complaints about items lie below the path of their list. -/
private theorem path_of_readItems {path : List String} {i : Nat} {vs : List Raw}
    {cs : List Complaint} (h : readItems path i vs = .error cs) :
    cs ≠ [] ∧ ∀ c ∈ cs, path <+: c.path := by
  induction vs generalizing i cs with
  | nil => cases h
  | cons v vs ih =>
    rw [readItems] at h
    split at h
    · cases h
    · rename_i hrest
      cases h
      exact ih hrest
    · cases h
      exact ⟨List.cons_ne_nil _ _, by simp⟩
    · rename_i hrest
      cases h
      exact ⟨List.cons_ne_nil _ _,
        List.forall_mem_cons.2 ⟨List.prefix_append _ _, (ih hrest).2⟩⟩

/-- What is blamed on a field has its name for a path. -/
private theorem path_of_blame {α : Type} {f : Field} {x : Checked α} {cs : List Complaint}
    (h : blame f x = .error cs) : cs ≠ [] ∧ ∀ c ∈ cs, [f.name] <+: c.path := by
  cases x with
  | ok a => cases h
  | error e =>
    cases h
    exact ⟨List.cons_ne_nil _ _, by simp⟩

/-- There is a complaint about a value that does not pass the check of its field, and every
complaint names the field. -/
theorem path_of_validated {f : Field} {v : Raw} {cs : List Complaint}
    (h : validated f v = .error cs) : cs ≠ [] ∧ ∀ c ∈ cs, [f.name] <+: c.path := by
  rw [← put_eq_error_iff (s := {})] at h
  cases f
  case command =>
    simp only [put, bind, Except.bind, pure, Except.pure] at h
    cases hread : readTexts [Field.command.name] v with
    | error cs' =>
      rw [hread] at h
      cases h
      unfold readTexts at hread
      split at hread
      · exact path_of_readItems hread
      · exact path_of_readItems hread
      · exact path_of_readItems hread
      · cases hread
        exact ⟨List.cons_ne_nil _ _, by simp⟩
    | ok words =>
      rw [hread] at h
      dsimp only at h
      cases hcheck : blame .command (checkCommand words) with
      | error cs' =>
        rw [hcheck] at h
        cases h
        exact path_of_blame hcheck
      | ok words' =>
        rw [hcheck] at h
        cases h
  all_goals
    simp only [put] at h
    generalize hx : blame _ _ = x at h
    cases x with
    | error cs' =>
      cases h
      exact path_of_blame hx
    | ok a => cases h

/-- Items that are texts are read as they are. -/
private theorem readItems_text (path : List String) (i : Nat) (ss : List String) :
    readItems path i (ss.map .text) = .ok ss := by
  induction ss generalizing i with
  | nil => rfl
  | cons s ss ih => rw [List.map_cons, readItems, ih]; rfl

/-- The fields of accepted settings pass their checks as they are. -/
theorem validated_get {s : Settings} (hs : s.Accepted) (f : Field) :
    validated f (s.get f) = .ok (s.get f) := by
  have hput : put s f (s.get f) = .ok s := by
    cases f
    case command =>
      have hread : readTexts [Field.command.name] (s.get .command) = .ok s.command :=
        readItems_text _ _ _
      simp only [put, bind, Except.bind, hread, hs.command, blame]
      rfl
    all_goals
      simp only [put, get, readText, readWhole, bind, Except.bind, hs.outputName,
        hs.templateSuffix, hs.formatter, hs.workers, hs.logLevel, blame]
      rfl
  exact (put_eq_ok_iff.1 hput).1

/-- The defaults are accepted. -/
theorem accepted_default : ({} : Settings).Accepted :=
  ⟨checkOutputName_eq_ok.2 (by decide +kernel), checkTemplateSuffix_eq_ok.2 (by decide +kernel), rfl,
    rfl, rfl, by decide +kernel⟩

end TypeWeave.Settings
