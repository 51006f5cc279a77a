import TypeWeave.Assembly
import TypeWeave.Formatter
import TypeWeave.Proofs.Text.Blank
import TypeWeave.Proofs.Text.Search

/-!
# The layout of a generated file

A generated file is a front that the fragments do not change, with a paragraph behind it for each
fragment that is not blank: an empty line and the fragment without the line ends around it. So more
fragments put more text behind what there is, and the file ends in a single newline, which the syntax
check leaves as it is. Main statements: `source_eq` and `source_layout`.
-/

namespace TypeWeave

namespace Assembly

variable {header package : String} {imports fragments : List String}

/-- A text with nothing but line ends around a body that neither starts nor ends with one. -/
def IsTrimmed (text body : String) : Prop :=
  ∃ before after, text.toList = before ++ body.toList ++ after ∧
    (∀ c ∈ before, c = '\n') ∧ (∀ c ∈ after, c = '\n') ∧
      body.toList.head? ≠ some '\n' ∧ body.toList.getLast? ≠ some '\n'

theorem isTrimmed_trimmed (fragment : String) : IsTrimmed fragment (trimmed fragment) := by
  obtain ⟨before, after, heq, hbefore, hafter⟩ :=
    Text.exists_eq_stripWhile (· == '\n') fragment.toList
  refine ⟨before, after, ?_, ?_, ?_, fun h => ?_, fun h => ?_⟩
  · rw [trimmed, String.toList_ofList, ← heq]
  · simpa using hbefore
  · simpa using hafter
  · rw [trimmed, String.toList_ofList] at h
    cases Text.head?_stripWhile h
  · rw [trimmed, String.toList_ofList] at h
    cases Text.getLast?_stripWhile h

/-- A fragment is blank when its body is. -/
theorem blank_trimmed (fragment : String) :
    Text.blank (trimmed fragment) = Text.blank fragment := by
  rw [Text.blank, trimmed, String.toList_ofList]
  exact Text.all_stripWhile_of_imp fun c hc => by
    rw [eq_of_beq hc]
    rfl

/-- What a fragment puts into a file: nothing if it is blank, or else an empty line and its body. -/
def paragraph (fragment : String) : String :=
  if Text.blank fragment then "" else "\n" ++ trimmed fragment ++ "\n"

/-- The bodies in a file are those of the fragments that are not blank. -/
theorem join_paragraphs (fragments : List String) : String.join (fragments.map paragraph) =
    String.join (((fragments.map trimmed).filter fun b => !Text.blank b).map fun b =>
      "\n" ++ b ++ "\n") := by
  induction fragments with
  | nil => rfl
  | cons f fragments ih =>
    rw [List.map_cons, String.join_cons, ih, List.map_cons, List.filter_cons, blank_trimmed,
      paragraph]
    cases Text.blank f <;> simp

/-- Lines that are joined with bodies between empty lines behind them, and a newline at the end. -/
theorem intercalate_bodies {lines : List String} (h : lines ≠ []) (bodies : List String) :
    "\n".intercalate (lines ++ bodies.flatMap fun b => ["", b]) ++ "\n" =
      "\n".intercalate lines ++ "\n" ++ String.join (bodies.map fun b => "\n" ++ b ++ "\n") := by
  induction bodies generalizing lines with
  | nil => simp
  | cons b bodies ih =>
    rw [List.flatMap_cons, ← List.append_assoc, ih (by simp),
      String.intercalate_append_of_ne_nil h (by simp), List.map_cons, String.join_cons]
    simp [String.append_assoc]

/-- The lines of a file in front of its fragments. -/
def front (header package : String) (imports : List String) : List String :=
  [header, "", "package " ++ package] ++
    match importLines imports with
    | [] => []
    | lines => "" :: lines

/-- A file is its front with the paragraphs of its fragments behind it. -/
theorem source_eq (header package : String) (imports fragments : List String) :
    source header package imports fragments =
      "\n".intercalate (front header package imports) ++ "\n" ++
        String.join (fragments.map paragraph) := by
  rw [join_paragraphs, ← intercalate_bodies (by simp [front])]
  rfl

theorem source_append (more : List String) : source header package imports (fragments ++ more) =
    source header package imports fragments ++ String.join (more.map paragraph) := by
  rw [source_eq, source_eq, List.map_append, String.join_append, ← String.append_assoc]

/-- A text with one newline at its end, and no other one before it. -/
def EndsInOneNewline (text : String) : Prop :=
  ∃ line, text.toList = line ++ ['\n'] ∧ line.getLast? ≠ some '\n'

/-- The front ends with a line that has a last character, and it is no newline. -/
theorem exists_front_eq (hpackage : '\n' ∉ package.toList) (header : String)
    (imports : List String) : ∃ lines line, lines ≠ [] ∧
      front header package imports = lines ++ [line] ∧
        ∃ c, line.toList.getLast? = some c ∧ c ≠ '\n' := by
  match imports with
  | [] =>
    refine ⟨[header, ""], "package " ++ package, by simp, rfl, ?_⟩
    rw [String.toList_append, List.getLast?_append]
    cases hlast : package.toList.getLast? with
    | none => exact ⟨' ', rfl, by decide⟩
    | some c =>
      refine ⟨c, rfl, ?_⟩
      rintro rfl
      exact hpackage (List.mem_of_getLast? hlast)
  | [p] =>
    refine ⟨[header, "", "package " ++ package, ""], "import \"" ++ p ++ "\"", by simp, rfl,
      '"', ?_, by decide⟩
    rw [String.toList_append, List.getLast?_append]
    rfl
  | p :: q :: ps =>
    refine ⟨[header, "", "package " ++ package, "", "import ("] ++
      (p :: q :: ps).map (fun p => "\t\"" ++ p ++ "\""), ")", by simp, ?_, ')', rfl, by decide⟩
    simp [front, importLines]

/-- A file ends in one newline: the last fragment that is not blank ends it. -/
theorem endsInOneNewline_source (hpackage : '\n' ∉ package.toList) (header : String)
    (imports fragments : List String) :
    EndsInOneNewline (source header package imports fragments) := by
  induction fragments using List.reverseRecOn with
  | nil =>
    obtain ⟨lines, line, hlines, hfront, c, hlast, hc⟩ := exists_front_eq hpackage header imports
    rw [source_eq, hfront, String.intercalate_append_of_ne_nil hlines (by simp)]
    refine ⟨("\n".intercalate lines ++ "\n" ++ line).toList, ?_, ?_⟩
    · simp
    · rw [String.toList_append, List.getLast?_append, hlast]
      simpa using hc
  | append_singleton fragments f ih =>
    rw [source_append, List.map_singleton, String.join_cons, String.join_nil, String.append_empty,
      paragraph]
    split
    · rwa [String.append_empty]
    · rename_i hblank
      obtain ⟨-, -, -, -, -, -, hlast⟩ := isTrimmed_trimmed f
      refine ⟨(source header package imports fragments ++ "\n" ++ trimmed f).toList, ?_, ?_⟩
      · simp [String.append_assoc]
      · have hne : (trimmed f).toList ≠ [] := fun h => by
          rw [← blank_trimmed, Text.blank, h] at hblank
          exact hblank rfl
        rw [String.toList_append, List.getLast?_append_of_ne_nil _ hne]
        exact hlast

/-- A generated file ends with a newline. -/
theorem endsWith_source (header package : String) (imports fragments : List String) :
    (source header package imports fragments).endsWith "\n" = true := by
  rw [Text.endsWith_string_iff, source, String.toList_append]
  exact List.suffix_append _ _

end Assembly

/-- The syntax check gives a text that ends with a newline back as it is. -/
theorem Formatter.eq_of_check {source text : String} (hsource : source.endsWith "\n" = true)
    (h : check source = .ok text) : text = source := by
  unfold check at h
  simp only [withFinalNewline, hsource, if_true] at h
  split at h
  · cases h
  · exact (Except.ok.inj h).symm

/-- Fragments behind others put their paragraphs behind the file there is, and blank ones put nothing
anywhere. A file for a package name of one line ends in one newline, so that the syntax check gives
back what it accepts as it is. -/
theorem Assembly.source_layout {package : String} (hpackage : '\n' ∉ package.toList)
    (header : String) (imports : List String) :
    (∀ fragments more, source header package imports (fragments ++ more) =
      source header package imports fragments ++ String.join (more.map paragraph)) ∧
    (∀ fragment, IsTrimmed fragment (trimmed fragment)) ∧
    (∀ before fragment after, Text.blank fragment = true →
      source header package imports (before ++ fragment :: after) =
        source header package imports (before ++ after)) ∧
    ∀ fragments, EndsInOneNewline (source header package imports fragments) ∧
      ∀ run text, Formatter.syntaxCheck.format run (source header package imports fragments) =
        .ok text → text = source header package imports fragments := by
  refine ⟨fun fragments more => source_append more, isTrimmed_trimmed,
    fun before fragment after hblank => ?_, fun fragments =>
      ⟨endsInOneNewline_source hpackage header imports fragments, fun run text h => ?_⟩⟩
  · rw [source_append, source_append, List.map_cons, String.join_cons, paragraph, if_pos hblank,
      String.empty_append]
  · exact Formatter.eq_of_check (endsWith_source header package imports fragments) h

/-- A blank fragment and one with line ends around it behind another one. -/
theorem Assembly.source_layout_twoImports :
    let file := source "// h" "p" ["fmt", "os"]
    '\n' ∉ "p".toList ∧ Text.blank " \n" = true ∧
    file ["// a"] =
      "// h\n\npackage p\n\nimport (\n\t\"fmt\"\n\t\"os\"\n)\n\n// a\n" ∧
    file (["// a"] ++ ["\n// b\n\n"]) = file ["// a"] ++ "\n// b\n" ∧
    file (["// a"] ++ " \n" :: ["\n// b\n\n"]) = file (["// a"] ++ ["\n// b\n\n"]) ∧
    EndsInOneNewline (file ["// a"]) ∧
    ∀ run, ∃ text, Formatter.syntaxCheck.format run (file ["// a"]) = .ok text ∧
      text = file ["// a"] := by
  intro file
  have hpackage : '\n' ∉ "p".toList := by decide
  have hblank : Text.blank " \n" = true := by decide
  obtain ⟨happend, -, hskip, hend⟩ := Assembly.source_layout hpackage "// h" ["fmt", "os"]
  have hparagraph : String.join (["\n// b\n\n"].map paragraph) = "\n// b\n" := by decide +kernel
  have haccepted : (Formatter.check (file ["// a"])).isOk = true := by decide +kernel
  refine ⟨hpackage, hblank, by decide +kernel, hparagraph ▸ happend _ _, hskip _ _ _ hblank,
    (hend _).1, fun run => ?_⟩
  cases hcheck : Formatter.check (file ["// a"]) with
  | error f =>
    rw [hcheck] at haccepted
    cases haccepted
  | ok text => exact ⟨text, hcheck, (hend _).2 run text hcheck⟩

end TypeWeave
