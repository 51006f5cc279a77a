import TypeWeave.Go.Package
import TypeWeave.Proofs.Text.Utf8
import Mathlib.Data.List.Infix
import Mathlib.Data.List.Induction

/-!
# Source files that are no text

A source file is read as the text whose bytes it holds. Where there is no such text, decoding stops
behind the longest start of the file that is one, since what follows starts with no character, and
the file is refused at the line and the column of that place. Main statements: `decode_eq_error`,
`endsAt_placeAfter` and `readSource_spec`.
-/

namespace TypeWeave.Text.Utf8

/-- The bytes of some text. -/
def IsUtf8 (bytes : List UInt8) : Prop := ∃ s : String, s.toUTF8.data.toList = bytes

theorem isUtf8_iff {bytes : List UInt8} : IsUtf8 bytes ↔ ∃ cs, bytes = encode cs := by
  constructor
  · rintro ⟨s, rfl⟩
    exact ⟨s.toList, (encode_toList s).symm⟩
  · rintro ⟨cs, rfl⟩
    exact ⟨String.ofList cs, by rw [← encode_toList, String.toList_ofList]⟩

/-- The longest start of some data that is the bytes of a text. -/
structure IsLongestUtf8 (start bytes : List UInt8) : Prop where
  isPrefix : start <+: bytes
  isUtf8 : IsUtf8 start
  longest : ∀ other, other <+: bytes → IsUtf8 other → other.length ≤ start.length

/-- What follows the bytes of a text inside those of another one is the bytes of a text. -/
theorem exists_of_append_eq_encode {cs ds : List Char} {rest : List UInt8}
    (h : encode cs ++ rest = encode ds) : ∃ es, rest = encode es := by
  induction cs generalizing ds with
  | nil => exact ⟨ds, h⟩
  | cons c cs ih =>
    have hstep : step (encode ds) = .char c (encode cs ++ rest) := by
      rw [← h, encode, List.flatMap_cons, List.append_assoc]
      exact step_encodeChar c _
    cases ds with
    | nil => cases hstep
    | cons d ds =>
      have hstep' : step (encode (d :: ds)) = .char d (encode ds) := step_encodeChar d _
      have hrest := (Step.char.inj (hstep.symm.trans hstep')).2
      exact ih hrest

/-- Decoding stops behind the bytes of a text, at bytes that start with no character. -/
theorem decodeFrom_eq_error {offset : Nat} {bytes : List UInt8} {m : Malformed}
    (h : decodeFrom offset bytes = .error m) :
    ∃ cs rest, bytes = encode cs ++ rest ∧ m.offset = offset + (encode cs).length ∧
      ∀ c rest', step rest ≠ .char c rest' := by
  fun_induction decodeFrom offset bytes with
  | case1 => cases h
  | case2 => cases h
  | case3 offset bytes c rest hstep _ e hrest ih =>
    obtain rfl := Except.error.inj h
    obtain ⟨cs, rest', rfl, hoffset, hbad⟩ := ih hrest
    have hbytes := eq_encodeChar_of_step hstep
    refine ⟨c :: cs, rest', ?_, ?_, hbad⟩
    · rw [hbytes, encode, encode, List.flatMap_cons, List.append_assoc]
    · have hlength := congrArg List.length hbytes
      rw [encode, List.flatMap_cons, List.length_append, ← encode, hoffset]
      simp only [List.length_append] at hlength ⊢
      omega
  | case4 offset bytes b good fault rest hstep =>
    obtain rfl := Except.error.inj h
    refine ⟨[], bytes, rfl, rfl, fun c rest' hchar => ?_⟩
    cases hstep.symm.trans hchar

/-- What is before the place where decoding stops is the longest start that is the bytes of a text.
-/
theorem decode_eq_error {bytes : List UInt8} {m : Malformed} (h : decode bytes = .error m) :
    IsLongestUtf8 (bytes.take m.offset) bytes := by
  obtain ⟨cs, rest, rfl, hoffset, hbad⟩ := decodeFrom_eq_error h
  rw [Nat.zero_add] at hoffset
  rw [hoffset, List.take_left]
  refine ⟨List.prefix_append _ _, isUtf8_iff.2 ⟨cs, rfl⟩, fun other hother hutf8 => ?_⟩
  by_contra hlength
  obtain ⟨ds, rfl⟩ := isUtf8_iff.1 hutf8
  have hstart : encode cs <+: encode ds :=
    List.prefix_of_prefix_length_le (List.prefix_append _ _) hother (by omega)
  obtain ⟨more, hmore⟩ := hstart
  obtain ⟨es, rfl⟩ := exists_of_append_eq_encode hmore
  cases es with
  | nil =>
    rw [← hmore, List.length_append] at hlength
    simp [encode] at hlength
  | cons e es =>
    rw [← hmore] at hother
    obtain ⟨after, hafter⟩ := (List.prefix_append_right_inj _).1 hother
    have hrest : rest = encodeChar e ++ (encode es ++ after) := by
      rw [← hafter, encode, List.flatMap_cons, List.append_assoc]
      rfl
    apply hbad e (encode es ++ after)
    rw [hrest]
    exact step_encodeChar e _

end TypeWeave.Text.Utf8

namespace TypeWeave.Go.Package

open Text.Utf8

/-- The byte that ends a line. -/
def newline : UInt8 := 10

/-- A line with the byte that ends it. -/
def IsLine (row : List UInt8) : Prop := ∃ inner, newline ∉ inner ∧ row = inner ++ [newline]

/-- Some bytes end at a line and a column, both counted from one: they are as many lines as there
are above it, and then as many bytes of it as there are before the column. -/
def EndsAt (bytes : List UInt8) (line column : Nat) : Prop :=
  ∃ (rows : List (List UInt8)) (last : List UInt8), bytes = rows.flatten ++ last ∧
    (∀ row ∈ rows, IsLine row) ∧ newline ∉ last ∧ line = rows.length + 1 ∧ column = last.length + 1

namespace EndsAt

variable {bytes : List UInt8} {line column : Nat}

theorem nil : EndsAt [] 1 1 := ⟨[], [], rfl, nofun, nofun, rfl, rfl⟩

/-- The end of a line leads to the start of the next one. -/
theorem concat_newline (h : EndsAt bytes line column) :
    EndsAt (bytes ++ [newline]) (line + 1) 1 := by
  obtain ⟨rows, last, rfl, hrows, hlast, rfl, rfl⟩ := h
  refine ⟨rows ++ [last ++ [newline]], [], by simp, ?_, nofun, by simp, rfl⟩
  intro row hrow
  rcases List.mem_append.1 hrow with hrow | hrow
  · exact hrows row hrow
  · exact ⟨last, hlast, List.mem_singleton.1 hrow⟩

/-- Any other byte leads to the next column. -/
theorem concat_of_ne (h : EndsAt bytes line column) {b : UInt8} (hb : b ≠ newline) :
    EndsAt (bytes ++ [b]) line (column + 1) := by
  obtain ⟨rows, last, rfl, hrows, hlast, rfl, rfl⟩ := h
  refine ⟨rows, last ++ [b], List.append_assoc .., hrows, ?_, rfl, by simp⟩
  rw [List.mem_append, List.mem_singleton, not_or]
  exact ⟨hlast, Ne.symm hb⟩

end EndsAt

/-- The place behind the end of a line. -/
theorem placeAfter_concat_newline (bytes : List UInt8) :
    placeAfter (bytes ++ [newline]) = ((placeAfter bytes).1 + 1, 1) := by
  simp [placeAfter, newline]

/-- The place behind any other byte. -/
theorem placeAfter_concat_of_ne (bytes : List UInt8) {b : UInt8} (hb : b ≠ newline) :
    placeAfter (bytes ++ [b]) = ((placeAfter bytes).1, (placeAfter bytes).2 + 1) := by
  have hcount : [b].count newline = 0 := List.count_eq_zero.2 (by simpa using Ne.symm hb)
  have hne : (b != newline) = true := by simpa using hb
  unfold newline at hcount hne
  simp only [placeAfter, List.count_append, hcount, List.reverse_append, List.reverse_singleton,
    List.singleton_append, List.takeWhile_cons, hne, if_true, List.length_cons, Nat.add_zero]

/-- Bytes end at the place that is told for them. -/
theorem endsAt_placeAfter (bytes : List UInt8) :
    EndsAt bytes (placeAfter bytes).1 (placeAfter bytes).2 := by
  induction bytes using List.reverseRecOn with
  | nil => exact EndsAt.nil
  | append_singleton bytes b ih =>
    by_cases hb : b = newline
    · subst hb
      rw [placeAfter_concat_newline]
      exact ih.concat_newline
    · rw [placeAfter_concat_of_ne bytes hb]
      exact ih.concat_of_ne hb

/-- Reading a source file gives the text whose bytes the file holds, and does so exactly when there
is one. Otherwise the file is refused at the place where the longest start of it that is a text
ends. -/
theorem readSource_spec {ws : File.Workspace} {file : File.Path} {bytes : List UInt8}
    (hread : ws.read file = .ok bytes) :
    (∀ cs, readSource ws file = .ok cs ↔ (String.ofList cs).toUTF8.data.toList = bytes) ∧
      ((∃ cs, readSource ws file = .ok cs) ↔ IsUtf8 bytes) ∧
      (¬IsUtf8 bytes → ∃ (line column : Nat) (start : List UInt8),
        readSource ws file = .error (.source file line column "invalid UTF-8") ∧
        EndsAt start line column ∧ IsLongestUtf8 start bytes) := by
  have hok (cs : List Char) : readSource ws file = .ok cs ↔ bytes = encode cs := by
    rw [← decode_eq_ok_iff, readSource, hread]
    cases hdecode : decode bytes with
    | ok ds => simp [hdecode]
    | error m => simp [hdecode]
  refine ⟨fun cs => ?_, ?_, fun hnot => ?_⟩
  · rw [hok, ← encode_toList, String.toList_ofList, eq_comm]
  · rw [isUtf8_iff]
    exact exists_congr hok
  · cases hdecode : decode bytes with
    | ok cs => exact absurd (isUtf8_iff.2 ⟨cs, decode_eq_ok_iff.1 hdecode⟩) hnot
    | error m =>
      refine ⟨_, _, bytes.take m.offset, ?_, endsAt_placeAfter _, decode_eq_error hdecode⟩
      rw [readSource, hread]
      simp only [hdecode]

/-- A file that ends inside a character of its second line. -/
def truncatedBytes : List UInt8 := [0x61, newline, 0xC3, 0xA9, 0x62, 0xE2, 0x82]

/-- The columns before the character that is cut off are counted in bytes. -/
theorem readSource_spec_truncatedBytes :
    let ws : File.Workspace := ⟨⟨[(["a.go"], .file truncatedBytes)]⟩, []⟩
    let file : File.Path := ⟨.relative, ["a.go"]⟩
    ws.read file = .ok truncatedBytes ∧ ¬IsUtf8 truncatedBytes ∧
      readSource ws file = .error (.source file 2 4 "invalid UTF-8") ∧
      ∃ start, EndsAt start 2 4 ∧ IsLongestUtf8 start truncatedBytes := by
  intro ws file
  have hread : ws.read file = .ok truncatedBytes := by decide +kernel
  have hrefused : readSource ws file = .error (.source file 2 4 "invalid UTF-8") := by
    decide +kernel
  obtain ⟨-, htext, hplace⟩ := readSource_spec hread
  have hnot : ¬IsUtf8 truncatedBytes := by
    intro hutf8
    obtain ⟨cs, hcs⟩ := htext.2 hutf8
    cases hrefused.symm.trans hcs
  obtain ⟨line, column, start, hrefused', hends, hlongest⟩ := hplace hnot
  have hfailure := Except.error.inj (hrefused'.symm.trans hrefused)
  simp only [Failure.source.injEq] at hfailure
  obtain ⟨-, hline, hcolumn, -⟩ := hfailure
  obtain rfl : line = 2 := by omega
  obtain rfl : column = 4 := by omega
  exact ⟨hread, hnot, hrefused, start, hends, hlongest⟩

end TypeWeave.Go.Package
