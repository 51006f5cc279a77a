import TypeWeave.Text.Utf8
import Mathlib.Data.List.Basic

/-!
# String literals of Go

A string literal stands for bytes. Between double quotes a character stands for its bytes in UTF-8,
and an escape for a byte or, by the number of a code point, for the bytes of a character; a line end
and a quote do not stand there as they are. Between raw quotes everything stands for itself, save
carriage returns, which are left out. Main statement: `isPlain_of_read?`, which says that only a text
that is written as it is is read back from between quotes.
-/

namespace TypeWeave.Go.Literal

open Text.Utf8 (encode encodeChar)

/-- The value of a digit, whose letters may be in either case. -/
def digit? (base : Nat) (c : Char) : Option Nat :=
  (List.range base).find? fun d => d.digitChar == c.toLower

/-- The number that digits write. -/
def number? (base : Nat) (ds : List Char) : Option Nat :=
  ds.foldlM (fun n c => (digit? base c).map (base * n + ·)) 0

/-- The byte of a number. -/
def byte? (base : Nat) (ds : List Char) : Option (List UInt8) :=
  (number? base ds).bind fun n => if n < 256 then some [n.toUInt8] else none

/-- The bytes of the character of a code point. The halves of surrogate pairs are none. -/
def codePoint? (ds : List Char) : Option (List UInt8) :=
  (number? 16 ds).bind fun n => if n.isValidChar then some (encodeChar (Char.ofNat n)) else none

/-- The byte of an escape of one letter. -/
def letter? : Char → Option UInt8
  | 'a' => some 0x07
  | 'b' => some 0x08
  | 'f' => some 0x0C
  | 'n' => some 0x0A
  | 'r' => some 0x0D
  | 't' => some 0x09
  | 'v' => some 0x0B
  | '\\' => some 0x5C
  | '"' => some 0x22
  | _ => none

/-- Read a number of characters. -/
def counted? (count : Nat) (read : List Char → Option (List UInt8)) (cs : List Char) :
    Option (List UInt8 × List Char) :=
  if count ≤ cs.length then (read (cs.take count)).map (·, cs.drop count) else none

/-- What a backslash stands for together with the text behind it, and the rest of the text. -/
def escape? : List Char → Option (List UInt8 × List Char)
  | [] => none
  | m :: cs =>
    match letter? m with
    | some byte => some ([byte], cs)
    | none =>
      if m = 'x' then counted? 2 (byte? 16) cs
      else if m = 'u' then counted? 4 codePoint? cs
      else if m = 'U' then counted? 8 codePoint? cs
      else counted? 3 (byte? 8) (m :: cs)

/-- What a character between double quotes stands for, together with its escape if it starts one. -/
def element? (c : Char) (cs : List Char) : Option (List UInt8 × List Char) :=
  if c = '\n' then none else if c = '\\' then escape? cs else some (encodeChar c, cs)

/-- A text that is written between double quotes as it is. -/
def IsPlain (cs : List Char) : Prop := ∀ c ∈ cs, c ≠ '"' ∧ c ≠ '\\' ∧ c ≠ '\n'

instance (cs : List Char) : Decidable (IsPlain cs) := List.decidableBAll _ _

theorem encode_append (cs ds : List Char) : encode (cs ++ ds) = encode cs ++ encode ds :=
  List.flatMap_append

/-- A character has one byte or more, up to four. -/
theorem length_encodeChar (c : Char) :
    1 ≤ (encodeChar c).length ∧ (encodeChar c).length ≤ 4 := by
  unfold encodeChar
  dsimp only
  split
  · simp
  · split
    · simp
    · split <;> simp

theorem length_le_length_encode (cs : List Char) : cs.length ≤ (encode cs).length := by
  induction cs with
  | nil => simp
  | cons c cs ih =>
    have := (length_encodeChar c).1
    rw [encode, List.flatMap_cons, ← encode, List.length_append, List.length_cons]
    omega

section Lengths

variable {cs rest : List Char} {bs : List UInt8}

theorem counted?_eq_some_iff {count : Nat} {read : List Char → Option (List UInt8)} :
    counted? count read cs = some (bs, rest) ↔
      ∃ ds, ds.length = count ∧ read ds = some bs ∧ cs = ds ++ rest := by
  unfold counted?
  constructor
  · intro h
    split at h
    · rename_i hlength
      obtain ⟨bs', hread, heq⟩ := Option.map_eq_some_iff.1 h
      cases heq
      exact ⟨_, List.length_take_of_le hlength, hread, (List.take_append_drop _ _).symm⟩
    · cases h
  · rintro ⟨ds, rfl, hread, rfl⟩
    rw [if_pos (by simp), List.take_left, List.drop_left, hread, Option.map_some]

/-- There is no line end among the digits of a number. -/
theorem newline_not_mem_of_number? {base n m : Nat} {ds : List Char}
    (h : ds.foldlM (fun n c => (digit? base c).map (base * n + ·)) n = some m) : '\n' ∉ ds := by
  induction ds generalizing n with
  | nil => simp
  | cons c ds ih =>
    rw [List.foldlM_cons] at h
    obtain ⟨k, hk, h⟩ := Option.bind_eq_some_iff.1 h
    obtain ⟨d, hd, -⟩ := Option.map_eq_some_iff.1 hk
    rw [List.mem_cons, not_or]
    refine ⟨?_, ih h⟩
    rintro rfl
    unfold digit? at hd
    have hdigit := List.find?_some hd
    exact absurd (beq_iff_eq.1 hdigit) (Nat.digitChar_ne _ (by decide))

theorem of_byte? {base : Nat} {ds : List Char} (h : byte? base ds = some bs) :
    '\n' ∉ ds ∧ bs.length = 1 := by
  obtain ⟨n, hn, h⟩ := Option.bind_eq_some_iff.1 h
  refine ⟨newline_not_mem_of_number? hn, ?_⟩
  split at h
  · cases h
    rfl
  · cases h

theorem of_codePoint? {ds : List Char} (h : codePoint? ds = some bs) :
    '\n' ∉ ds ∧ bs.length ≤ 4 := by
  obtain ⟨n, hn, h⟩ := Option.bind_eq_some_iff.1 h
  refine ⟨newline_not_mem_of_number? hn, ?_⟩
  split at h
  · cases h
    exact (length_encodeChar _).2
  · cases h

/-- An escape has no line end behind its backslash, and no fewer characters than bytes. -/
theorem exists_of_escape? (h : escape? cs = some (bs, rest)) :
    ∃ taken, cs = taken ++ rest ∧ '\n' ∉ taken ∧ bs.length ≤ taken.length := by
  cases cs with
  | nil => cases h
  | cons m cs =>
    rw [escape?] at h
    have hmarked {count : Nat} {read : List Char → Option (List UInt8)} (hm : m ≠ '\n')
        (hread : ∀ ds, ds.length = count → read ds = some bs →
          '\n' ∉ ds ∧ bs.length ≤ count + 1)
        (h : counted? count read cs = some (bs, rest)) :
        ∃ taken, m :: cs = taken ++ rest ∧ '\n' ∉ taken ∧ bs.length ≤ taken.length := by
      obtain ⟨ds, hlength, hds, rfl⟩ := counted?_eq_some_iff.1 h
      obtain ⟨hnewline, hbs⟩ := hread ds hlength hds
      exact ⟨m :: ds, rfl, by simp [hm.symm, hnewline], by simpa [hlength] using hbs⟩
    split at h
    · rename_i byte hletter
      cases h
      refine ⟨[m], rfl, ?_, Nat.le_refl _⟩
      rw [List.mem_singleton]
      rintro rfl
      cases hletter
    · split at h
      · rename_i hm
        exact hmarked (by simp [hm])
          (fun ds _ hds => ⟨(of_byte? hds).1, by have := (of_byte? hds).2; omega⟩) h
      · split at h
        · rename_i hm
          exact hmarked (by simp [hm])
            (fun ds _ hds => ⟨(of_codePoint? hds).1, by have := (of_codePoint? hds).2; omega⟩) h
        · split at h
          · rename_i hm
            exact hmarked (by simp [hm])
              (fun ds _ hds => ⟨(of_codePoint? hds).1, by have := (of_codePoint? hds).2; omega⟩) h
          · obtain ⟨ds, hlength, hds, heq⟩ := counted?_eq_some_iff.1 h
            obtain ⟨hnewline, hbs⟩ := of_byte? hds
            exact ⟨ds, heq, hnewline, by omega⟩

/-- A character is written as it is, or it starts an escape that has more characters than bytes. -/
theorem exists_of_element? {c : Char} (hc : c ≠ '"') (h : element? c cs = some (bs, rest)) :
    ∃ taken, cs = taken ++ rest ∧ '\n' ∉ c :: taken ∧
      (IsPlain (c :: taken) ∧ bs = encode (c :: taken) ∨
        bs.length < (encode (c :: taken)).length) := by
  unfold element? at h
  split at h
  · cases h
  · rename_i hnewline
    split at h
    · obtain ⟨taken, rfl, htaken, hlength⟩ := exists_of_escape? h
      refine ⟨taken, rfl, by simp [Ne.symm hnewline, htaken], Or.inr ?_⟩
      have := length_le_length_encode (c :: taken)
      rw [List.length_cons] at this
      omega
    · rename_i hslash
      cases h
      refine ⟨[], rfl, by simp [Ne.symm hnewline], Or.inl ⟨?_, by simp [encode]⟩⟩
      simp [IsPlain, hc, hslash, hnewline]

end Lengths

/-- The rest of a literal behind its opening double quote: the bytes up to the closing one, and what
is behind that. -/
def rest? (cs : List Char) : Option (List UInt8 × List Char) :=
  match cs with
  | [] => none
  | c :: cs =>
    if hc : c = '"' then some ([], cs)
    else
      match h : element? c cs with
      | none => none
      | some (bs, rest) =>
        have : rest.length < cs.length + 1 := by
          obtain ⟨taken, rfl, -⟩ := exists_of_element? hc h
          rw [List.length_append]
          omega
        (rest? rest).map fun r => (bs ++ r.1, r.2)
termination_by cs.length

/-- The rest of a literal behind its opening raw quote. -/
def rawRest? (cs : List Char) : Option (List UInt8 × List Char) :=
  match cs.span (· != '\x60') with
  | (body, _ :: rest) => some (encode (body.filter (· != '\r')), rest)
  | (_, []) => none

/-- A string literal at the start of a text: the bytes that it stands for, and what follows it. -/
def read? : List Char → Option (List UInt8 × List Char)
  | '"' :: cs => rest? cs
  | '\x60' :: cs => rawRest? cs
  | _ => none

section Reading

variable {cs rest : List Char} {bs : List UInt8}

theorem rest?_quote (cs : List Char) : rest? ('"' :: cs) = some ([], cs) := by
  rw [rest?, dif_pos rfl]

theorem rest?_cons {c : Char} (hc : c ≠ '"') (cs : List Char) :
    rest? (c :: cs) = (element? c cs).bind fun e =>
      (rest? e.2).map fun r => (e.1 ++ r.1, r.2) := by
  rw [rest?, dif_neg hc]
  split <;> simp only [*, Option.bind_none, Option.bind_some]

/-- A text that is written as it is stands for its bytes. -/
theorem rest?_of_isPlain (h : IsPlain cs) (rest : List Char) :
    rest? (cs ++ '"' :: rest) = some (encode cs, rest) := by
  induction cs with
  | nil => exact rest?_quote rest
  | cons c cs ih =>
    obtain ⟨⟨hquote, hslash, hnewline⟩, hcs⟩ := List.forall_mem_cons.1 h
    rw [List.cons_append, rest?_cons hquote, element?, if_neg hnewline, if_neg hslash,
      Option.bind_some, ih hcs, Option.map_some]
    rfl

/-- What was read up to the closing quote has no line end, and it is written as it is or has more
bytes than it stands for. -/
theorem exists_of_rest? (h : rest? cs = some (bs, rest)) :
    ∃ body, cs = body ++ '"' :: rest ∧ '\n' ∉ body ∧
      (IsPlain body ∧ bs = encode body ∨ bs.length < (encode body).length) := by
  fun_induction rest? cs generalizing bs with
  | case1 => cases h
  | case2 cs =>
    cases h
    exact ⟨[], rfl, by simp, Or.inl ⟨by simp [IsPlain], rfl⟩⟩
  | case3 => cases h
  | case4 c cs hc es tail helement _ ih =>
    obtain ⟨⟨more, rest'⟩, hmore, heq⟩ := Option.map_eq_some_iff.1 h
    cases heq
    obtain ⟨taken, rfl, htaken, hone⟩ := exists_of_element? hc helement
    obtain ⟨body, rfl, hbody, hothers⟩ := ih hmore
    have hnewline : '\n' ∉ c :: taken ++ body := by
      rw [List.mem_append, not_or]
      exact ⟨htaken, hbody⟩
    refine ⟨c :: taken ++ body, by simp, hnewline, ?_⟩
    rw [encode_append, List.length_append, List.length_append]
    rcases hone with ⟨hplain, rfl⟩ | hlt <;> rcases hothers with ⟨hplain', rfl⟩ | hlt'
    · exact Or.inl ⟨List.forall_mem_append.2 ⟨hplain, hplain'⟩, rfl⟩
    all_goals
      right
      dsimp only at *
      omega

/-- Only a text that is written as it is is read back from between two quotes, if the line or the
text ends behind them. A quote or a backslash in it makes what is read shorter than the text. -/
theorem isPlain_of_read? {behind : List Char} (hend : behind = [] ∨ behind.head? = some '\n')
    (h : read? ('"' :: (cs ++ '"' :: behind)) = some (encode cs, rest)) :
    IsPlain cs ∧ rest = behind := by
  obtain ⟨body, hbody, hnewline, hbs⟩ := exists_of_rest? h
  rcases List.append_eq_append_iff.1 hbody with ⟨more, rfl, hmore⟩ | ⟨more, rfl, hmore⟩
  · cases more with
    | nil =>
      rw [List.append_nil] at hbs
      cases hmore
      exact ⟨(hbs.resolve_right (Nat.lt_irrefl _)).1, rfl⟩
    | cons q more =>
      obtain ⟨rfl, hbehind⟩ := List.cons.inj hmore
      rcases hend with rfl | hhead
      · simp at hbehind
      · cases more with
        | nil =>
          rw [hbehind] at hhead
          cases hhead
        | cons d more =>
          rw [hbehind] at hhead
          cases hhead
          exact absurd hnewline (by simp)
  · cases more with
    | nil =>
      rw [List.append_nil] at hbs
      cases hmore
      exact ⟨by simpa using (hbs.resolve_right (by simp)).1, rfl⟩
    | cons q more =>
      have hlt : (encode body).length < (encode (body ++ q :: more)).length := by
        have := length_le_length_encode (q :: more)
        rw [encode_append, List.length_append]
        rw [List.length_cons] at this
        omega
      rcases hbs with ⟨-, heq⟩ | hbs
      · exact absurd (congrArg List.length heq) (by omega)
      · omega

end Reading

end TypeWeave.Go.Literal
