import TypeWeave.Proofs.Text.Replace
import TypeWeave.Proofs.Text.Utf8

/-!
# Line ends

A line may end with a line feed, or with a carriage return and a line feed. To go from the one to
the other is to put a carriage return before each line feed. A reader that stops at both characters,
or that looks for a literal with neither of them, reads the same in both texts. Data is read as the
text with carriage returns exactly where its bytes have them too: `decodeLossy_crlfBytes`.
-/

namespace TypeWeave.Text

section Returns

variable {α : Type} [DecidableEq α]

/-- A list with `cr` before each `lf`. -/
def withReturns (cr lf : α) (xs : List α) : List α :=
  xs.flatMap fun x => if x = lf then [cr, lf] else [x]

variable {cr lf x : α} {xs ys : List α}

theorem withReturns_cons_self (cr lf : α) (xs : List α) :
    withReturns cr lf (lf :: xs) = cr :: lf :: withReturns cr lf xs := by
  simp [withReturns]

theorem withReturns_cons_of_ne (h : x ≠ lf) :
    withReturns cr lf (x :: xs) = x :: withReturns cr lf xs := by
  simp [withReturns, h]

theorem withReturns_append :
    withReturns cr lf (xs ++ ys) = withReturns cr lf xs ++ withReturns cr lf ys :=
  List.flatMap_append

theorem withReturns_eq_self (h : lf ∉ xs) : withReturns cr lf xs = xs := by
  induction xs with
  | nil => rfl
  | cons x xs ih =>
    rw [List.mem_cons, not_or] at h
    rw [withReturns_cons_of_ne (Ne.symm h.1), ih h.2]

end Returns

/-- A text with a carriage return before each line feed. -/
def crlf (cs : List Char) : List Char := withReturns '\r' '\n' cs

/-- The string of such a text. -/
def crlfString (s : String) : String := String.ofList (crlf s.toList)

section Texts

variable {c : Char} {cs ds ps : List Char}

@[simp] theorem crlf_nil : crlf [] = [] := rfl

@[simp] theorem crlf_newline (cs : List Char) : crlf ('\n' :: cs) = '\r' :: '\n' :: crlf cs :=
  withReturns_cons_self ..

theorem crlf_cons (h : c ≠ '\n') : crlf (c :: cs) = c :: crlf cs := withReturns_cons_of_ne h

@[simp] theorem crlf_append (cs ds : List Char) : crlf (cs ++ ds) = crlf cs ++ crlf ds :=
  withReturns_append

/-- A text of one line stays as it is. -/
theorem crlf_eq_self (h : '\n' ∉ cs) : crlf cs = cs := withReturns_eq_self h

@[simp] theorem newline_mem_crlf : '\n' ∈ crlf cs ↔ '\n' ∈ cs := by
  induction cs with
  | nil => simp
  | cons c cs ih => by_cases hc : c = '\n' <;> simp [hc, crlf_cons, ih]

/-- A text is one of a single line when it is one with carriage returns. -/
theorem crlf_eq_iff (h : '\n' ∉ ds) : crlf cs = ds ↔ cs = ds := by
  constructor
  · rintro rfl
    exact (crlf_eq_self (newline_mem_crlf.not.1 h)).symm
  · rintro rfl
    exact crlf_eq_self h

@[simp] theorem crlf_eq_nil : crlf cs = [] ↔ cs = [] := crlf_eq_iff (by simp)

theorem length_le_length_crlf (cs : List Char) : cs.length ≤ (crlf cs).length := by
  induction cs with
  | nil => simp
  | cons c cs ih => by_cases hc : c = '\n' <;> simp [hc, crlf_cons] <;> omega

@[simp] theorem crlfString_toList (s : String) : (crlfString s).toList = crlf s.toList :=
  String.toList_ofList

@[simp] theorem crlfString_append (s t : String) :
    crlfString (s ++ t) = crlfString s ++ crlfString t := by
  simp [crlfString]

theorem crlfString_ofList (cs : List Char) :
    crlfString (String.ofList cs) = String.ofList (crlf cs) := by
  rw [crlfString, String.toList_ofList]

theorem crlfString_eq_iff {s t : String} (h : '\n' ∉ t.toList) : crlfString s = t ↔ s = t := by
  rw [← String.toList_inj, crlfString_toList, crlf_eq_iff h, String.toList_inj]

theorem crlfString_eq_self {s : String} (h : '\n' ∉ s.toList) : crlfString s = s :=
  (crlfString_eq_iff h).2 rfl

section Class

variable {p : Char → Bool} (hn : p '\n' = false) (hr : p '\r' = false)
include hn hr

/-- A run of characters of a class ends at a line end. -/
theorem takeWhile_crlf (cs : List Char) : (crlf cs).takeWhile p = crlf (cs.takeWhile p) := by
  induction cs with
  | nil => rfl
  | cons c cs ih =>
    by_cases hc : c = '\n'
    · simp [hc, hn, hr]
    · cases hp : p c <;> simp [crlf_cons hc, hp, ih]

theorem dropWhile_crlf (cs : List Char) : (crlf cs).dropWhile p = crlf (cs.dropWhile p) := by
  induction cs with
  | nil => rfl
  | cons c cs ih =>
    by_cases hc : c = '\n'
    · simp [hc, hn, hr]
    · cases hp : p c <;> simp [crlf_cons hc, hp, ih]

end Class

section Literal

variable (hn : '\n' ∉ ps) (hr : '\r' ∉ ps)
include hn hr

/-- A literal without line ends is at the front of both texts or of none. -/
theorem dropPrefix?_crlf (cs : List Char) :
    dropPrefix? ps (crlf cs) = (dropPrefix? ps cs).map crlf := by
  induction ps generalizing cs with
  | nil => rfl
  | cons p ps ih =>
    simp only [List.mem_cons, not_or] at hn hr
    cases cs with
    | nil => rfl
    | cons c cs =>
      by_cases hc : c = '\n'
      · simp [hc, dropPrefix?, Ne.symm hn.1, Ne.symm hr.1]
      · rw [crlf_cons hc, dropPrefix?, dropPrefix?, ih hn.2 hr.2]
        split <;> rfl

/-- It is replaced in the same places. -/
theorem replace_crlf (hps : ps ≠ []) {by' : List Char} (hby : '\n' ∉ by') (cs : List Char) :
    replace ps by' (crlf cs) = crlf (replace ps by' cs) := by
  obtain ⟨p, ps, rfl⟩ := List.exists_cons_of_ne_nil hps
  induction hlength : cs.length using Nat.strongRecOn generalizing cs with
  | ind n ih =>
    cases hdrop : dropPrefix? (p :: ps) cs with
    | some rest =>
      have hlt := length_dropPrefix? hdrop
      rw [List.length_cons] at hlt
      have hdrop' : dropPrefix? (p :: ps) (crlf cs) = some (crlf rest) := by
        rw [dropPrefix?_crlf hn hr, hdrop, Option.map_some]
      rw [replace_of_dropPrefix? by' hdrop, replace_of_dropPrefix? by' hdrop', crlf_append,
        crlf_eq_self hby, ih rest.length (by omega) rest rfl]
    | none =>
      cases cs with
      | nil => rfl
      | cons c cs =>
        have hmore := ih cs.length (by rw [← hlength]; exact Nat.lt_succ_self _) cs rfl
        rw [replace_cons by' hdrop]
        by_cases hc : c = '\n'
        · subst hc
          simp only [List.mem_cons, not_or] at hn hr
          have hreturn (ds : List Char) : dropPrefix? (p :: ps) ('\r' :: ds) = none := by
            simp [dropPrefix?, Ne.symm hr.1]
          have hfeed (ds : List Char) : dropPrefix? (p :: ps) ('\n' :: ds) = none := by
            simp [dropPrefix?, Ne.symm hn.1]
          rw [crlf_newline, crlf_newline, replace_cons by' (hreturn _), replace_cons by' (hfeed _),
            hmore]
        · have hdrop' : dropPrefix? (p :: ps) (c :: crlf cs) = none := by
            rw [← crlf_cons hc, dropPrefix?_crlf hn hr, hdrop, Option.map_none]
          rw [crlf_cons hc, crlf_cons hc, replace_cons by' hdrop', hmore]

end Literal

/-- The part behind the last of some character is cut in the same place. -/
theorem afterLast_crlf (hn : c ≠ '\n') (hr : c ≠ '\r') (cs : List Char) :
    afterLast c (crlf cs) = crlf (afterLast c cs) := by
  have hmem (ds : List Char) : c ∈ crlf ds ↔ c ∈ ds := by
    induction ds with
    | nil => simp
    | cons d ds ih => by_cases hd : d = '\n' <;> simp [hd, crlf_cons, ih, hn, hr]
  by_cases hc : c ∈ cs
  · obtain ⟨after, before, hcs, hafter⟩ := List.eq_append_cons_of_mem (List.mem_reverse.2 hc)
    obtain rfl : cs = before.reverse ++ c :: after.reverse := by
      rw [← List.reverse_reverse cs, hcs]
      simp
    have hafter' : c ∉ after.reverse := by rwa [List.mem_reverse]
    rw [crlf_append, crlf_cons hn, afterLast_append (by rwa [hmem]), afterLast_append hafter']
  · rw [afterLast_of_not_mem hc, afterLast_of_not_mem (by rwa [hmem])]

end Texts

/-- Data with a carriage return before each line feed. -/
def crlfBytes (bs : List UInt8) : List UInt8 := withReturns 13 10 bs

namespace Utf8

/-- The byte of a line feed is in no other character. -/
theorem newline_not_mem_encodeChar {c : Char} (h : c ≠ '\n') : (10 : UInt8) ∉ encodeChar c := by
  have hne {n : Nat} (hn : n < 256) (h10 : n ≠ 10) : (10 : UInt8) ≠ n.toUInt8 := by
    intro heq
    have htoNat := congrArg UInt8.toNat heq
    simp only [Nat.toUInt8_eq, UInt8.toNat_ofNat'] at htoNat
    exact h10 (by simpa [Nat.mod_eq_of_lt hn] using htoNat.symm)
  have hc : c.toNat ≠ 10 := fun heq => h (Char.toNat_inj.1 heq)
  have hlt : c.toNat < 0x110000 := by
    have := c.valid
    simp only [UInt32.isValidChar, Nat.isValidChar] at this
    simp only [Char.toNat]
    omega
  unfold encodeChar
  dsimp only
  split_ifs
  all_goals simp only [List.mem_cons, List.not_mem_nil, or_false, not_or]
  · exact hne (by omega) hc
  · exact ⟨hne (by omega) (by omega), hne (by omega) (by omega)⟩
  · exact ⟨hne (by omega) (by omega), hne (by omega) (by omega), hne (by omega) (by omega)⟩
  · exact ⟨hne (by omega) (by omega), hne (by omega) (by omega), hne (by omega) (by omega),
      hne (by omega) (by omega)⟩

/-- The bytes of a text with carriage returns are those of the text with carriage returns. -/
theorem encode_crlf (cs : List Char) : encode (crlf cs) = crlfBytes (encode cs) := by
  induction cs with
  | nil => rfl
  | cons c cs ih =>
    have hcons (c : Char) (cs : List Char) : encode (c :: cs) = encodeChar c ++ encode cs :=
      List.flatMap_cons
    by_cases hc : c = '\n'
    · subst hc
      rw [crlf_newline, hcons, hcons, hcons, ih]
      rfl
    · rw [crlf_cons hc, hcons, hcons, ih, crlfBytes, crlfBytes, withReturns_append,
        withReturns_eq_self (newline_not_mem_encodeChar hc)]

/-- What a step leaves, with carriage returns. -/
def Step.crlfRest : Step → Step
  | .done => .done
  | .char c rest => .char c (crlfBytes rest)
  | .bad byte good fault rest => .bad byte good fault (crlfBytes rest)

/-- Neither byte of a line end continues a sequence. -/
theorem continuing_crlfBytes (first : UInt8) (good acc n : Nat) (bs : List UInt8) :
    continuing first good acc n (crlfBytes bs) = (continuing first good acc n bs).crlfRest := by
  induction n generalizing good acc bs with
  | zero => rfl
  | succ n ih =>
    cases bs with
    | nil => rfl
    | cons b bs =>
      by_cases hb : b = 10
      · subst hb
        rw [crlfBytes, withReturns_cons_self]
        simp [continuing, Step.crlfRest, crlfBytes, withReturns_cons_self]
      · rw [crlfBytes, withReturns_cons_of_ne hb, ← crlfBytes, continuing, continuing, ih]
        split
        · rfl
        · simp [Step.crlfRest, crlfBytes, withReturns_cons_of_ne hb]

/-- A byte that continues a sequence is beyond those of single characters. -/
theorem le_of_leading {b n lo hi : Nat} (h : leading b = some (n, lo, hi)) : 0x80 ≤ lo := by
  unfold leading at h
  simp only [beq_iff_eq] at h
  split_ifs at h <;> simp only [Option.some.injEq, Prod.mk.injEq] at h <;> omega

/-- A step in front of anything but a line end is the same. -/
theorem step_crlfBytes {b : UInt8} (hb : b ≠ 10) (bs : List UInt8) :
    step (crlfBytes (b :: bs)) = (step (b :: bs)).crlfRest := by
  rw [crlfBytes, withReturns_cons_of_ne hb, ← crlfBytes, step, step]
  split
  · rfl
  · cases hlead : leading b.toNat with
    | none => rfl
    | some range =>
      obtain ⟨n, lo, hi⟩ := range
      have hlo := le_of_leading hlead
      cases bs with
      | nil => rfl
      | cons b' bs =>
        by_cases hb' : b' = 10
        · subst hb'
          rw [crlfBytes, withReturns_cons_self]
          have hreturn : ¬lo ≤ 13 := by omega
          have hfeed : ¬lo ≤ 10 := by omega
          simp [hreturn, hfeed, Step.crlfRest, crlfBytes, withReturns_cons_self]
        · rw [crlfBytes, withReturns_cons_of_ne hb', ← crlfBytes]
          dsimp only
          rw [continuing_crlfBytes]
          split
          · rfl
          · simp [Step.crlfRest, crlfBytes, withReturns_cons_of_ne hb']

/-- Nothing is read at the end of data. -/
theorem decodeLossy_of_step_done {bs : List UInt8} (h : step bs = .done) : decodeLossy bs = [] := by
  rw [decodeLossy]
  split
  · rfl
  all_goals
    rename_i h'
    cases h.symm.trans h'

/-- A character is read at the front of data. -/
theorem decodeLossy_of_step_char {bs rest : List UInt8} {c : Char} (h : step bs = .char c rest) :
    decodeLossy bs = c :: decodeLossy rest := by
  rw [decodeLossy]
  split
  · rename_i h'
    cases h.symm.trans h'
  · rename_i h'
    obtain ⟨rfl, rfl⟩ := Step.char.inj (h.symm.trans h')
    rfl
  · rename_i h'
    cases h.symm.trans h'

/-- Malformed data is replaced at the front of data. -/
theorem decodeLossy_of_step_bad {bs rest : List UInt8} {b : UInt8} {good : Nat} {fault : Fault}
    (h : step bs = .bad b good fault rest) : decodeLossy bs = '\uFFFD' :: decodeLossy rest := by
  rw [decodeLossy]
  split
  · rename_i h'
    cases h.symm.trans h'
  · rename_i h'
    cases h.symm.trans h'
  · rename_i h'
    obtain ⟨-, -, -, rfl⟩ := Step.bad.inj (h.symm.trans h')
    rfl

/-- Data with carriage returns is read as the text with carriage returns, malformed or not. -/
theorem decodeLossy_crlfBytes (bs : List UInt8) :
    decodeLossy (crlfBytes bs) = crlf (decodeLossy bs) := by
  induction hlength : bs.length using Nat.strongRecOn generalizing bs with
  | ind n ih =>
    cases bs with
    | nil =>
      have hnil : decodeLossy [] = [] := decodeLossy_of_step_done rfl
      exact hnil.trans (congrArg crlf hnil.symm)
    | cons b bs =>
      by_cases hb : b = 10
      · subst hb
        have hmore := ih bs.length (by rw [← hlength]; exact Nat.lt_succ_self _) bs rfl
        have hreturn (rest : List UInt8) : step (13 :: rest) = .char '\r' rest := rfl
        have hfeed (rest : List UInt8) : step (10 :: rest) = .char '\n' rest := rfl
        rw [crlfBytes, withReturns_cons_self, ← crlfBytes, decodeLossy_of_step_char (hreturn _),
          decodeLossy_of_step_char (hfeed _), decodeLossy_of_step_char (hfeed _), hmore,
          crlf_newline]
      · have hstep := step_crlfBytes hb bs
        cases h : step (b :: bs) with
        | done =>
          rw [h] at hstep
          rw [decodeLossy_of_step_done hstep, decodeLossy_of_step_done h, crlf_nil]
        | char c rest =>
          have hc : c ≠ '\n' := by
            rintro rfl
            exact hb (List.cons.inj (eq_encodeChar_of_step h)).1
          rw [h] at hstep
          rw [decodeLossy_of_step_char hstep, decodeLossy_of_step_char h, crlf_cons hc,
            ih rest.length (hlength ▸ length_lt_of_step_char h) rest rfl]
        | bad byte good fault rest =>
          rw [h] at hstep
          rw [decodeLossy_of_step_bad hstep, decodeLossy_of_step_bad h, crlf_cons (by decide),
            ih rest.length (hlength ▸ length_lt_of_step_bad h) rest rfl]

end Utf8

end TypeWeave.Text
