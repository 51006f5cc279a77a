import TypeWeave.Text.Utf8
import Mathlib.Data.List.Basic
import Mathlib.Logic.Function.Basic
import Mathlib.Tactic.SplitIfs

/-!
# Encoding and decoding

The bytes that are written for a text are those by which the core library represents it, and data is
read as a text exactly when it is the bytes of the text. Main statements: `encode_toList` and
`decode_eq_ok_iff`.
-/

namespace TypeWeave.Text.Utf8

/-- The bytes of a character. -/
theorem encodeChar_eq (c : Char) : encodeChar c = String.utf8EncodeChar c := by
  have hc : c.toNat < 0x110000 := by
    have := c.valid
    simp only [UInt32.isValidChar, Nat.isValidChar] at this
    simp only [Char.toNat]
    omega
  have hv : c.val.toNat = c.toNat := rfl
  unfold encodeChar String.utf8EncodeChar
  simp only [hv, Nat.toUInt8_eq]
  generalize c.toNat = n at hc
  simp only [← Nat.lt_succ_iff]
  split
  · rfl
  · split
    · have : n / 64 % 0x20 + 0xc0 = 0xC0 + n / 64 := by omega
      rw [this, Nat.add_comm (n % 0x40)]
    · split
      · have : n / 4096 % 0x10 + 0xe0 = 0xE0 + n / 4096 := by omega
        rw [this, Nat.add_comm (n % 0x40), Nat.add_comm (n / 64 % 0x40)]
      · have : n / 262144 % 0x08 + 0xf0 = 0xF0 + n / 262144 := by omega
        rw [this, Nat.add_comm (n % 0x40), Nat.add_comm (n / 64 % 0x40),
          Nat.add_comm (n / 4096 % 0x40)]

/-- The bytes of a text. -/
theorem encode_toList (s : String) : encode s.toList = s.toUTF8.data.toList := by
  have hchar : encodeChar = String.utf8EncodeChar := funext encodeChar_eq
  have htext : s.toUTF8 = s.toList.utf8Encode := by
    rw [← String.toByteArray_ofList, String.ofList_toList, String.toUTF8_eq_toByteArray]
  rw [encode, hchar, htext, List.utf8Encode, List.data_toByteArray]

/-- The three ranges of first bytes of longer sequences, with the bounds of the second byte. -/
private theorem leading_eq_some {b n lo hi : Nat} (h : leading b = some (n, lo, hi)) :
    (n = 1 ∧ 0xC2 ≤ b ∧ b < 0xE0 ∧ lo = 0x80 ∧ hi = 0xBF) ∨
      (n = 2 ∧ 0xE0 ≤ b ∧ b < 0xF0 ∧ (b = 0xE0 → lo = 0xA0) ∧ (b ≠ 0xE0 → lo = 0x80) ∧
        (b = 0xED → hi = 0x9F) ∧ (b ≠ 0xED → hi = 0xBF)) ∨
      (n = 3 ∧ 0xF0 ≤ b ∧ b ≤ 0xF4 ∧ (b = 0xF0 → lo = 0x90) ∧ (b ≠ 0xF0 → lo = 0x80) ∧
        (b = 0xF4 → hi = 0x8F) ∧ (b ≠ 0xF4 → hi = 0xBF)) := by
  unfold leading at h
  simp only [beq_iff_eq] at h
  split_ifs at h <;> simp only [Option.some.injEq, Prod.mk.injEq] at h <;> omega

/-- The bytes that a first byte asks for, in its range. -/
private theorem exists_leading {b : Nat} (h : 0xC2 ≤ b ∧ b ≤ 0xF4) :
    ∃ n lo hi, leading b = some (n, lo, hi) := by
  unfold leading
  simp only [beq_iff_eq]
  split_ifs <;> first | exact ⟨_, _, _, rfl⟩ | omega

/-- A number that is none of a surrogate half is that of a character. -/
private theorem toNat_ofNat {n : Nat} (h : n < 0xD800 ∨ 0xDFFF < n ∧ n < 0x110000) :
    (Char.ofNat n).toNat = n := by
  rw [Char.ofNat, dif_pos (show n.isValidChar from h)]
  rfl

private theorem toUInt8_eq {b : UInt8} {n : Nat} (h : b.toNat = n) : n.toUInt8 = b := by
  subst h
  exact UInt8.ofNat_toNat

private theorem toNat_toUInt8 {n : Nat} (h : n < 256) : n.toUInt8.toNat = n := by
  simp only [Nat.toUInt8_eq, UInt8.toNat_ofNat']
  omega

/-- The last bytes of a sequence continue it, and add their bits to the number of the character. -/
theorem continuing_eq_char {first : UInt8} {good acc n : Nat} {bs rest : List UInt8} {c : Char} :
    continuing first good acc n bs = .char c rest ↔ ∃ tail : List UInt8, tail.length = n ∧
      (∀ b ∈ tail, 0x80 ≤ b.toNat ∧ b.toNat ≤ 0xBF) ∧ bs = tail ++ rest ∧
      c = Char.ofNat (tail.foldl (fun acc b => acc * 64 + b.toNat % 64) acc) := by
  induction n generalizing good acc bs with
  | zero =>
    simp only [continuing, List.length_eq_zero_iff, exists_eq_left, List.foldl_nil, List.nil_append]
    simp [eq_comm, and_comm]
  | succ n ih =>
    cases bs with
    | nil =>
      refine iff_of_false Step.noConfusion ?_
      rintro ⟨tail, hlength, -, hbs, -⟩
      rw [List.nil_eq, List.append_eq_nil_iff] at hbs
      simp [hbs.1] at hlength
    | cons b bs =>
      have hcons : (∃ tail : List UInt8, tail.length = n + 1 ∧
          (∀ b ∈ tail, 0x80 ≤ b.toNat ∧ b.toNat ≤ 0xBF) ∧ b :: bs = tail ++ rest ∧
          c = Char.ofNat (tail.foldl (fun acc b => acc * 64 + b.toNat % 64) acc)) ↔
          (0x80 ≤ b.toNat ∧ b.toNat ≤ 0xBF) ∧ ∃ tail : List UInt8, tail.length = n ∧
            (∀ b ∈ tail, 0x80 ≤ b.toNat ∧ b.toNat ≤ 0xBF) ∧ bs = tail ++ rest ∧
            c = Char.ofNat
              (tail.foldl (fun acc b => acc * 64 + b.toNat % 64) (acc * 64 + b.toNat % 64)) := by
        constructor
        · rintro ⟨_ | ⟨b', tail⟩, hlength, htail, hbs, hc⟩
          · simp at hlength
          · obtain ⟨rfl, rfl⟩ := List.cons.inj hbs
            obtain ⟨hb, htail⟩ := List.forall_mem_cons.1 htail
            exact ⟨hb, tail, by simpa using hlength, htail, rfl, hc⟩
        · rintro ⟨hb, tail, hlength, htail, rfl, hc⟩
          exact ⟨b :: tail, by simp [hlength], List.forall_mem_cons.2 ⟨hb, htail⟩, rfl, hc⟩
      rw [hcons, ← @ih (good + 1), continuing]
      split
      · rename_i hb
        exact (and_iff_right (by simpa using hb)).symm
      · rename_i hb
        exact iff_of_false Step.noConfusion fun h => hb (by simpa using h.1)

/-- A longer sequence is read when its second byte is in the bounds that the first one sets. -/
private theorem step_cons_cons {b b₁ : UInt8} {n lo hi : Nat}
    (h : leading b.toNat = some (n, lo, hi)) (bs : List UInt8) : step (b :: b₁ :: bs) =
      if lo ≤ b₁.toNat ∧ b₁.toNat ≤ hi then
        continuing b 2 ((if n = 1 then b.toNat % 32 else if n = 2 then b.toNat % 16
          else b.toNat % 8) * 64 + b₁.toNat % 64) (n - 1) bs
      else .bad b 1 .badContinuation (b₁ :: bs) := by
  have hb : ¬b.toNat < 0x80 := by
    rcases leading_eq_some h with ⟨-, h⟩ | ⟨-, h⟩ | ⟨-, h⟩ <;> omega
  simp only [step, if_neg hb, h, Bool.and_eq_true, decide_eq_true_eq, beq_iff_eq]

section Sequences

variable {c : Char} {b b₁ b₂ b₃ : UInt8}

/-- The two bytes of a character. -/
private theorem encodeChar_eq_two (hb : 0xC2 ≤ b.toNat ∧ b.toNat < 0xE0)
    (h₁ : 0x80 ≤ b₁.toNat ∧ b₁.toNat ≤ 0xBF)
    (hc : c.toNat = b.toNat % 32 * 64 + b₁.toNat % 64) : encodeChar c = [b, b₁] := by
  have e₀ : (0xC0 + c.toNat / 64).toUInt8 = b := toUInt8_eq (by omega)
  have e₁ : (0x80 + c.toNat % 64).toUInt8 = b₁ := toUInt8_eq (by omega)
  simp only [encodeChar, e₀, e₁, if_neg (show ¬c.toNat < 0x80 by omega),
    if_pos (show c.toNat < 0x800 by omega)]

/-- The three bytes of a character. -/
private theorem encodeChar_eq_three (hb : 0xE0 ≤ b.toNat ∧ b.toNat < 0xF0)
    (h₁ : 0x80 ≤ b₁.toNat ∧ b₁.toNat ≤ 0xBF) (h₂ : 0x80 ≤ b₂.toNat ∧ b₂.toNat ≤ 0xBF)
    (hc : c.toNat = (b.toNat % 16 * 64 + b₁.toNat % 64) * 64 + b₂.toNat % 64)
    (hlow : 0x800 ≤ c.toNat) : encodeChar c = [b, b₁, b₂] := by
  have e₀ : (0xE0 + c.toNat / 4096).toUInt8 = b := toUInt8_eq (by omega)
  have e₁ : (0x80 + c.toNat / 64 % 64).toUInt8 = b₁ := toUInt8_eq (by omega)
  have e₂ : (0x80 + c.toNat % 64).toUInt8 = b₂ := toUInt8_eq (by omega)
  simp only [encodeChar, e₀, e₁, e₂, if_neg (show ¬c.toNat < 0x80 by omega),
    if_neg (show ¬c.toNat < 0x800 by omega), if_pos (show c.toNat < 0x10000 by omega)]

/-- The four bytes of a character. -/
private theorem encodeChar_eq_four (hb : 0xF0 ≤ b.toNat ∧ b.toNat ≤ 0xF4)
    (h₁ : 0x80 ≤ b₁.toNat ∧ b₁.toNat ≤ 0xBF) (h₂ : 0x80 ≤ b₂.toNat ∧ b₂.toNat ≤ 0xBF)
    (h₃ : 0x80 ≤ b₃.toNat ∧ b₃.toNat ≤ 0xBF)
    (hc : c.toNat =
      ((b.toNat % 8 * 64 + b₁.toNat % 64) * 64 + b₂.toNat % 64) * 64 + b₃.toNat % 64)
    (hlow : 0x10000 ≤ c.toNat) : encodeChar c = [b, b₁, b₂, b₃] := by
  have e₀ : (0xF0 + c.toNat / 262144).toUInt8 = b := toUInt8_eq (by omega)
  have e₁ : (0x80 + c.toNat / 4096 % 64).toUInt8 = b₁ := toUInt8_eq (by omega)
  have e₂ : (0x80 + c.toNat / 64 % 64).toUInt8 = b₂ := toUInt8_eq (by omega)
  have e₃ : (0x80 + c.toNat % 64).toUInt8 = b₃ := toUInt8_eq (by omega)
  simp only [encodeChar, e₀, e₁, e₂, e₃, if_neg (show ¬c.toNat < 0x80 by omega),
    if_neg (show ¬c.toNat < 0x800 by omega), if_neg (show ¬c.toNat < 0x10000 by omega)]

/-- The byte of a character. -/
private theorem encodeChar_eq_one (hb : b.toNat < 0x80) : encodeChar (Char.ofNat b.toNat) = [b] := by
  have hn : (Char.ofNat b.toNat).toNat = b.toNat := toNat_ofNat (by omega)
  simp only [encodeChar, hn, hb, if_true, toUInt8_eq rfl]

/-- The bytes of the character whose number is made up of the bits of a longer sequence. -/
private theorem encodeChar_of_leading {n lo hi : Nat} {tail : List UInt8}
    (hlead : leading b.toNat = some (n, lo, hi)) (h₁ : lo ≤ b₁.toNat ∧ b₁.toNat ≤ hi)
    (hlength : tail.length = n - 1) (htail : ∀ b ∈ tail, 0x80 ≤ b.toNat ∧ b.toNat ≤ 0xBF) :
    encodeChar (Char.ofNat (tail.foldl (fun acc b => acc * 64 + b.toNat % 64)
      ((if n = 1 then b.toNat % 32 else if n = 2 then b.toNat % 16 else b.toNat % 8) * 64 +
        b₁.toNat % 64))) = b :: b₁ :: tail := by
  rcases leading_eq_some hlead with ⟨rfl, hrange⟩ | ⟨rfl, hrange⟩ | ⟨rfl, hrange⟩
  · obtain rfl := List.length_eq_zero_iff.1 hlength
    have hn := toNat_ofNat (n := b.toNat % 32 * 64 + b₁.toNat % 64) (by omega)
    exact encodeChar_eq_two (by omega) (by omega) hn
  · obtain ⟨b₂, rfl⟩ := List.length_eq_one_iff.1 hlength
    have h₂ := htail b₂ (by simp)
    have hn := toNat_ofNat
      (n := (b.toNat % 16 * 64 + b₁.toNat % 64) * 64 + b₂.toNat % 64) (by omega)
    have hbytes : _ = [b, b₁, b₂] := encodeChar_eq_three (by omega) (by omega) h₂ hn (by omega)
    exact hbytes
  · obtain ⟨b₂, b₃, rfl⟩ := List.length_eq_two.1 hlength
    have h₂ := htail b₂ (by simp)
    have h₃ := htail b₃ (by simp)
    have hn := toNat_ofNat
      (n := ((b.toNat % 8 * 64 + b₁.toNat % 64) * 64 + b₂.toNat % 64) * 64 + b₃.toNat % 64)
      (by omega)
    have hbytes : _ = [b, b₁, b₂, b₃] :=
      encodeChar_eq_four (by omega) (by omega) h₂ h₃ hn (by omega)
    exact hbytes

end Sequences

/-- A character that is read was encoded by the bytes that were read. -/
theorem eq_encodeChar_of_step {bs rest : List UInt8} {c : Char} (h : step bs = .char c rest) :
    bs = encodeChar c ++ rest := by
  cases bs with
  | nil => cases h
  | cons b bs =>
    by_cases hb : b.toNat < 0x80
    · rw [step, if_pos hb] at h
      obtain ⟨rfl, rfl⟩ := Step.char.inj h
      rw [encodeChar_eq_one hb, List.singleton_append]
    · cases hlead : leading b.toNat with
      | none =>
        simp only [step, if_neg hb, hlead] at h
        cases h
      | some range =>
        obtain ⟨n, lo, hi⟩ := range
        cases bs with
        | nil =>
          simp only [step, if_neg hb, hlead] at h
          cases h
        | cons b₁ bs =>
          rw [step_cons_cons hlead] at h
          split at h
          · rename_i h₁
            obtain ⟨tail, hlength, htail, rfl, rfl⟩ := continuing_eq_char.1 h
            rw [encodeChar_of_leading hlead h₁ hlength htail]
            rfl
          · cases h

/-- A first byte that asks for more, with all of them in their bounds, is read with them. -/
private theorem step_eq_char {b b₁ : UInt8} (tail : List UInt8) {rest : List UInt8} {c : Char}
    (hb : 0xC2 ≤ b.toNat ∧ b.toNat ≤ 0xF4)
    (hfirst : ∀ n lo hi, leading b.toNat = some (n, lo, hi) →
      tail.length = n - 1 ∧ lo ≤ b₁.toNat ∧ b₁.toNat ≤ hi ∧
      tail.foldl (fun acc b => acc * 64 + b.toNat % 64) ((if n = 1 then b.toNat % 32 else
        if n = 2 then b.toNat % 16 else b.toNat % 8) * 64 + b₁.toNat % 64) = c.toNat)
    (htail : ∀ b ∈ tail, 0x80 ≤ b.toNat ∧ b.toNat ≤ 0xBF) :
    step (b :: b₁ :: (tail ++ rest)) = .char c rest := by
  obtain ⟨n, lo, hi, hlead⟩ := exists_leading hb
  obtain ⟨hlength, hlo, hhi, hbits⟩ := hfirst n lo hi hlead
  rw [step_cons_cons hlead, if_pos ⟨hlo, hhi⟩, continuing_eq_char]
  exact ⟨tail, hlength, htail, rfl, by rw [hbits, Char.ofNat_toNat]⟩

/-- The bytes of a character are read as that character. -/
theorem step_encodeChar (c : Char) (rest : List UInt8) :
    step (encodeChar c ++ rest) = .char c rest := by
  have hc : c.toNat < 0xD800 ∨ 0xDFFF < c.toNat ∧ c.toNat < 0x110000 := c.valid
  have hlast : (0x80 + c.toNat % 64).toUInt8.toNat = 0x80 + c.toNat % 64 := toNat_toUInt8 (by omega)
  have hmiddle : (0x80 + c.toNat / 64 % 64).toUInt8.toNat = 0x80 + c.toNat / 64 % 64 :=
    toNat_toUInt8 (by omega)
  unfold encodeChar
  dsimp only
  split
  · rename_i h
    have hb : c.toNat.toUInt8.toNat = c.toNat := toNat_toUInt8 (by omega)
    simp only [List.singleton_append, step, hb, if_pos h, Char.ofNat_toNat]
  split
  · have hb : (0xC0 + c.toNat / 64).toUInt8.toNat = 0xC0 + c.toNat / 64 := toNat_toUInt8 (by omega)
    refine step_eq_char [] (by omega) (fun n lo hi hlead => ?_) (by simp)
    have hrange := leading_eq_some hlead
    obtain rfl : n = 1 := by omega
    refine ⟨rfl, by omega, by omega, ?_⟩
    simp only [List.foldl_nil, if_true]
    omega
  split
  · have hb : (0xE0 + c.toNat / 4096).toUInt8.toNat = 0xE0 + c.toNat / 4096 :=
      toNat_toUInt8 (by omega)
    refine step_eq_char [_] (by omega) (fun n lo hi hlead => ?_)
      (List.forall_mem_singleton.2 (by omega))
    have hrange := leading_eq_some hlead
    obtain rfl : n = 2 := by omega
    refine ⟨rfl, by omega, by omega, ?_⟩
    simp only [List.foldl_cons, List.foldl_nil, if_true, if_neg (show ¬2 = 1 by omega)]
    omega
  · have hb : (0xF0 + c.toNat / 262144).toUInt8.toNat = 0xF0 + c.toNat / 262144 :=
      toNat_toUInt8 (by omega)
    have hsecond : (0x80 + c.toNat / 4096 % 64).toUInt8.toNat = 0x80 + c.toNat / 4096 % 64 :=
      toNat_toUInt8 (by omega)
    refine step_eq_char [_, _] (by omega) (fun n lo hi hlead => ?_)
      (List.forall_mem_cons.2 ⟨by omega, List.forall_mem_singleton.2 (by omega)⟩)
    have hrange := leading_eq_some hlead
    obtain rfl : n = 3 := by omega
    refine ⟨rfl, by omega, by omega, ?_⟩
    simp only [List.foldl_cons, List.foldl_nil, if_neg (show ¬3 = 1 by omega),
      if_neg (show ¬3 = 2 by omega)]
    omega

/-- Only where there is no data is nothing to read. -/
private theorem step_eq_done {bs : List UInt8} (h : step bs = .done) : bs = [] := by
  have hcontinuing (first : UInt8) (good acc n : Nat) (bs : List UInt8) :
      continuing first good acc n bs ≠ .done := by
    fun_induction continuing first good acc n bs <;> first | assumption | nofun
  match bs with
  | [] => rfl
  | b :: bs =>
    simp only [step] at h
    split at h
    · cases h
    · split at h
      · cases h
      · split at h
        · cases h
        · split at h
          · exact (hcontinuing _ _ _ _ _ h).elim
          · cases h

/-- What stands at the front of the bytes of a text is its first character. -/
private theorem step_encode (cs : List Char) : step (encode cs) =
    match cs with
    | [] => .done
    | c :: cs => .char c (encode cs) := by
  cases cs with
  | nil => rfl
  | cons c cs => exact step_encodeChar c (encode cs)

/-- Data is read as a text exactly when it is the bytes of the text. -/
theorem decodeFrom_eq_ok_iff {offset : Nat} {bs : List UInt8} {cs : List Char} :
    decodeFrom offset bs = .ok cs ↔ bs = encode cs := by
  fun_induction decodeFrom offset bs generalizing cs with
  | case1 offset bs hstep =>
    constructor
    · intro h
      obtain rfl := Except.ok.inj h
      exact step_eq_done hstep
    · rintro rfl
      rw [step_encode] at hstep
      cases cs with
      | nil => rfl
      | cons c cs => cases hstep
  | case2 offset bs c rest hstep _ cs' hrest ih =>
    constructor
    · intro h
      obtain rfl := Except.ok.inj h
      rw [eq_encodeChar_of_step hstep, ih.1 hrest]
      rfl
    · rintro rfl
      rw [step_encode] at hstep
      cases cs with
      | nil => cases hstep
      | cons c' cs =>
        obtain ⟨rfl, rfl⟩ := Step.char.inj hstep
        obtain rfl := Except.ok.inj (hrest.symm.trans (ih.2 rfl))
        rfl
  | case3 offset bs c rest hstep _ e hrest ih =>
    refine iff_of_false nofun ?_
    rintro rfl
    rw [step_encode] at hstep
    cases cs with
    | nil => cases hstep
    | cons c' cs =>
      obtain ⟨rfl, rfl⟩ := Step.char.inj hstep
      rw [ih.2 rfl] at hrest
      cases hrest
  | case4 offset bs b good fault rest hstep =>
    refine iff_of_false nofun ?_
    rintro rfl
    rw [step_encode] at hstep
    cases cs <;> cases hstep

/-- Data is read as a text exactly when it is the bytes of the text. -/
theorem decode_eq_ok_iff {bs : List UInt8} {cs : List Char} : decode bs = .ok cs ↔ bs = encode cs :=
  decodeFrom_eq_ok_iff

/-- The bytes of a text are read as the text, with nothing to replace. -/
theorem decodeLossy_encode (cs : List Char) : decodeLossy (encode cs) = cs := by
  induction cs with
  | nil =>
    rw [decodeLossy]
    rfl
  | cons c cs ih =>
    have hstep := step_encode (c :: cs)
    rw [decodeLossy]
    split
    · rename_i h
      cases hstep.symm.trans h
    · rename_i h
      obtain ⟨rfl, rfl⟩ := Step.char.inj (hstep.symm.trans h)
      rw [ih]
    · rename_i h
      cases hstep.symm.trans h

/-- Texts with the same bytes are the same. -/
theorem encode_injective : Function.Injective encode := by
  intro cs ds h
  exact Except.ok.inj ((decode_eq_ok_iff.2 rfl).symm.trans (decode_eq_ok_iff.2 h))

end TypeWeave.Text.Utf8
