import TypeWeave.Proofs.Go.Literal
import TypeWeave.Template.Filter.Table
import Mathlib.Algebra.Group.Nat.Defs

/-!
# Quoted texts as literals of Go

The `quote` filter writes a text between double quotes with the escapes of JSON, and Go reads it
back with its own. The two agree on every character of the basic plane. A character beyond it is
escaped as the two halves of a surrogate pair, neither of which is a code point to Go, so that what
was written is no literal at all. Main statement: `quote_read?`.
-/

namespace TypeWeave.Go.Literal

open Text (hexDigits)
open Text.Utf8 (encode encodeChar)

theorem number?_append {base : Nat} (ds : List Char) (c : Char) :
    number? base (ds ++ [c]) =
      (number? base ds).bind fun n => (digit? base c).map (base * n + ·) := by
  simp only [number?, List.foldlM_append, List.foldlM_cons, List.foldlM_nil, bind_pure]
  rfl

/-- A digit is read as what it was written for. -/
theorem digit?_digitChar : ∀ d < 16, digit? 16 d.digitChar = some d := by decide

/-- The digits of a number are read as the number. -/
theorem number?_toDigits (n : Nat) : number? 16 (Nat.toDigits 16 n) = some n := by
  induction n using Nat.strongRecOn with
  | ind n ih =>
    rw [Nat.toDigits_eq_if (by decide)]
    split
    · rename_i hn
      rw [← List.nil_append [n.digitChar], number?_append, digit?_digitChar n hn]
      simp [number?]
    · rw [number?_append, ih _ (by omega), digit?_digitChar _ (Nat.mod_lt _ (by decide)),
        Option.bind_some, Option.map_some, Nat.div_add_mod]

/-- Zeros in front of a number do not change it. -/
theorem number?_replicate_append (k : Nat) (ds : List Char) :
    number? 16 (List.replicate k '0' ++ ds) = number? 16 ds := by
  induction k with
  | zero => rfl
  | succ k ih =>
    rw [List.replicate_succ, List.cons_append, ← ih]
    rfl

theorem number?_hexDigits (width n : Nat) : number? 16 (hexDigits width n) = some n :=
  (number?_replicate_append _ _).trans (number?_toDigits n)

theorem length_hexDigits {width n : Nat} (hwidth : 0 < width) (hn : n < 16 ^ width) :
    (hexDigits width n).length = width := by
  have := (Nat.length_toDigits_le_iff (by decide) hwidth).2 hn
  rw [hexDigits, List.length_append, List.length_replicate]
  omega

/-- A unit of sixteen bits is read as the character of its number, unless it is a surrogate. -/
theorem rest?_unitEscape {n : Nat} (hn : n < 0x10000) (cs : List Char) :
    rest? (Json.unitEscape n ++ cs) =
      if n.isValidChar then
        (rest? cs).map fun r => (encodeChar (Char.ofNat n) ++ r.1, r.2)
      else none := by
  have hlength : (hexDigits 4 n).length = 4 := length_hexDigits (by decide) hn
  have hescape : escape? ('u' :: (hexDigits 4 n ++ cs)) =
      (codePoint? (hexDigits 4 n)).map (·, cs) := by
    show counted? 4 codePoint? _ = _
    rw [counted?, if_pos (by simp [hlength]), List.take_left' hlength, List.drop_left' hlength]
  have helement : element? '\\' ('u' :: (hexDigits 4 n ++ cs)) =
      escape? ('u' :: (hexDigits 4 n ++ cs)) := rfl
  rw [Json.unitEscape, List.cons_append, List.cons_append, rest?_cons (by decide), helement,
    hescape, codePoint?, number?_hexDigits, Option.bind_some]
  split <;> rfl

/-- A character of the basic plane stands for itself when it is quoted. -/
theorem rest?_quoteChar {c : Char} (hc : c.toNat < 0x10000) (cs : List Char) :
    rest? (Json.quoteChar c ++ cs) = (rest? cs).map fun r => (encodeChar c ++ r.1, r.2) := by
  have hletter {m : Char} {byte : UInt8} (hm : letter? m = some byte) :
      rest? ('\\' :: m :: cs) = (rest? cs).map fun r => ([byte] ++ r.1, r.2) := by
    rw [rest?_cons (by decide), element?, if_neg (by decide), if_pos rfl, escape?, hm]
    rfl
  unfold Json.quoteChar
  split
  iterate 7 exact hletter rfl
  rename_i hquote hslash hnewline _ _ _ _
  split
  · rw [List.singleton_append, rest?_cons hquote, element?, if_neg hnewline, if_neg hslash]
    rfl
  · have hvalid : c.toNat.isValidChar := c.valid
    rw [Json.codeEscape, if_pos hc, rest?_unitEscape hc, if_pos hvalid, Char.ofNat_toNat]

/-- A character beyond the basic plane is no part of a literal when it is quoted. -/
theorem rest?_quoteChar_of_le {c : Char} (hc : 0x10000 ≤ c.toNat) (cs : List Char) :
    rest? (Json.quoteChar c ++ cs) = none := by
  have hbound : c.toNat < 0x110000 := by
    have := c.valid
    simp only [UInt32.isValidChar, Nat.isValidChar] at this
    simp only [Char.toNat]
    omega
  have hcode : Json.quoteChar c = Json.codeEscape c.toNat := by
    unfold Json.quoteChar
    split <;> first | exact absurd hc (by decide) | skip
    rw [if_neg]
    simp
    omega
  rw [hcode, Json.codeEscape, if_neg (by omega), List.append_assoc, rest?_unitEscape (by omega),
    if_neg]
  simp only [Nat.isValidChar]
  omega

/-- A text of characters of the basic plane. -/
def IsBasic (cs : List Char) : Prop := ∀ c ∈ cs, c.toNat < 0x10000

instance (cs : List Char) : Decidable (IsBasic cs) := List.decidableBAll _ _

theorem isBasic_cons {c : Char} {cs : List Char} :
    IsBasic (c :: cs) ↔ c.toNat < 0x10000 ∧ IsBasic cs := List.forall_mem_cons

/-- A quoted text is read back when all of its characters are of the basic plane. -/
theorem rest?_quoted (cs : List Char) :
    rest? (cs.flatMap Json.quoteChar ++ ['"']) =
      if IsBasic cs then some (encode cs, []) else none := by
  induction cs with
  | nil => exact rest?_quote []
  | cons c cs ih =>
    rw [List.flatMap_cons, List.append_assoc]
    by_cases hc : c.toNat < 0x10000
    · rw [rest?_quoteChar hc, ih]
      simp only [isBasic_cons, hc, true_and]
      split <;> rfl
    · rw [rest?_quoteChar_of_le (Nat.le_of_not_lt hc), if_neg]
      exact fun h => hc (isBasic_cons.1 h).1

/-- What JSON writes for a text, read by Go. -/
theorem read?_quoteString (s : String) :
    read? (Json.quoteString s).toList =
      if IsBasic s.toList then some (encode s.toList, []) else none := by
  rw [Json.quoteString, String.toList_ofList]
  exact rest?_quoted s.toList

open Template in
/-- The `quote` filter answers for every text. What it answers is the literal of the text in Go when
no character is beyond the basic plane, and no literal otherwise. -/
theorem quote_read? (ev : Evaluator) (env : Env) (s : String) (safe : Bool) (store : Store) :
    ∃ answer : String,
      (Filter.applyNamed ev env "quote" (.text s safe) ⟨[], []⟩).run store =
          .ok (.ofString answer, store) ∧
        read? answer.toList = if IsBasic s.toList then some (encode s.toList, []) else none :=
  ⟨Json.quoteString s, rfl, read?_quoteString s⟩

open Template in
/-- The halves of a surrogate pair are not read as the character that they were written for. -/
theorem quote_read?_face :
    ∃ answer : String,
      (∀ ev env safe (store : Store),
        (Filter.applyNamed ev env "quote" (.text "😀" safe) ⟨[], []⟩).run store =
          .ok (.ofString answer, store)) ∧
        answer = "\"\\ud83d\\ude00\"" ∧ read? answer.toList = none :=
  ⟨_, fun _ _ _ _ => rfl, by decide, (read?_quoteString "😀").trans (if_neg (by decide))⟩

end TypeWeave.Go.Literal
