import TypeWeave.Text.LetterCase
import Mathlib.Data.Char
import Mathlib.Data.List.Infix

/-!
# Lower forms and underscores

On ASCII the lower form of a text is that of each of its characters. Beyond it a character may have a
longer lower form, but never one with an underscore, so that a lowered text has two underscores in a
row where the text had them, and none that starts in ASCII but for two letters, so that what a lowered
text starts with tells what the text starts with. Main statements: `lower_of_ascii`,
`isDoubled_lower_iff` and `map_toUpper_isPrefix_upper`.
-/

namespace TypeWeave.Text

variable {c : Char} {cs p : List Char}

/-- What holds of the characters with the first 128 numbers holds of those of ASCII. -/
theorem forall_ascii {P : Char → Prop} (h : ∀ n < 128, P (Char.ofNat n)) (hc : c.toNat < 128) :
    P c := by
  have hself := h c.toNat hc
  rwa [Char.ofNat_toNat] at hself

/-- A character that is not the null character is that of its own number only. -/
theorem toNat_of_ofNat_eq {n : Nat} (hc : c ≠ '\x00') (h : Char.ofNat n = c) : c.toNat = n := by
  by_cases hn : n.isValidChar
  · rw [← h, Char.ofNat, dif_pos hn]
    rfl
  · rw [Char.ofNat, dif_neg hn] at h
    exact absurd h.symm hc

theorem lowerAt_of_ascii (hc : c.toNat < 128) (b cs : List Char) : lowerAt b c cs = [c.toLower] := by
  have hsigma : ¬(c == 'Σ') = true := fun h => by
    rw [eq_of_beq h] at hc
    exact absurd hc (by decide)
  rw [lowerAt, if_neg hsigma, lowerChar, if_pos hc]

theorem lowerFrom_of_ascii (h : ∀ c ∈ cs, c.toNat < 128) (b : List Char) :
    lowerFrom b cs = cs.map Char.toLower := by
  induction cs generalizing b with
  | nil => rfl
  | cons c cs ih =>
    obtain ⟨hc, hcs⟩ := List.forall_mem_cons.1 h
    rw [lowerFrom, lowerAt_of_ascii hc, ih hcs, List.map_cons, List.singleton_append]

/-- A text of ASCII is lowered character by character. -/
theorem lower_of_ascii (h : ∀ c ∈ cs, c.toNat < 128) : lower cs = cs.map Char.toLower :=
  lowerFrom_of_ascii h []

/-- The runs of characters that are lowered leave the numbers up to that of the underscore alone. -/
theorem underscore_lt_of_mem_loweringRuns :
    ∀ r ∈ loweringRuns, (95 : Int) < r.run.first + r.shift := by decide +kernel

/-- The longer lower forms have no underscore. -/
theorem underscore_not_mem_loweringLonger :
    ∀ x ∈ loweringLonger, '_' ∉ x.2.map Char.ofNat := by decide

theorem toLower_eq_underscore_iff (hascii : c.toNat < 128) : c.toLower = '_' ↔ c = '_' :=
  forall_ascii (P := fun c => c.toLower = '_' ↔ c = '_') (by decide) hascii

theorem underscore_not_mem_mapCase (hc : c ≠ '_') :
    '_' ∉ mapCase loweringRuns loweringLonger c := by
  unfold mapCase
  split
  · rename_i image himage
    obtain ⟨before, after, hlonger, -⟩ := List.lookup_eq_some_iff.1 himage
    exact underscore_not_mem_loweringLonger _ (hlonger ▸ List.mem_append_cons_self)
  · split
    · rename_i r hr
      have hfirst := underscore_lt_of_mem_loweringRuns r (List.mem_of_find?_eq_some hr)
      have hrun := List.find?_some hr
      simp only [CharRun.contains, Bool.and_eq_true, decide_eq_true_eq] at hrun
      rw [List.mem_singleton]
      intro h
      have hnumber := toNat_of_ofNat_eq (by decide) h.symm
      have hunderscore : '_'.toNat = 95 := rfl
      omega
    · simpa using hc.symm

/-- Only an underscore is lowered to one. -/
theorem underscore_not_mem_lowerAt (hc : c ≠ '_') (b cs : List Char) : '_' ∉ lowerAt b c cs := by
  unfold lowerAt
  split
  · split <;> decide
  · unfold lowerChar
    split
    · rename_i hascii
      rw [List.mem_singleton]
      exact fun h => hc ((toLower_eq_underscore_iff hascii).1 h.symm)
    · exact underscore_not_mem_mapCase hc

theorem lowerAt_underscore (b cs : List Char) : lowerAt b '_' cs = ['_'] :=
  lowerAt_of_ascii (by decide) b cs

/-- Something is left of every character that is lowered. -/
theorem lowerAt_ne_nil (b : List Char) (c : Char) (cs : List Char) : lowerAt b c cs ≠ [] := by
  have hlonger : ∀ x ∈ loweringLonger, x.2 ≠ [] := by decide
  unfold lowerAt lowerChar mapCase
  split
  · simp
  · split
    · simp
    · split
      · rename_i image himage
        obtain ⟨before, after, heq, -⟩ := List.lookup_eq_some_iff.1 himage
        simpa using hlonger _ (heq ▸ List.mem_append_cons_self)
      · split <;> simp

theorem head?_lowerFrom_eq_underscore_iff (b : List Char) :
    (lowerFrom b cs).head? = some '_' ↔ cs.head? = some '_' := by
  cases cs with
  | nil => rfl
  | cons c cs =>
    rw [lowerFrom, List.head?_append_of_ne_nil _ (lowerAt_ne_nil b c cs), List.head?_cons]
    by_cases hc : c = '_'
    · rw [hc, lowerAt_underscore]
      rfl
    · refine iff_of_false (fun h => ?_) fun h => hc (Option.some.inj h)
      exact underscore_not_mem_lowerAt hc b cs (List.mem_of_head? h)

/-- A text with two underscores in a row. -/
def IsDoubled (cs : List Char) : Prop := ['_', '_'] <:+: cs

instance (cs : List Char) : Decidable (IsDoubled cs) := inferInstanceAs (Decidable (_ <:+: _))

theorem isDoubled_cons_iff :
    IsDoubled (c :: cs) ↔ c = '_' ∧ cs.head? = some '_' ∨ IsDoubled cs := by
  unfold IsDoubled
  rw [List.infix_cons_iff, List.cons_prefix_cons]
  refine or_congr_left (and_congr eq_comm ?_)
  cases cs with
  | nil => simp
  | cons d ds => simp [List.cons_prefix_cons, eq_comm]

theorem isDoubled_append_iff (h : '_' ∉ p) : IsDoubled (p ++ cs) ↔ IsDoubled cs := by
  induction p with
  | nil => rfl
  | cons c p ih =>
    rw [List.mem_cons, not_or] at h
    rw [List.cons_append, isDoubled_cons_iff, ih h.2, or_iff_right fun hc => h.1 hc.1.symm]

theorem isDoubled_lowerFrom_iff (b : List Char) : IsDoubled (lowerFrom b cs) ↔ IsDoubled cs := by
  induction cs generalizing b with
  | nil => rfl
  | cons c cs ih =>
    rw [lowerFrom, isDoubled_cons_iff]
    by_cases hc : c = '_'
    · rw [hc, lowerAt_underscore, List.singleton_append, isDoubled_cons_iff, ih,
        head?_lowerFrom_eq_underscore_iff]
    · rw [isDoubled_append_iff (underscore_not_mem_lowerAt hc b cs), ih,
        or_iff_right fun h => hc h.1]

/-- Lowering a text leaves its rows of underscores as they are. -/
theorem isDoubled_lower_iff : IsDoubled (lower cs) ↔ IsDoubled cs := isDoubled_lowerFrom_iff []

/-- The runs of characters beyond ASCII stay beyond it when they are lowered, but for the sign for
kelvin. -/
theorem lowered_of_mem_loweringRuns : ∀ r ∈ loweringRuns,
    r.run.last < 128 ∨ 128 ≤ (r.run.first : Int) + r.shift ∨
      r.run.last = r.run.first ∧ (r.run.first : Int) + r.shift = 'k'.toNat := by decide +kernel

/-- The longer lower forms start with an `i`. -/
theorem head?_of_mem_loweringLonger :
    ∀ x ∈ loweringLonger, (x.2.map Char.ofNat).head? = some 'i' := by decide

/-- A character beyond ASCII is not mapped to what starts with a character of ASCII, but for an `i` and
a `k`; a number that is none of a character would give the null character. -/
theorem mem_of_mem_head?_mapCase {d : Char} (hc : 128 ≤ c.toNat)
    (hd : d ∈ (mapCase loweringRuns loweringLonger c).head?) (hascii : d.toNat < 128) :
    d ∈ ['\x00', 'i', 'k'] := by
  by_contra hother
  simp only [List.mem_cons, List.not_mem_nil, or_false, not_or] at hother
  obtain ⟨hnull, hi, hk⟩ := hother
  unfold mapCase at hd
  split at hd
  · rename_i image himage
    obtain ⟨before, after, heq, -⟩ := List.lookup_eq_some_iff.1 himage
    have hfirst := head?_of_mem_loweringLonger _ (heq ▸ List.mem_append_cons_self)
    exact hi (Option.some.inj (hd.symm.trans hfirst))
  · split at hd
    · rename_i r hr
      have hrun := List.find?_some hr
      simp only [CharRun.contains, Bool.and_eq_true, decide_eq_true_eq] at hrun
      have hnumber := toNat_of_ofNat_eq hnull (Option.some.inj hd)
      obtain hlast | hbeyond | ⟨hone, hkelvin⟩ :=
        lowered_of_mem_loweringRuns r (List.mem_of_find?_eq_some hr)
      · omega
      · omega
      · exact hk (Char.toNat_inj.1 (by omega))
    · cases Option.some.inj hd
      omega

/-- Only a character of ASCII is lowered to what starts with one, but for an `i` and a `k`. -/
theorem ascii_of_mem_head?_lowerAt {d : Char} {b : List Char} (hd : d ∈ (lowerAt b c cs).head?)
    (hascii : d.toNat < 128) (hother : d ∉ ['\x00', 'i', 'k']) : c.toNat < 128 := by
  by_contra hc
  unfold lowerAt lowerChar at hd
  rw [if_neg hc] at hd
  split at hd
  · split at hd <;> (cases Option.some.inj hd; exact absurd hascii (by decide))
  · exact hother (mem_of_mem_head?_mapCase (Nat.le_of_not_lt hc) hd hascii)

/-- What a lowered text starts with, the text starts with in upper case, as long as only characters
of ASCII are lowered to it. -/
theorem map_toUpper_isPrefix_upper {b : List Char}
    (h : ∀ d ∈ p, d.toNat < 128 ∧ d ∉ ['\x00', 'i', 'k']) (hp : p <+: lowerFrom b cs) :
    p.map Char.toUpper <+: upper cs := by
  induction p generalizing b cs with
  | nil => exact List.nil_prefix
  | cons d p ih =>
    obtain ⟨⟨hascii, hother⟩, hrest⟩ := List.forall_mem_cons.1 h
    cases cs with
    | nil => exact absurd (List.prefix_nil.1 hp) (List.cons_ne_nil d p)
    | cons c cs =>
      have hhead : d ∈ (lowerAt b c cs).head? := by
        obtain ⟨rest, heq⟩ := hp
        have hfirst := congrArg List.head? heq
        rw [lowerFrom, List.head?_append_of_ne_nil _ (lowerAt_ne_nil b c cs)] at hfirst
        exact hfirst.symm
      have hc := ascii_of_mem_head?_lowerAt hhead hascii hother
      rw [lowerFrom, lowerAt_of_ascii hc, List.singleton_append, List.cons_prefix_cons] at hp
      obtain ⟨rfl, hp⟩ := hp
      have hupper : c.toLower.toUpper = c.toUpper :=
        forall_ascii (P := fun c => c.toLower.toUpper = c.toUpper) (by decide) hc
      have hone : upperChar c = [c.toUpper] := if_pos hc
      rw [upper, List.flatMap_cons, hone, List.singleton_append, List.map_cons, hupper,
        List.cons_prefix_cons]
      exact ⟨rfl, ih hrest hp⟩

end TypeWeave.Text
