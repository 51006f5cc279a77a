import TypeWeave.Text.Quoted

/-!
# UTF-8

Decoding with the place of the first byte that starts no well-formed sequence. A well-formed
sequence is the shortest for its character and spells no surrogate half.
-/

namespace TypeWeave.Text.Utf8

/-- Why decoding stopped. -/
inductive Fault where
  /-- No sequence starts with this byte. -/
  | badStart
  /-- A byte inside the sequence does not continue it. -/
  | badContinuation
  /-- The data ends inside the sequence. -/
  | truncated
  deriving DecidableEq, Repr

/-- The words for a fault. -/
def Fault.message : Fault → String
  | .badStart => "invalid start byte"
  | .badContinuation => "invalid continuation byte"
  | .truncated => "unexpected end of data"

/-- A place where data is not UTF-8: the offset of the offending sequence, the number of its
bytes that were good, its first byte and the fault. -/
structure Malformed where
  offset : Nat
  length : Nat
  byte : UInt8
  fault : Fault
  deriving DecidableEq, Repr

/-- How malformed data is told: its only good byte, or the offsets of the first and the last. -/
def Malformed.message (m : Malformed) : String :=
  let place :=
    if m.length ≤ 1 then
      "byte 0x" ++ String.ofList (hexDigits 2 m.byte.toNat) ++ " in position " ++ toString m.offset
    else "bytes in position " ++ toString m.offset ++ "-" ++ toString (m.offset + m.length - 1)
  "'utf-8' codec can't decode " ++ place ++ ": " ++ m.fault.message

/-- How many bytes follow a first byte, with the bounds of the byte after it. -/
def leading (b : Nat) : Option (Nat × Nat × Nat) :=
  if b < 0xC2 then none
  else if b < 0xE0 then some (1, 0x80, 0xBF)
  else if b == 0xE0 then some (2, 0xA0, 0xBF)
  else if b == 0xED then some (2, 0x80, 0x9F)
  else if b < 0xF0 then some (2, 0x80, 0xBF)
  else if b == 0xF0 then some (3, 0x90, 0xBF)
  else if b < 0xF4 then some (3, 0x80, 0xBF)
  else if b == 0xF4 then some (3, 0x80, 0x8F)
  else none

/-- What stands at the front of some data. -/
inductive Step where
  | done
  | char (c : Char) (rest : List UInt8)
  | bad (byte : UInt8) (good : Nat) (fault : Fault) (rest : List UInt8)

/-- Read the last `n` bytes of a sequence, `good` of whose bytes are read already. -/
def continuing (first : UInt8) (good acc : Nat) : Nat → List UInt8 → Step
  | 0, bs => .char (Char.ofNat acc) bs
  | _ + 1, [] => .bad first good .truncated []
  | n + 1, b :: bs =>
    if 0x80 ≤ b.toNat && b.toNat ≤ 0xBF then
      continuing first (good + 1) (acc * 64 + b.toNat % 64) n bs
    else .bad first good .badContinuation (b :: bs)

/-- Read one sequence. -/
def step : List UInt8 → Step
  | [] => .done
  | b :: bs =>
    if b.toNat < 0x80 then .char (Char.ofNat b.toNat) bs
    else
      match leading b.toNat with
      | none => .bad b 1 .badStart bs
      | some (n, lo, hi) =>
        let head := if n == 1 then b.toNat % 32 else if n == 2 then b.toNat % 16 else b.toNat % 8
        match bs with
        | [] => .bad b 1 .truncated []
        | b' :: bs' =>
          if lo ≤ b'.toNat && b'.toNat ≤ hi then
            continuing b 2 (head * 64 + b'.toNat % 64) (n - 1) bs'
          else .bad b 1 .badContinuation bs

/-- The data left after a step. -/
def Step.rest : Step → List UInt8
  | .done => []
  | .char _ rest => rest
  | .bad _ _ _ rest => rest

/-- The last bytes of a sequence leave no more data than there was. -/
theorem length_rest_continuing (first : UInt8) (good acc n : Nat) (bs : List UInt8) :
    (continuing first good acc n bs).rest.length ≤ bs.length := by
  induction n generalizing good acc bs with
  | zero => simp [continuing, Step.rest]
  | succ n ih =>
    cases bs with
    | nil => simp [continuing, Step.rest]
    | cons b bs =>
      simp only [continuing]
      split
      · exact Nat.le_succ_of_le (ih ..)
      · simp [Step.rest]

/-- Every step on some data leaves less data. -/
theorem length_rest_step (b : UInt8) (bs : List UInt8) :
    (step (b :: bs)).rest.length < (b :: bs).length := by
  simp only [step]
  split
  · simp [Step.rest]
  · cases leading b.toNat with
    | none => simp [Step.rest]
    | some t =>
      cases bs with
      | nil => simp [Step.rest]
      | cons b' bs' =>
        dsimp only
        split
        · exact Nat.lt_succ_of_le (Nat.le_succ_of_le (length_rest_continuing ..))
        · simp [Step.rest]

/-- A step that finds a character leaves less data. -/
theorem length_lt_of_step_char {bs rest : List UInt8} {c : Char} (h : step bs = .char c rest) :
    rest.length < bs.length := by
  cases bs with
  | nil => simp [step] at h
  | cons b bs => have := length_rest_step b bs; rwa [h] at this

/-- A step that finds malformed data leaves less data. -/
theorem length_lt_of_step_bad {bs rest : List UInt8} {b : UInt8} {good : Nat} {f : Fault}
    (h : step bs = .bad b good f rest) : rest.length < bs.length := by
  cases bs with
  | nil => simp [step] at h
  | cons b bs => have := length_rest_step b bs; rwa [h] at this

/-- Decode data whose first byte has the given offset. -/
def decodeFrom (offset : Nat) (bs : List UInt8) : Except Malformed (List Char) :=
  match h : step bs with
  | .done => .ok []
  | .char c rest =>
    have := length_lt_of_step_char h
    match decodeFrom (offset + (bs.length - rest.length)) rest with
    | .ok cs => .ok (c :: cs)
    | .error e => .error e
  | .bad b good fault _ => .error ⟨offset, good, b, fault⟩
termination_by bs.length

/-- Decode data, or tell where it is malformed. -/
def decode (bs : List UInt8) : Except Malformed (List Char) := decodeFrom 0 bs

/-- Decode data with a replacement character for each malformed sequence. -/
def decodeLossy (bs : List UInt8) : List Char :=
  match h : step bs with
  | .done => []
  | .char c rest =>
    have := length_lt_of_step_char h
    c :: decodeLossy rest
  | .bad _ _ _ rest =>
    have := length_lt_of_step_bad h
    '\uFFFD' :: decodeLossy rest
termination_by bs.length

/-- The bytes of one character. -/
def encodeChar (c : Char) : List UInt8 :=
  let n := c.toNat
  if n < 0x80 then [n.toUInt8]
  else if n < 0x800 then [(0xC0 + n / 64).toUInt8, (0x80 + n % 64).toUInt8]
  else if n < 0x10000 then
    [(0xE0 + n / 4096).toUInt8, (0x80 + n / 64 % 64).toUInt8, (0x80 + n % 64).toUInt8]
  else
    [(0xF0 + n / 262144).toUInt8, (0x80 + n / 4096 % 64).toUInt8, (0x80 + n / 64 % 64).toUInt8,
      (0x80 + n % 64).toUInt8]

/-- The bytes of a text. -/
def encode (cs : List Char) : List UInt8 := cs.flatMap encodeChar

end TypeWeave.Text.Utf8
