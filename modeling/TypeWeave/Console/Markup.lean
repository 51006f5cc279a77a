import TypeWeave.Console.Shortcode
import TypeWeave.Console.Style

/-!
# Markup

Text for the console holds tags in brackets, which style what stands between them and are not shown
themselves. An odd number of backslashes before a tag makes it plain text, which is how text that is
not meant as markup is escaped.
-/

namespace TypeWeave.Console.Markup

/-- Characters that a tag begins with; other brackets are plain text. -/
def opensTag (c : Char) : Bool := ('a' ≤ c && c ≤ 'z') || c == '#' || c == '/' || c == '@'

/-- Characters inside a tag. -/
def isInner (c : Char) : Bool := c != '[' && c != ']'

/-- The text of a tag behind its opening bracket, and what stands behind the closing one. -/
def tagAt? : List Char → Option (List Char × List Char)
  | [] => none
  | c :: cs =>
    if opensTag c then
      match cs.dropWhile isInner with
      | ']' :: rest => some (c :: cs.takeWhile isInner, rest)
      | _ => none
    else none

/-- A tag and what stands behind it make up the text that they were read from. -/
theorem eq_of_tagAt? {cs tag rest : List Char} (h : tagAt? cs = some (tag, rest)) :
    tag ++ ']' :: rest = cs := by
  cases cs with
  | nil => simp [tagAt?] at h
  | cons c cs =>
    simp only [tagAt?] at h
    split at h
    · split at h
      · next r hr =>
        simp only [Option.some.injEq, Prod.mk.injEq] at h
        rw [← h.1, ← h.2, ← hr, List.cons_append, List.takeWhile_append_dropWhile]
      · simp at h
    · simp at h

/-- A character, or a tag with the number of backslashes before it. -/
inductive Segment where
  | char (c : Char)
  | tag (slashes : Nat) (text : List Char)
  deriving DecidableEq, Repr

/-- The text of a segment. -/
def Segment.write : Segment → List Char
  | .char c => [c]
  | .tag n text => List.replicate n '\\' ++ '[' :: text ++ [']']

/-- A tag at the start of a text with the backslashes before it, and the text behind it. -/
def segmentAt? (cs : List Char) : Option (Segment × List Char) :=
  match cs.dropWhile (· == '\\') with
  | '[' :: rest =>
    (tagAt? rest).map fun (text, rest) => (.tag (cs.takeWhile (· == '\\')).length text, rest)
  | _ => none

/-- A segment and what stands behind it make up the text that they were read from. -/
theorem eq_of_segmentAt? {cs rest : List Char} {s : Segment}
    (h : segmentAt? cs = some (s, rest)) : s.write ++ rest = cs := by
  unfold segmentAt? at h
  split at h
  · next r hr =>
    obtain ⟨⟨text, behind⟩, ht, he⟩ := Option.map_eq_some_iff.1 h
    simp only [Prod.mk.injEq] at he
    have hs : List.replicate (cs.takeWhile (· == '\\')).length '\\' = cs.takeWhile (· == '\\') :=
      (List.eq_replicate_of_mem fun c hc => by
        simpa using List.all_eq_true.1 List.all_takeWhile c hc).symm
    rw [← he.1, ← he.2, Segment.write, hs, List.append_assoc, List.append_assoc,
      List.singleton_append, List.cons_append, eq_of_tagAt? ht, ← hr,
      List.takeWhile_append_dropWhile]
  · simp at h

/-- A segment that is read takes a part of the text. -/
theorem length_segmentAt? {cs rest : List Char} {s : Segment}
    (h : segmentAt? cs = some (s, rest)) : rest.length < cs.length := by
  have hw : 0 < s.write.length := by
    cases s <;> simp only [Segment.write, List.length_append, List.length_cons] <;> omega
  have hl := congrArg List.length (eq_of_segmentAt? h)
  rw [List.length_append] at hl
  omega

/-- The segments of a text. -/
def segments (cs : List Char) : List Segment :=
  match h : segmentAt? cs with
  | some (s, rest) =>
    have := length_segmentAt? h
    s :: segments rest
  | none =>
    match cs with
    | [] => []
    | c :: cs => .char c :: segments cs
termination_by cs.length

/-- Escape a segment: a tag gets an odd number of backslashes, which show as those it has. -/
def Segment.escape : Segment → List Char
  | .char c => [c]
  | .tag n text => (Segment.tag (2 * n + 1) text).write

/-- Escape text that is not meant as markup. A single backslash at the end is doubled, so that it
escapes nothing that is put behind it. -/
def escape (cs : List Char) : List Char :=
  let escaped := (segments cs).flatMap Segment.escape
  match escaped.reverse with
  | '\\' :: '\\' :: _ => escaped
  | '\\' :: _ => escaped ++ ['\\']
  | _ => escaped

/-- Plain text, or a tag with its place in the markup. -/
inductive Piece where
  | plain (text : List Char)
  | tag (position : Nat) (text : List Char)
  deriving DecidableEq, Repr

/-- The pieces of markup. The text since the last tag is held back, last character first. -/
def pieces (position : Nat) (held : List Char) : List Segment → List Piece
  | [] => [.plain held.reverse]
  | .char c :: ss => pieces (position + 1) (c :: held) ss
  | .tag n text :: ss =>
    let shown :=
      if n % 2 = 1 then Piece.plain ('[' :: text ++ [']']) else .tag (position + n) text
    .plain held.reverse :: .plain (List.replicate (n / 2) '\\') :: shown ::
      pieces (position + n + text.length + 2) [] ss

/-- Why markup cannot be shown. -/
inductive Fault where
  /-- A closing tag for a style that is not open. -/
  | notOpen (tag : List Char) (position : Nat)
  /-- A closing tag while nothing is open. -/
  | nothingOpen (position : Nat)
  deriving DecidableEq, Repr

/-- The words for a fault. -/
def Fault.message : Fault → String
  | .notOpen tag position =>
    "closing tag '[" ++ String.ofList tag ++ "]' at position " ++ toString position ++
      " doesn't match any open tag"
  | .nothingOpen position =>
    "closing tag '[/]' at position " ++ toString position ++ " has nothing to close"

/-- The name of a tag, which ends at an equals sign. -/
def tagName (text : List Char) : List Char := text.takeWhile (· != '=')

/-- Open or close a tag, given the names of the styles that are open, the latest first. -/
def follow (opened : List (List Char)) (position : Nat) (text : List Char) :
    Except Fault (List (List Char)) :=
  match tagName text with
  | '/' :: closing =>
    match Text.stripBlank closing, opened with
    | [], [] => .error (.nothingOpen position)
    | [], _ :: opened => .ok opened
    | name, opened =>
      let name := Style.normalName name
      if opened.contains name then .ok (opened.erase name) else .error (.notOpen text position)
  | name => .ok (Style.normalName name :: opened)

/-- What plain text shows: a bracket with a backslash is a bracket, and emoji codes are replaced. -/
def shownText (text : List Char) : List Char :=
  Shortcode.replace (Text.replace ['\\', '['] ['['] text)

/-- What pieces show. -/
def shown (opened : List (List Char)) : List Piece → Except Fault (List Char)
  | [] => .ok []
  | .plain text :: ps => (shown opened ps).map (shownText text ++ ·)
  | .tag position text :: ps =>
    match follow opened position text with
    | .ok opened => shown opened ps
    | .error f => .error f

/-- What markup shows on a console without styles. -/
def render (cs : List Char) : Except Fault (List Char) := shown [] (pieces 0 [] (segments cs))

end TypeWeave.Console.Markup
