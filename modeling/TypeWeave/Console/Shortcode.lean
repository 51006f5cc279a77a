import TypeWeave.Console.Emoji
import TypeWeave.Text.Blank
import TypeWeave.Text.LetterCase

/-!
# Emoji codes

An emoji code is a name between colons, in any letter case. The name may end in a wish for the
coloured or the plain form of the emoji. Codes of unknown names stay as they are.
-/

namespace TypeWeave.Console.Shortcode

/-- Characters that names of codes consist of. -/
def isNameChar (c : Char) : Bool := c != ':' && !Text.isBlank c

/-- The name behind an opening colon, and the text behind the closing one. -/
def nameAt? (cs : List Char) : Option (List Char × List Char) :=
  match cs.dropWhile isNameChar with
  | ':' :: rest => some (cs.takeWhile isNameChar, rest)
  | _ => none

/-- The text behind a code is shorter than the text that begins with its name. -/
theorem length_nameAt? {cs name rest : List Char} (h : nameAt? cs = some (name, rest)) :
    rest.length < cs.length := by
  have hd : (cs.dropWhile isNameChar).length ≤ cs.length :=
    (List.dropWhile_suffix isNameChar).length_le
  unfold nameAt? at h
  split at h
  · next r hr =>
    simp only [Option.some.injEq, Prod.mk.injEq] at h
    rw [hr, h.2] at hd
    simp only [List.length_cons] at hd
    omega
  · simp at h

/-- The endings of names that ask for a form, each with the character that selects it. -/
def forms : List (List Char × Char) :=
  [("-emoji".toList, '\ufe0f'), ("-text".toList, '\ufe0e')]

/-- The form that a name asks for, and the name without the ending that does. -/
def form (name : List Char) : List Char × List Char :=
  match forms.find? fun f => f.1.isSuffixOf name with
  | some (ending, selector) => (name.take (name.length - ending.length), [selector])
  | none => (name, [])

/-- What a code shows. -/
def value? (name : List Char) : Option (List Char) :=
  let (name, selector) := form name
  (Emoji.find? (Text.lower name)).map (· ++ selector)

/-- Replace the codes in a text. -/
def replace (cs : List Char) : List Char :=
  match cs with
  | [] => []
  | c :: cs =>
    if c = ':' then
      match h : nameAt? cs with
      | some (name, rest) =>
        have := length_nameAt? h
        (value? name).getD (':' :: name ++ [':']) ++ replace rest
      | none => ':' :: replace cs
    else c :: replace cs
termination_by cs.length

end TypeWeave.Console.Shortcode
