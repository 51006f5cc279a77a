import TypeWeave.Number.Layout
import TypeWeave.Text.Blank
import TypeWeave.Text.Search

/-!
# Markup

Escaping text for markup and taking markup off a text.
-/

namespace TypeWeave.Template.Markup

/-- The escape of a character. -/
def escapeChar (c : Char) : List Char :=
  match c with
  | '&' => "&amp;".toList
  | '<' => "&lt;".toList
  | '>' => "&gt;".toList
  | '\x27' => "&#39;".toList
  | '"' => "&#34;".toList
  | c => [c]

/-- Escape a text. -/
def escape (s : String) : String := String.ofList (s.toList.flatMap escapeChar)

/-- The characters that have a name. -/
def named : List (String × Char) :=
  [("amp", '&'), ("lt", '<'), ("gt", '>'), ("quot", '"'), ("apos", '\x27'), ("nbsp", '\xa0'),
    ("copy", '\xa9'), ("reg", '\xae'), ("hellip", '\u2026'), ("mdash", '\u2014'),
    ("ndash", '\u2013'), ("lsquo", '\u2018'), ("rsquo", '\u2019'), ("ldquo", '\u201c'),
    ("rdquo", '\u201d'), ("laquo", '\xab'), ("raquo", '\xbb'), ("times", '\xd7'),
    ("middot", '\xb7'), ("bull", '\u2022'), ("euro", '\u20ac'), ("deg", '\xb0')]

/-- The number that digits of a base write. -/
def readNumber (base : Nat) (cs : List Char) : Option Nat :=
  if cs.isEmpty then none
  else
    cs.foldl (fun acc c =>
      let d := if c.isDigit then some (c.toNat - '0'.toNat)
        else if 'a' ≤ c.toLower && c.toLower ≤ 'f' then some (c.toLower.toNat - 'a'.toNat + 10)
        else none
      match acc, d with
      | some n, some d => if d < base then some (base * n + d) else none
      | _, _ => none) (some 0)

/-- The character that a reference between `&` and `;` stands for. -/
def reference? (cs : List Char) : Option Char :=
  let ofNumber (n : Nat) : Char :=
    if n.isValidChar && n != 0 then Char.ofNat n else '\ufffd'
  match cs with
  | '#' :: 'x' :: ds | '#' :: 'X' :: ds => (readNumber 16 ds).map ofNumber
  | '#' :: ds => (readNumber 10 ds).map ofNumber
  | cs => named.lookup (String.ofList cs)

/-- Replace references by what they stand for, with `fuel` bounding the characters. -/
def unescapeFrom (fuel : Nat) (cs : List Char) : List Char :=
  match fuel, cs with
  | 0, cs => cs
  | _, [] => []
  | fuel + 1, '&' :: cs =>
    let name := cs.takeWhile fun c => c.isAlphanum || c == '#'
    match reference? name, cs.drop name.length with
    | some c, ';' :: rest => c :: unescapeFrom fuel rest
    | _, _ => '&' :: unescapeFrom fuel cs
  | fuel + 1, c :: cs => c :: unescapeFrom fuel cs

/-- Replace references by what they stand for. -/
def unescape (cs : List Char) : List Char := unescapeFrom cs.length cs

/-- Remove what stands between an opening and a closing mark, as long as both occur. -/
def removeBetween (opening closing : List Char) (fuel : Nat) (cs : List Char) : List Char :=
  match fuel with
  | 0 => cs
  | fuel + 1 =>
    match Text.breakOn? opening cs with
    | none => cs
    | some (before, rest) =>
      match Text.breakOn? closing (opening ++ rest) with
      | none => cs
      | some (_, after) => removeBetween opening closing fuel (before ++ after)

/-- Take comments and tags off a text and collapse its white space. -/
def stripTags (s : String) : String :=
  let cs := s.toList
  let cs := removeBetween "<!--".toList "-->".toList cs.length cs
  let cs := removeBetween ['<'] ['>'] cs.length cs
  String.ofList (unescape (Text.intercalate [' '] (Text.words Text.isBlank cs)))

end TypeWeave.Template.Markup
