import TypeWeave.Json.Quoted
import TypeWeave.Template.Filter.Basic
import TypeWeave.Template.JsonText
import TypeWeave.Template.NameCase
import TypeWeave.Template.Pretty
import TypeWeave.Text.Wrap

/-!
# Filters on texts

Letter case, names, quoting, escaping, layout and cutting of texts. A value that is no text is
printed first, unless the filter needs a text.
-/

namespace TypeWeave.Template.Filter

open Eval

/-- A safe text stays safe. -/
def textValue (cs : List Char) (safe : Bool) : Value := .text (String.ofList cs) safe

/-- The name of a filter of the project in messages. -/
def localName (name : String) : String := "create_environment.<locals>." ++ name

/-- The fault of a value that lacks a method. -/
def lacks (v : Value) (method : String) : Eval α :=
  fault .attribute ("\x27" ++ v.typeName ++ "\x27 object has no attribute " ++ Text.quoted method)

/-- The first character of a value in another case, before its rest. -/
def firstChanged (method : String) (f : List Char → List Char) (v : Value) : Eval Value := do
  match v with
  | .text s safe => return textValue (f s.toList) safe
  | v =>
    let head ← Access.slice v .none (.int 1) .none
    lacks head method

/-- The filters that convert names. -/
def names : List (String × Filter) :=
  [("camelcase", simple (localName "to_camel_case") ["text"] [] fun _ v _ =>
      match v with
      | .text s _ => return .ofString (String.ofList (NameCase.camel s.toList))
      | .undefined message _ => fault .undefined message
      | v => lacks v "split"),
    ("snakecase", simple (localName "to_snake_case") ["text"] [] fun _ v _ =>
      match v with
      | .text s _ => return .ofString (String.ofList (NameCase.snake s.toList))
      | v =>
        typeFault ("expected string or bytes-like object, got \x27" ++ v.typeName ++ "\x27")),
    ("lower_first", simple (localName "lower_first") ["text"] [] fun _ v _ =>
      firstChanged "lower" NameCase.lowerFirst v),
    ("upper_first", simple (localName "upper_first") ["text"] [] fun _ v _ =>
      firstChanged "upper" NameCase.upperFirst v),
    ("quote", simple (localName "go_quote") ["value"] [] fun _ v _ => do
      return .ofString (Json.quoteString (← display v))),
    ("receiver", simple (localName "receiver_name") ["type_name"] [] fun _ v _ => do
      match v with
      | .text s _ => return .ofString (String.ofList (NameCase.receiver s.toList))
      | v => firstChanged "lower" id v)]

/-- A character that starts a word of a title when it stands in front of it. -/
def startsTitleWord (c : Char) : Bool :=
  c == '-' || Text.isBlank c || c == '(' || c == '\x7b' || c == '[' || c == '<'

/-- Words with their first character in upper case and the others in lower case. -/
def titleCase (cs : List Char) : List Char :=
  let isEdge := startsTitleWord
  let rec go (fuel : Nat) (cs : List Char) : List Char :=
    match fuel, cs with
    | 0, _ => []
    | _, [] => []
    | fuel + 1, c :: rest =>
      if isEdge c then c :: go fuel rest
      else
        let word := rest.takeWhile (!isEdge ·)
        Text.upperChar c ++ Text.lower word ++ go fuel (rest.drop word.length)
  go cs.length cs

/-- Escape a value for markup unless it is safe. -/
def escaped (v : Value) : Eval Value := do
  match v with
  | .text s true => return .text s true
  | v => return .text (Markup.escape (← display v)) true

/-- Indent the lines of a text. -/
def indentText (by' : List Char) (first blank : Bool) (cs : List Char) : List Char :=
  let lines := Text.wideLines (cs ++ ['\n'])
  let body :=
    if blank then Text.intercalate ('\n' :: by') lines
    else
      match lines with
      | [] => []
      | l :: ls =>
        Text.intercalate ['\n'] (l :: ls.map fun l => if l.isEmpty then l else by' ++ l)
  if first then by' ++ body else body

/-- Percent-encode a text; `form` is the encoding of forms, where a blank becomes a plus sign. -/
def percentEncoded (form : Bool) (cs : List Char) : List Char :=
  (Text.Utf8.encode cs).flatMap fun b =>
    let c := Char.ofNat b.toNat
    if b < 0x80 && (c.isAlphanum || c == '_' || c == '.' || c == '-' || c == '~' ||
        (!form && c == '/')) then [c]
    else if form && c == ' ' then ['+']
    else '%' :: (Text.hexDigits 2 b.toNat).map Char.toUpper

/-- The number of words: runs of word characters. -/
def wordCount (cs : List Char) : Nat := (Text.words (!Text.isWordChar ·) cs).length

/-- Cut a text to a length; the end mark counts. Whole words are kept unless `cutting` is set. -/
def truncated (length leeway : Nat) (cutting : Bool) (mark cs : List Char) : List Char :=
  if cs.length ≤ length + leeway then cs
  else
    let head := cs.take (length - mark.length)
    if cutting then head ++ mark
    else
      match Text.breakOnLast? [' '] head with
      | some (before, _) => before ++ mark
      | none => head ++ mark

/-- The text of a value that must be one. -/
def needText (v : Value) (method : String) : Eval (List Char × Bool) :=
  match v with
  | .text s safe => return (s.toList, safe)
  | .undefined message _ => fault .undefined message
  | v => lacks v method

/-- The characters that are stripped. -/
def trimmed (v chars : Value) : Eval Value := do
  let (cs, safe) ← softText v
  match chars with
  | .none => return textValue (Text.stripBlank cs) safe
  | .text s _ => return textValue (Text.stripWhile (s.toList.contains ·) cs) safe
  | _ => typeFault "strip arg must be None or str"

/-- The attributes of an element, from a dictionary. -/
def elementAttributes (entries : List (Value × Value)) : Eval (List Char) := do
  let pieces ← entries.filterMapM fun (k, v) => do
    match v with
    | .none | .undefined .. => return none
    | v =>
      let key ← display k
      if key.toList.any fun c => Text.isBlank c || c == '/' || c == '>' || c == '=' then
        fault .value ("Invalid character in attribute name: " ++ Text.quoted key)
      let escapedKey := match k with
        | .text s true => s
        | _ => Markup.escape key
      match ← escaped v with
      | .text s _ => return some (escapedKey ++ "=\"" ++ s ++ "\"").toList
      | _ => return none
  return Text.intercalate [' '] pieces

/-- Whether a word looks like an address on the web. -/
def isWebAddress (cs : List Char) : Bool :=
  let rest? := (Text.dropPrefix? "https://".toList cs).orElse fun _ =>
    (Text.dropPrefix? "http://".toList cs).orElse fun _ => Text.dropPrefix? "www.".toList cs
  match rest? with
  | none => false
  | some rest =>
    let host := rest.takeWhile fun c => c != '/' && c != '?' && c != '#' && c != ':'
    let labels := Text.splitOn ['.'] host
    let tld := labels.getLast?.getD []
    labels.all (fun l => !l.isEmpty && l.all fun c => Text.isWordChar c || c == '-' || c == '%') &&
      2 ≤ tld.length && tld.all Char.isAlpha

/-- Turn the addresses in a text into links. -/
def linked (relation : String) (limit : Option Nat) (cs : List Char) : List Char :=
  let link (word : List Char) : List Char :=
    let tail := (word.reverse.takeWhile fun c => c == '.' || c == ',' || c == ')').reverse
    let middle := word.take (word.length - tail.length)
    if isWebAddress middle then
      let href := if Text.startsWith "www.".toList middle then "https://".toList ++ middle
        else middle
      let shown := match limit with
        | some n => if n < middle.length then middle.take n ++ "...".toList else middle
        | none => middle
      "<a href=\"".toList ++ href ++ ("\" rel=\"" ++ relation ++ "\">").toList ++ shown ++
        "</a>".toList ++ tail
    else word
  let rec go (fuel : Nat) (cs : List Char) : List Char :=
    match fuel, cs with
    | 0, _ => []
    | _, [] => []
    | fuel + 1, c :: rest =>
      if Text.isBlank c then c :: go fuel rest
      else
        let word := c :: rest.takeWhile (!Text.isBlank ·)
        link word ++ go fuel (rest.drop (word.length - 1))
  go cs.length cs

/-- The filters that change the look of a text. -/
def texts : List (String × Filter) :=
  let escape := simple "escape" ["s"] [] fun _ v _ => escaped v
  [("upper", onText "do_upper" Text.upper),
    ("lower", onText "do_lower" Text.lower),
    ("capitalize", onText "do_capitalize" Text.capitalize),
    ("title", onText "do_title" fun cs => titleCase cs),
    ("e", escape), ("escape", escape),
    ("forceescape", simple "do_forceescape" ["value"] [] fun _ v _ => do
      return .text (Markup.escape (← display v)) true),
    ("safe", simple "do_mark_safe" ["value"] [] fun _ v _ => do
      return .text (← display v) true),
    ("string", simple "soft_str" ["s"] [] fun _ v _ => do
      let (cs, safe) ← softText v
      return textValue cs safe),
    ("striptags", simple "do_striptags" ["value"] [] fun _ v _ => do
      return .ofString (Markup.stripTags (← display v))),
    ("trim", simple "do_trim" ["value"] [optional "chars" .none] fun _ v args =>
      trimmed v (args.headD .none)),
    ("center", simple "do_center" ["value"] [optional "width" (.int 80)] fun _ v args => do
      let (cs, safe) ← softText v
      return textValue (Text.center (← indexOf (args.headD .none)).toNat ' ' cs) safe),
    ("indent", simple "do_indent" ["s"] [optional "width" (.int 4), optional "first" (.bool false),
        optional "blank" (.bool false)] fun _ v args => do
      let by' ← match args.getD 0 .none with
        | .text s _ => pure s.toList
        | w => do pure (List.replicate (← indexOf w).toNat ' ')
      match v with
      | .text s safe =>
        return textValue
          (indentText by' (← truth (args.getD 1 .none)) (← truth (args.getD 2 .none)) s.toList) safe
      | .list _ => lacks v "splitlines"
      | .undefined message _ => fault .undefined message
      | v =>
        typeFault ("unsupported operand type(s) for +=: \x27" ++ v.typeName ++ "\x27 and \x27str\x27")),
    ("replace", simple "do_replace" ["eval_ctx", "s"] [required "old", required "new",
        optional "count" .none] fun _ v args => do
      let (cs, _) ← softText v
      let old ← display (args.getD 0 .none)
      let new ← display (args.getD 1 .none)
      let n ← match args.getD 2 .none with
        | .none => pure (-1)
        | n => indexOf n
      return .ofString (String.ofList
        (if n < 0 then Text.replace old.toList new.toList cs
          else Text.replaceLimit old.toList new.toList n.toNat cs))),
    ("truncate", simple "do_truncate" ["env", "s"] [optional "length" (.int 255),
        optional "killwords" (.bool false), optional "end" (.ofString "..."),
        optional "leeway" .none] fun _ v args => do
      let mark ← display (args.getD 2 .none)
      let length ← indexOf (args.getD 0 .none)
      let leeway ← match args.getD 3 .none with
        | .none => pure 5
        | n => indexOf n
      if length < mark.length then
        fault .assertion ("expected length >= " ++ toString mark.length ++ ", got " ++
          toString length)
      if leeway < 0 then
        fault .assertion ("expected leeway >= 0, got " ++ toString leeway)
      match v with
      | .text s safe =>
        return textValue (truncated length.toNat leeway.toNat (← truth (args.getD 1 .none))
          mark.toList s.toList) safe
      | v =>
        if (← Eval.length v) ≤ (length + leeway).toNat then return v else lacks v "rsplit"),
    ("urlencode", simple "do_urlencode" ["value"] [] fun _ v _ => do
      let encoded (form : Bool) (v : Value) : Eval (List Char) := do
        return percentEncoded form (← display v).toList
      let pair (e : Value × Value) : Eval (List Char) := do
        return (← encoded true e.1) ++ '=' :: (← encoded true e.2)
      match v with
      | .dict r =>
        let pieces ← (← dictEntries r).mapM pair
        return .ofString (String.ofList (Text.intercalate ['&'] pieces))
      | .list _ | .tuple _ | .view .. | .cursor _ =>
        let pieces ← (← items v).mapM fun e => do
          match ← unpacked 2 e with
          | [a, b] => pair (a, b)
          | _ => return []
        return .ofString (String.ofList (Text.intercalate ['&'] pieces))
      | v => return .ofString (String.ofList (← encoded false v))),
    ("urlize", simple "do_urlize" ["eval_ctx", "value"] [optional "trim_url_limit" .none,
        optional "nofollow" (.bool false), optional "target" .none, optional "rel" .none,
        optional "extra_schemes" .none] fun _ v args => do
      let nofollow ← truth (args.getD 1 .none)
      let relation := if nofollow then "nofollow noopener" else "noopener"
      let s := Markup.escape (← display v)
      let limit := (args.getD 0 .none).int?.map Int.toNat
      return .ofString (String.ofList (linked relation limit s.toList))),
    ("wordcount", simple "do_wordcount" ["s"] [] fun _ v _ => do
      return .int (wordCount (← softText v).1)),
    ("wordwrap", simple "do_wordwrap" ["environment", "s"] [optional "width" (.int 79),
        optional "break_long_words" (.bool true), optional "wrapstring" .none,
        optional "break_on_hyphens" (.bool true)] fun _ v args => do
      let (cs, _) ← needText v "splitlines"
      let width ← indexOf (args.getD 0 .none)
      let long ← truth (args.getD 1 .none)
      let glue ← match args.getD 2 .none with
        | .none => pure "\n"
        | v => display v
      let hyphens ← truth (args.getD 3 .none)
      if width ≤ 0 then fault .value ("invalid width " ++ toString width ++ " (must be > 0)")
      let lines := (Text.wideLines cs).map fun l =>
        Text.intercalate glue.toList (Text.Wrap.wrap width.toNat long hyphens l)
      return .ofString (String.ofList (Text.intercalate glue.toList lines))),
    ("xmlattr", simple "do_xmlattr" ["eval_ctx", "d"] [optional "autospace" (.bool true)]
      fun call v args => do
        match v with
        | .dict r =>
          let body ← elementAttributes (← dictEntries r)
          let spaced ← truth (args.headD .none)
          let body := if spaced && !body.isEmpty then ' ' :: body else body
          return textValue body call.env.autoescape
        | .undefined message _ => fault .undefined message
        | v => lacks v "items"),
    ("pprint", simple "do_pprint" ["value"] [] fun _ v _ => do
      return .ofString (← Pretty.print v)),
    ("tojson", simple "do_tojson" ["eval_ctx", "value"] [optional "indent" .none] fun _ v args => do
      let indent ← match args.headD .none with
        | .none => pure none
        | .text s _ => pure (some s)
        | n => do pure (some (String.ofList (List.replicate (← indexOf n).toNat ' ')))
      JsonText.guarded indent v)]

/-- The filter that formats by percent signs. -/
def format : Filter :=
  ⟨⟨"do_format", ["value"], [], true, true⟩, fun call v _ => do
    let (cs, safe) ← softText v
    if !call.extra.positional.isEmpty && !call.extra.named.isEmpty then
      fault .template "can\x27t handle positional and keyword arguments at the same time"
    let arguments ← if call.extra.named.isEmpty then pure (Value.tuple call.extra.positional)
      else newDict (call.extra.named.map fun (k, v) => (.ofString k, v))
    return .text (← Percent.format Access.item (String.ofList cs) arguments) safe⟩

end TypeWeave.Template.Filter
