import TypeWeave.Command.Editor
import TypeWeave.File.Tree
import TypeWeave.Text.Split
import TypeWeave.Text.Utf8

/-!
# Text filters

Small commands that read a text and write another. Texts are lists of characters of which each
stands for one byte.
-/

namespace TypeWeave.Command

/-- Bytes as characters. -/
def octets (bytes : List UInt8) : List Char := bytes.map fun b => Char.ofNat b.toNat

/-- Characters as bytes. -/
def bytesOf (cs : List Char) : List UInt8 := cs.map fun c => c.toNat.toUInt8

/-- What a command wrote, its status and the input that it left unread. -/
structure Reply where
  output : List Char := []
  errors : List Char := []
  status : Int := 0
  unread : List Char := []
  deriving DecidableEq, Repr

namespace Tool

/-- A reply that only writes output. -/
def writes (cs : List Char) : Reply := { output := cs }

/-- A failure with a line of diagnostics. -/
def fails (status : Int) (line : String) : Reply :=
  { errors := line.toList ++ ['\n'], status := status }

/-- Join texts with blanks. -/
def spaced (args : List (List Char)) : List Char := Text.intercalate [' '] args

/-- The character of up to `n` octal digits at the front of a text, and what is behind them. -/
def octal (n : Nat) (cs : List Char) : Option (Char × List Char) :=
  let ds := (cs.take n).takeWhile fun c => '0' ≤ c && c ≤ '7'
  if ds.isEmpty then none
  else
    let value := ds.foldl (fun v d => 8 * v + (d.toNat - '0'.toNat)) 0
    some (Char.ofNat (value % 256), cs.drop ds.length)

/-- The character that a letter behind a backslash stands for. -/
def escapes : List (Char × Char) :=
  [('n', '\n'), ('t', '\t'), ('r', '\r'), ('\\', '\\'), ('a', '\x07'), ('b', '\x08'),
    ('f', '\x0c'), ('v', '\x0b')]

/-- Expand escapes. Octal escapes have up to three digits, behind a zero if `zero` is set. The
flag tells whether `\c` ended the text. -/
def unescape (zero : Bool) (fuel : Nat) (cs : List Char) : List Char × Bool :=
  match fuel, cs with
  | 0, cs => (cs, false)
  | _, [] => ([], false)
  | fuel + 1, '\\' :: c :: rest =>
    let plain : List Char × Bool :=
      match escapes.lookup c with
      | some e =>
        let (out, ended) := unescape zero fuel rest
        (e :: out, ended)
      | none =>
        let (out, ended) := unescape zero fuel rest
        ('\\' :: c :: out, ended)
    if c == 'c' then ([], true)
    else
      let digits := if zero && c == '0' then rest else if zero then [] else c :: rest
      match octal 3 digits with
      | some (e, after) =>
        let (out, ended) := unescape zero fuel after
        (e :: out, ended)
      | none => plain
  | fuel + 1, c :: rest =>
    let (out, ended) := unescape zero fuel rest
    (c :: out, ended)

/-- Write words; `expands` tells whether escapes are expanded. -/
def echo (expands : Bool) (args : List (List Char)) : Reply :=
  let (quiet, args) := match args with
    | ['-', 'n'] :: rest => (true, rest)
    | args => (false, args)
  let text := spaced args
  if expands then
    let (out, ended) := unescape true (text.length + 1) text
    writes (if quiet || ended then out else out ++ ['\n'])
  else writes (if quiet then text else text ++ ['\n'])

/-- Write a format once, with its directives filled in; what is left of the words. -/
def fillFormat (fuel : Nat) (format : List Char) (args : List (List Char)) :
    List Char × List (List Char) :=
  match fuel, format with
  | 0, _ | _, [] => ([], args)
  | fuel + 1, '%' :: d :: rest =>
    let arg := args.headD []
    let (shown, args) :=
      if d == '%' then (['%'], args)
      else if d == 's' then (arg, args.drop 1)
      else if d == 'd' then (if arg.isEmpty then ['0'] else arg, args.drop 1)
      else if d == 'c' then (arg.take 1, args.drop 1)
      else if d == 'b' then ((unescape true (arg.length + 1) arg).1, args.drop 1)
      else (['%', d], args)
    let (out, args) := fillFormat fuel rest args
    (shown ++ out, args)
  | fuel + 1, c :: rest =>
    let (out, args) := fillFormat fuel rest args
    (c :: out, args)

/-- Write a format as often as the words need. -/
def printf (fuel : Nat) (format : List Char) (args : List (List Char)) : List Char :=
  match fuel with
  | 0 => []
  | fuel + 1 =>
    let (out, left) := fillFormat (format.length + 1) format args
    if left.isEmpty || left.length = args.length then out else out ++ printf fuel format left

/-- The members of a set of characters as it is written for a transliteration. -/
def charSet (fuel : Nat) (cs : List Char) : List Char :=
  match fuel with
  | 0 => []
  | fuel + 1 =>
    let between (lo hi : Char) : List Char :=
      (List.range (hi.toNat + 1 - lo.toNat)).map fun i => Char.ofNat (lo.toNat + i)
    let item (c : Char) (rest : List Char) : List Char :=
      match rest with
      | '-' :: hi :: rest => between c hi ++ charSet fuel rest
      | rest => c :: charSet fuel rest
    let whole (members : List Char) (name : String) : List Char :=
      members ++ charSet fuel (cs.drop name.length)
    if Text.startsWith "[:upper:]".toList cs then whole (between 'A' 'Z') "[:upper:]"
    else if Text.startsWith "[:lower:]".toList cs then whole (between 'a' 'z') "[:lower:]"
    else if Text.startsWith "[:digit:]".toList cs then whole (between '0' '9') "[:digit:]"
    else if Text.startsWith "[:alpha:]".toList cs then
      whole (between 'A' 'Z' ++ between 'a' 'z') "[:alpha:]"
    else if Text.startsWith "[:space:]".toList cs then
      whole ['\t', '\n', '\x0b', '\x0c', '\r', ' '] "[:space:]"
    else
      match cs with
      | [] => []
      | '\\' :: rest =>
        match octal 3 rest, rest with
        | some (c, rest), _ => item c rest
        | none, c :: rest => item ((escapes.lookup c).getD c) rest
        | none, [] => ['\\']
      | c :: rest => item c rest

/-- One of each run of equal characters that are in a set. -/
def squeeze (inSet : Char → Bool) : List Char → List Char
  | a :: b :: cs =>
    if a == b && inSet a then squeeze inSet (b :: cs) else a :: squeeze inSet (b :: cs)
  | cs => cs

/-- Transliterate, delete or squeeze characters. -/
def exchange (args : List (List Char)) (input : List Char) : Reply :=
  let options := ((args.takeWhile fun a => a.head? == some '-' && 1 < a.length).map (·.drop 1)).flatten
  let sets := (args.dropWhile fun a => a.head? == some '-' && 1 < a.length).map fun s =>
    charSet (s.length + 1) s
  let first := sets.headD []
  let second := (sets.drop 1).headD []
  let complement := options.contains 'c' || options.contains 'C'
  let inFirst (c : Char) : Bool := first.contains c != complement
  let pairs := first.zip (second ++ List.replicate (first.length - second.length)
    (second.getLast?.getD ' '))
  let change (c : Char) : Char :=
    if complement then if inFirst c then second.getLast?.getD c else c
    else (pairs.reverse.lookup c).getD c
  let squeezes := options.contains 's'
  if options.contains 'd' then writes (input.filter fun c => !inFirst c)
  else if second.isEmpty then writes (if squeezes then squeeze inFirst input else input)
  else
    let changed := input.map change
    writes (if squeezes then squeeze second.contains changed else changed)

/-- The count that an option of `head` and `tail` gives, with its unit (`c` or `n`) and sign. -/
def extent : List (List Char) → Option (Char × Option Char × Nat)
  | [] => some ('n', none, 10)
  | args =>
    let (unit, rest) := match args with
      | ('-' :: 'n' :: more) :: rest => ('n', more :: rest)
      | ('-' :: 'c' :: more) :: rest => ('c', more :: rest)
      | ('-' :: more) :: rest => ('n', more :: rest)
      | rest => ('n', rest)
    let count := if rest.headD [] == [] then (rest.drop 1).headD [] else rest.headD []
    let (sign, digits) := match count with
      | '-' :: ds => (some '-', ds)
      | '+' :: ds => (some '+', ds)
      | ds => (none, ds)
    if digits.isEmpty || !digits.all Char.isDigit then none
    else some (unit, sign, (Editor.number digits).1)

/-- The front of a text, in lines or bytes. -/
def head (args : List (List Char)) (input : List Char) : Reply :=
  match extent args with
  | none => fails 1 "head: invalid number"
  | some (unit, sign, n) =>
    let keep {α : Type} (xs : List α) : List α :=
      if sign == some '-' then xs.take (xs.length - n) else xs.take n
    writes (if unit == 'c' then keep input else (keep (rows input)).flatten)

/-- The end of a text, in lines or bytes. -/
def tail (args : List (List Char)) (input : List Char) : Reply :=
  match extent args with
  | none => fails 1 "tail: invalid number"
  | some (unit, sign, n) =>
    let keep {α : Type} (xs : List α) : List α :=
      if sign == some '+' then xs.drop (n - 1) else xs.drop (xs.length - n)
    writes (if unit == 'c' then keep input else (keep (rows input)).flatten)

/-- Count lines, words and bytes. -/
def count (args : List (List Char)) (input : List Char) : Reply :=
  let options := (args.map (·.drop 1)).flatten
  let wants (c : Char) : Bool := options.isEmpty || options.contains c
  let words := (Text.words (fun c => !(c == ' ' || ('\t' ≤ c && c ≤ '\r'))) input).length
  let counts := (if wants 'l' then [input.count '\n'] else []) ++
    (if wants 'w' then [words] else []) ++ if wants 'c' then [input.length] else []
  let width := if counts.length = 1 then 1 else 7
  let shown := counts.map fun n => Text.padLeft width ' ' (toString n).toList
  writes (spaced shown ++ ['\n'])

/-- Edit each line. -/
def edit (args : List (List Char)) (input : List Char) : Reply :=
  let quiet := args.contains ['-', 'n']
  let isOption (a : List Char) : Bool := a == ['-', 'n'] || a == ['-', 'e'] || a == ['-', 'E']
  let scripts := args.filter fun a => !isOption a
  let given := if args.contains ['-', 'e'] then scripts else scripts.take 1
  let script := Text.intercalate ['\n'] given
  match Editor.readEdits (script.length + 1) script with
  | some edits => writes (Editor.run quiet edits 1 (rows input))
  | none => fails 1 "sed: unknown command"

/-- Whether rows are in byte order. -/
def rowBefore : List Char → List Char → Bool
  | [], _ => true
  | _, [] => false
  | a :: as, b :: bs => a < b || (a == b && rowBefore as bs)

/-- One of each run of equal rows. -/
def distinctRuns : List (List Char) → List (List Char)
  | a :: b :: rs => if a == b then distinctRuns (b :: rs) else a :: distinctRuns (b :: rs)
  | rs => rs

/-- Rows with newlines behind them. -/
def unrows (rs : List (List Char)) : List Char := rs.flatMap (· ++ ['\n'])

/-- Put the lines in order. -/
def sort (args : List (List Char)) (input : List Char) : Reply :=
  let options := (args.map (·.drop 1)).flatten
  let sorted := ((rows input).map bare).mergeSort rowBefore
  let once := if options.contains 'u' then distinctRuns sorted else sorted
  writes (unrows (if options.contains 'r' then once.reverse else once))

/-- Keep the lines with a pattern. -/
def search (args : List (List Char)) (input : List Char) : Reply :=
  let isOption (a : List Char) : Bool := a.head? == some '-' && 1 < a.length
  let options := ((args.filter isOption).map (·.drop 1)).flatten
  let pattern := Pattern.ofChars ((args.filter fun a => !isOption a).headD [])
  let found := ((rows input).map bare).filter fun r => pattern.occurs r != options.contains 'v'
  let output :=
    if options.contains 'q' then []
    else if options.contains 'c' then (toString found.length).toList ++ ['\n']
    else unrows found
  { output := output, status := if found.isEmpty then 1 else 0 }

/-- Join files and the input. -/
def concatenate (ws : File.Workspace) (args : List (List Char)) (input : List Char) : Reply :=
  let files := args.filter fun a => a == ['-'] || a.head? != some '-'
  if files.isEmpty then writes input
  else
    let step (r : Reply) (name : List Char) : Reply :=
      if name == ['-'] then { r with output := r.output ++ r.unread, unread := [] }
      else
        match Text.Utf8.decode (bytesOf name) with
        | .error _ => { r with status := 1 }
        | .ok cs =>
          let file := String.ofList cs
          match ws.read (File.Path.ofString file) with
          | .ok bytes => { r with output := r.output ++ octets bytes }
          | .error e =>
            let line := "cat: " ++ file ++ ": " ++ e.refusal.text ++ "\n"
            { r with errors := r.errors ++ line.toList.flatMap fun c => octets (Text.Utf8.encodeChar c),
                     status := 1 }
    files.foldl step { unread := input }

/-- Run the filter of a name. -/
def run? (ws : File.Workspace) (name : String) (args : List (List Char)) (input : List Char) :
    Option Reply :=
  match name with
  | "cat" => some (concatenate ws args input)
  | "true" | "sleep" => some { unread := input }
  | "false" => some { status := 1, unread := input }
  | "echo" => some { echo false args with unread := input }
  | "printf" =>
    let format := args.headD []
    let (format, _) := unescape false (format.length + 1) format
    some { writes (printf (args.length + 1) format (args.drop 1)) with unread := input }
  | "tr" => some (exchange args input)
  | "head" => some (head args input)
  | "tail" => some (tail args input)
  | "wc" => some (count args input)
  | "sed" => some (edit args input)
  | "sort" => some (sort args input)
  | "uniq" => some (writes (unrows (distinctRuns ((rows input).map bare))))
  | "grep" => some (search args input)
  | "rev" => some (writes ((rows input).flatMap fun r => (bare r).reverse ++ ending r))
  | "tac" => some (writes (rows input).reverse.flatten)
  | "tee" => some (writes input)
  | _ => none

end Tool

end TypeWeave.Command
