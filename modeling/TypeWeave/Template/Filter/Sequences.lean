import TypeWeave.Template.Filter.Basic
import TypeWeave.Template.Methods

/-!
# Filters on sequences

Ends, order, grouping, selection and folding of sequences. Some filters give their results one by
one: a fault in them appears only when the results are looped over.
-/

namespace TypeWeave.Template.Filter

open Eval

/-- Results that are given one by one. Nothing is looked at if the value counts as false; the rule
for one item is made before the items are read. -/
def lazily (v : Value) (rule : Eval (Value → Eval (List Value))) : Eval Value := fun s =>
  let attempt : Eval Value := do
    if ← truth v then oneByOne v (← rule) else newCursor []
  match attempt.run s with
  | .ok r => .ok r
  | .error f => (failing f).run s

/-- The items of a value from the last one to the first, for values that can be read backwards. -/
def backwards (v : Value) : Eval (List Value) := do
  match v with
  | .undefined message false => fault .undefined message
  | .text .. | .bytes _ | .tuple _ | .group _ _ | .list _ | .dict _ | .view .. | .range ..
  | .undefined _ true => return (← items v).reverse
  | v => typeFault ("\x27" ++ v.typeName ++ "\x27 object is not reversible")

/-- The absence of an item in an empty sequence. -/
def emptySequence (what : String) : Value :=
  .undefined ("No " ++ what ++ " item, sequence was empty.") false

/-- Neighbours with equal keys in groups. -/
def groupRuns (keyed : List Sorting.Keyed) : Eval (List (List Sorting.Keyed)) := do
  let groups ← keyed.foldlM (fun (acc : List (List Sorting.Keyed)) k => do
    match acc with
    | (h :: t) :: rest =>
      if ← equal h.key k.key then return (k :: h :: t) :: rest else return [k] :: (h :: t) :: rest
    | _ => return [[k]]) []
  return (groups.map List.reverse).reverse

/-- The item with the greatest or least key, the first of equal ones. -/
def extreme (op : Comparison) (keyed : List Sorting.Keyed) : Eval Value := do
  match keyed with
  | [] => return emptySequence "aggregated"
  | k :: ks =>
    let best ← ks.foldlM (fun (best : Sorting.Keyed) k => do
      return if ← order op k.key best.key then k else best) k
    return best.item

/-- The filter that finds an extreme item. -/
def extremeFilter (name : String) (op : Comparison) : Filter :=
  simple name ["environment", "value"] [optional "case_sensitive" (.bool false),
      optional "attribute" .none] fun call v args => do
    let caseSensitive ← truth (args.getD 0 .none)
    let keyed ← (← items v).mapM fun item => do
      return ⟨← keyOf call (args.getD 1 .none) caseSensitive .none item, item⟩
    extreme op keyed

/-- The rule by which items are selected: a test by name, or truth. -/
def selection (call : FilterCall) (want : Bool) (look : Value → Eval Value) (arguments : List Value) :
    Value → Eval (List Value) := fun item => do
  let v ← look item
  let accepted ← match arguments with
    | [] => truth v
    | .text name _ :: rest => call.ev.test call.env name v rest call.extra.named
    | name :: _ => fault .template ("No test named " ++ (← inspect name) ++ ".")
  return if accepted == want then [item] else []

/-- A filter that selects items. -/
def selecting (name : String) (want : Bool) : Filter :=
  ⟨⟨name, ["context", "value"], [], true, true⟩, fun call v _ =>
    lazily v (return selection call want (fun w => return w) call.extra.positional)⟩

/-- A filter that selects items by an attribute. -/
def selectingBy (name : String) (want : Bool) : Filter :=
  ⟨⟨name, ["context", "value"], [], true, true⟩, fun call v _ =>
    lazily v (do
      match call.extra.positional with
      | [] => fault .template "Missing parameter for attribute name"
      | path :: rest => return selection call want (follow call (pathParts path) .none) rest)⟩

/-- The rule by which items are mapped: an attribute or a filter by name. -/
def mapping (call : FilterCall) : Eval (Value → Eval (List Value)) := do
  let named := call.extra.named
  match call.extra.positional, named.lookup "attribute" with
  | [], some path =>
    let default := (named.lookup "default").getD .none
    match named.filter fun e => e.1 != "attribute" && e.1 != "default" with
    | [] => return fun item => return [← follow call (pathParts path) default item]
    | (k, _) :: _ => fault .template ("Unexpected keyword argument " ++ Text.quoted k)
  | [], none => fault .template "map requires a filter argument"
  | .text name _ :: rest, _ => return fun item => return [← call.ev.filter call.env name item rest named]
  | name :: _, _ =>
    return fun _ => do fault .template ("No filter named " ++ (← inspect name) ++ ".")

/-- Cut a list into rows of a length. -/
def rows (fuel : Nat) (n : Nat) (vs : List Value) : List (List Value) :=
  match fuel, vs with
  | 0, _ => []
  | _, [] => []
  | fuel + 1, vs => vs.take n :: rows fuel n (vs.drop n)

/-- The rows of a table; the last one is filled up if a filling is given. -/
def batches (n : Int) (filling : Value) (vs : List Value) : List (List Value) :=
  let cut := if n ≤ 0 then (if vs.isEmpty then [] else if n = 0 then [] :: [vs] else [vs])
    else rows (vs.length + 1) n.toNat vs
  match filling with
  | .none => cut
  | f =>
    cut.mapIdx fun i row =>
      if i + 1 = cut.length then row ++ List.replicate (n.toNat - row.length) f else row

/-- The columns of a table with a given number of columns, the first ones one longer. -/
def columns (count : Nat) (filling : Value) (vs : List Value) : List (List Value) :=
  let size := vs.length / count
  let longer := vs.length % count
  (List.range count).map fun i =>
    let start := i * size + min i longer
    let column := (vs.drop start).take (size + if i < longer then 1 else 0)
    match filling with
    | .none => column
    | f => if longer ≤ i then column ++ [f] else column

/-- The items whose keys were not there before. -/
def distinct (seen : List Value) : List Sorting.Keyed → Eval (List Value)
  | [] => return []
  | k :: ks => do
    checkKey 100 k.key
    if ← among k.key seen then distinct seen ks
    else return k.item :: (← distinct (k.key :: seen) ks)

/-- Lists as values of the store, one by one. -/
def listsOneByOne (lists : List (List Value)) : Eval Value := do
  newCursor (← lists.mapM newList)

/-- The filter that counts. -/
def lengthFilter : Filter :=
  ⟨⟨"len", ["obj"], [], true, true⟩, fun call v _ => do
    unless call.extra.named.isEmpty do typeFault "len() takes no keyword arguments"
    unless call.extra.positional.isEmpty do
      typeFault ("len() takes exactly one argument (" ++
        toString (call.extra.positional.length + 1) ++ " given)")
    return .int (← Eval.length v)⟩

/-- The filter that stands in for absent values. -/
def defaultFilter : Filter :=
  simple "do_default" ["value"] [optional "default_value" (.ofString ""),
      optional "boolean" (.bool false)] fun _ v args => do
    let d := args.getD 0 .none
    if isUndefined v then return d
    if ← truth (args.getD 1 .none) then
      if ← truth v then return v else return d
    return v

/-- The filter that joins texts. -/
def joinFilter : Filter :=
  simple "sync_do_join" ["eval_ctx", "value"] [optional "d" (.ofString ""),
      optional "attribute" .none] fun call v args => do
    let d := args.getD 0 .none
    let path := args.getD 1 .none
    let glue ← if call.env.autoescape then pure "" else display d
    let vs ← items v
    let vs ← match path with
      | .none => pure vs
      | path => vs.mapM (follow call (pathParts path) .none)
    if call.env.autoescape then
      match d with
      | .text s true =>
        let pieces ← vs.mapM fun w => do
          match w with
          | .text t safe => return escapeUnlessSafe t safe
          | w => return Markup.escape (← display w)
        return .text (s.intercalate pieces) true
      | d =>
        let glue ← display d
        let pieces ← vs.mapM fun w => do
          match w with
          | .text t safe => return (t, safe)
          | w => return (← display w, false)
        if pieces.any (·.2) then
          return .text
            ((Markup.escape glue).intercalate (pieces.map fun (t, safe) => escapeUnlessSafe t safe))
            true
        else return .ofString (glue.intercalate (pieces.map (·.1)))
    else return .ofString (glue.intercalate (← vs.mapM display))

/-- The filter that sorts the entries of a dictionary. -/
def sortEntries : Filter :=
  simple "do_dictsort" ["value"] [optional "case_sensitive" (.bool false),
      optional "by" (.ofString "key"), optional "reverse" (.bool false)] fun _ v args => do
    let pick : Value × Value → Value ← match args.getD 1 .none with
      | .text "key" _ => pure (·.1)
      | .text "value" _ => pure (·.2)
      | _ => fault .template "You can only sort by either \"key\" or \"value\""
    let caseSensitive ← truth (args.getD 0 .none)
    match v with
    | .dict r =>
      let keyed := (← dictEntries r).map fun e =>
        let k := pick e
        Sorting.Keyed.mk (if caseSensitive then k else foldCase k) (.tuple [e.1, e.2])
      newList (← Sorting.sortBy (← truth (args.getD 2 .none)) keyed)
    | .undefined message _ => fault .undefined message
    | v =>
      fault .attribute ("\x27" ++ v.typeName ++ "\x27 object has no attribute \x27items\x27")

/-- The filter that groups items by an attribute. -/
def groupFilter : Filter :=
  simple "sync_do_groupby" ["environment", "value"] [required "attribute",
      optional "default" .none, optional "case_sensitive" (.bool false)] fun call v args => do
    let path := args.getD 0 .none
    let default := args.getD 1 .none
    let caseSensitive ← truth (args.getD 2 .none)
    let keyed ← (← items v).mapM fun item => do
      return Sorting.Keyed.mk (← keyOf call path caseSensitive default item) item
    let sorted ← Sorting.sortBy false (keyed.map fun k => ⟨k.key, .tuple [k.key, k.item]⟩)
    let pairs := sorted.filterMap fun
      | .tuple [k, item] => some (Sorting.Keyed.mk k item)
      | _ => none
    let groups ← groupRuns pairs
    let values ← groups.mapM fun g => do
      match g with
      | [] => return Value.none
      | k :: _ =>
        let key ← if caseSensitive then pure k.key
          else follow call (pathParts path) default k.item
        return .group key (← alloc (.list (g.map (·.item))))
    newList values

/-- The sum of items behind a start value. -/
def sumFrom (start : Value) (vs : List Value) : Eval Value := do
  match start with
  | .text .. => typeFault "sum() can\x27t sum strings [use \x27\x27.join(seq) instead]"
  | .bytes _ => typeFault "sum() can\x27t sum bytes [use b\x27\x27.join(seq) instead]"
  | start => vs.foldlM (fun acc w => arithmetic Access.item .add acc w) start

/-- The filters on sequences. -/
def sequences : List (String × Filter) :=
  [("attr", simple "do_attr" ["environment", "obj"] [required "name"] fun call v args => do
      match args.headD .none with
      | .text name _ =>
        match ← Access.attribute? call.ev v name with
        | some w => return w
        | none => Access.missing v (.ofString name)
      | name =>
        typeFault ("attribute name must be string, not \x27" ++ name.typeName ++ "\x27")),
    ("batch", simple "do_batch" ["value"] [required "linecount", optional "fill_with" .none]
      fun _ v args => do
        let (vs, failure) ← lazySource v
        match failure, (args.getD 0 .none).int? with
        | some f, _ => failing f
        | none, some n => listsOneByOne (batches n (args.getD 1 .none) vs)
        | none, none => listsOneByOne (if vs.isEmpty then [] else [vs])),
    ("count", lengthFilter), ("length", lengthFilter),
    ("d", defaultFilter), ("default", defaultFilter),
    ("dictsort", sortEntries),
    ("first", simple "sync_do_first" ["environment", "seq"] [] fun _ v _ => do
      match v with
      | .cursor r =>
        match ← fetch r with
        | .cursor (w :: ws) failure typeName =>
          assign r (.cursor ws failure typeName)
          return w
        | .cursor [] (some f) _ => throw f
        | _ => return emptySequence "first"
      | v =>
        match ← items v with
        | w :: _ => return w
        | [] => return emptySequence "first"),
    ("groupby", groupFilter),
    ("items", simple "do_items" ["value"] [] fun _ v _ => do
      match v with
      | .undefined .. => newCursor []
      | .dict r => newCursor ((← dictEntries r).map fun (k, w) => .tuple [k, w])
      | _ => failing ⟨.type, "Can only get item pairs from a mapping."⟩),
    ("join", joinFilter),
    ("last", simple "do_last" ["environment", "seq"] [] fun _ v _ => do
      match ← backwards v with
      | w :: _ => return w
      | [] => return emptySequence "last"),
    ("list", simple "sync_do_list" ["value"] [] fun _ v _ => do newList (← items v)),
    ("map", ⟨⟨"sync_do_map", ["context", "value"], [], true, true⟩, fun call v _ =>
      lazily v (mapping call)⟩),
    ("max", extremeFilter "do_max" .gt),
    ("min", extremeFilter "do_min" .lt),
    ("random", simple "do_random" ["context", "seq"] [] fun _ v _ => do
      match ← items v with
      | w :: _ => return w
      | [] => return emptySequence "random"),
    ("reject", selecting "sync_do_reject" false),
    ("rejectattr", selectingBy "sync_do_rejectattr" false),
    ("select", selecting "sync_do_select" true),
    ("selectattr", selectingBy "sync_do_selectattr" true),
    ("reverse", simple "do_reverse" ["value"] [] fun _ v _ => do
      match v with
      | .text s safe => return .text (String.ofList s.toList.reverse) safe
      | .cursor _ => newList (← items v).reverse
      | .undefined .. => newCursor (← backwards v) none "reversed"
      | .none | .bool _ | .int _ | .float _ | .member _ | .declaration _ | .context | .path _
      | .method .. | .routine _ | .closure _ | .slice .. =>
        fault .template "argument must be iterable"
      | v => newCursor (← backwards v) none "reversed"),
    ("slice", simple "sync_do_slice" ["value"] [required "slices", optional "fill_with" .none]
      fun _ v args => do
        let (vs, failure) ← lazySource v
        match failure, (args.getD 0 .none).int? with
        | some f, _ => failing f
        | none, some n =>
          if n = 0 then failing ⟨.zeroDivision, "integer division or modulo by zero"⟩
          else listsOneByOne (columns n.toNat (args.getD 1 .none) vs)
        | none, none =>
          failing ⟨.type, "unsupported operand type(s) for //: \x27int\x27 and \x27" ++
            (args.getD 0 .none).typeName ++ "\x27"⟩),
    ("sort", simple "do_sort" ["environment", "value"] [optional "reverse" (.bool false),
        optional "case_sensitive" (.bool false), optional "attribute" .none] fun call v args => do
      let caseSensitive ← truth (args.getD 1 .none)
      let keyed ← (← items v).mapM fun item => do
        return ⟨← multiKeyOf call (args.getD 2 .none) caseSensitive item, item⟩
      newList (← Sorting.sortBy (← truth (args.getD 0 .none)) keyed)),
    ("sum", simple "sync_do_sum" ["environment", "iterable"] [optional "attribute" .none,
        optional "start" (.int 0)] fun call v args => do
      let vs ← items v
      let vs ← match args.getD 0 .none with
        | .none => pure vs
        | path => vs.mapM (follow call (pathParts path) .none)
      sumFrom (args.getD 1 .none) vs),
    ("unique", simple "sync_do_unique" ["environment", "value"]
      [optional "case_sensitive" (.bool false), optional "attribute" .none] fun call v args => do
        let caseSensitive ← truth (args.getD 0 .none)
        let (vs, failure) ← lazySource v
        let (keys, early) ← collectUntil
          (fun item => keyOf call (args.getD 1 .none) caseSensitive .none item) vs
        let keyed := (keys.zip vs).map fun (k, item) => Sorting.Keyed.mk k item
        fun s =>
          match (distinct [] keyed).run s with
          | .ok (kept, s) => (newCursor kept (early.orElse fun _ => failure)).run s
          | .error f => (failing f).run s)]

end TypeWeave.Template.Filter
