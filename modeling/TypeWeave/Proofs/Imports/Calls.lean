import TypeWeave.Proofs.Imports
import Mathlib.Data.Finset.Card
import Mathlib.Data.List.Sort

/-!
# Imports under calls

Imports are added by calls, each with one request or with the items of a value. A call adds the texts
in front of the first request that is refused, without the blanks around them, and no others. So
after any calls the imports are the sorted set of what was added, whatever the order of the calls and
whatever of them failed. Main statements: `imports_call`, `imports_after` and
`after_is_sorted_set`.
-/

namespace TypeWeave.Imports

open Template

/-- A call that adds imports. -/
inductive Call where
  | register (request : Value)
  /-- The items of a value are requested in turn. -/
  | extend (requests : Value)

/-- Imports with the store that the values of calls refer to. -/
structure State where
  imports : Imports
  store : Store

namespace State

/-- What a call leaves, and the fault that it ends with. -/
def call (st : State) : Call → State × Option Fault
  | .register v =>
    match (st.imports.register v).run st.store with
    | .ok (i, s) => (⟨i, s⟩, none)
    | .error f => (st, some f)
  | .extend v =>
    match (st.imports.extend v).run st.store with
    | .ok ((i, f), s) => (⟨i, s⟩, f)
    | .error f => (st, some f)

/-- What calls leave, whether they end with faults or not. -/
def after (st : State) (calls : List Call) : State := calls.foldl (fun st c => (st.call c).1) st

end State

/-- The text of a value that is one. -/
def text? : Value → Option String
  | .text s _ => some s
  | _ => none

/-- The texts of requests in front of the first one that is refused. -/
def textsOf (requests : List Value) : List String :=
  (requests.takeWhile isRequest).filterMap text?

namespace State

/-- The texts that a call adds. -/
def texts (st : State) : Call → List String
  | .register v => textsOf [v]
  | .extend v =>
    match (Eval.source v).run st.store with
    | .ok ((vs, _), _) => textsOf vs
    | .error _ => []

/-- The texts that calls add. -/
def registered (st : State) : List Call → List String
  | [] => []
  | c :: calls => st.texts c ++ (st.call c).1.registered calls

end State

variable {st : State} {c : Call} {i : Imports} {v : Value} {vs : List Value} {t p : String}
  {s : Store}

/-- A request that is taken has the path that is left of its text without the blanks around it. -/
theorem pathOf?_of_isRequest (h : isRequest v = true) :
    ∃ t, text? v = some t ∧ Text.blank t = false ∧ pathOf? v = some (Text.strip t) := by
  cases v with
  | text t safe =>
    have hblank : Text.blank t = false := by simpa [isRequest] using h
    exact ⟨t, rfl, hblank, by simp [pathOf?, hblank]⟩
  | _ => cases h

/-- Any other request has none. -/
theorem pathOf?_of_not_isRequest (h : isRequest v = false) : pathOf? v = none := by
  cases v with
  | text t safe =>
    have hblank : Text.blank t = true := by simpa [isRequest] using h
    simp [pathOf?, hblank]
  | _ => rfl

theorem textsOf_cons_of_isRequest (h : isRequest v = true) (ht : text? v = some t) :
    textsOf (v :: vs) = t :: textsOf vs := by
  rw [textsOf, List.takeWhile_cons_of_pos h, List.filterMap_cons_some ht, textsOf]

theorem textsOf_cons_of_not_isRequest (h : isRequest v = false) : textsOf (v :: vs) = [] := by
  rw [textsOf, List.takeWhile_cons_of_neg (by simp [h])]
  rfl

/-- No text that is added is blank. -/
theorem blank_of_mem_textsOf (h : t ∈ textsOf vs) : Text.blank t = false := by
  obtain ⟨v, hv, ht⟩ := List.mem_filterMap.1 h
  obtain ⟨t', ht', hblank, -⟩ := pathOf?_of_isRequest (List.mem_takeWhile_imp hv)
  obtain rfl := Option.some.inj (ht.symm.trans ht')
  exact hblank

/-- A request that is not taken is refused. -/
theorem register_of_not_isRequest (h : isRequest v = false) (i : Imports) (s : Store) :
    ∃ f, (i.register v).run s = .error f := by
  cases hrun : (i.register v).run s with
  | error f => exact ⟨f, rfl⟩
  | ok r =>
    obtain ⟨-, p, hp, -⟩ := register_eq_ok hrun
    rw [pathOf?_of_not_isRequest h] at hp
    cases hp

/-- Requests are added up to the first one that is refused. -/
theorem registerAll_run (i : Imports) (vs : List Value) (s : Store) : ∃ refused,
    (i.registerAll vs).run s = .ok ((((textsOf vs).map Text.strip).foldl insert i, refused), s) := by
  induction vs generalizing i with
  | nil => exact ⟨none, rfl⟩
  | cons v vs ih =>
    rw [StateT.run, registerAll]
    cases h : isRequest v with
    | true =>
      obtain ⟨t, ht, -, hp⟩ := pathOf?_of_isRequest h
      simp only [register_of_pathOf? hp, textsOf_cons_of_isRequest h ht]
      exact ih _
    | false =>
      obtain ⟨f, hf⟩ := register_of_not_isRequest h i s
      simp only [hf, textsOf_cons_of_not_isRequest h]
      exact ⟨some f, rfl⟩

/-- The items of a value are added up to the first one that is refused. -/
theorem extend_of_source {failure : Option Fault} {s' : Store}
    (h : (Eval.source v).run s = .ok ((vs, failure), s')) (i : Imports) : ∃ f s'',
      (i.extend v).run s = .ok ((((textsOf vs).map Text.strip).foldl insert i, f), s'') := by
  obtain ⟨refused, hrun⟩ := registerAll_run i vs s'
  rw [extend, StateT.run_bind]
  cases refused <;>
    exact ⟨_, _, Except.bind_eq_ok.2 ⟨_, h, Except.bind_eq_ok.2 ⟨_, hrun, rfl⟩⟩⟩

/-- A value without items adds nothing. -/
theorem extend_of_source_error {f : Fault} (h : (Eval.source v).run s = .error f) (i : Imports) :
    (i.extend v).run s = .error f := by
  rw [extend, StateT.run_bind, h]
  rfl

namespace State

/-- A call with a request that is taken ends without a fault. -/
theorem call_register_of_isRequest (h : isRequest v = true) (st : State) :
    ∃ t, text? v = some t ∧
      st.call (.register v) = (⟨st.imports.insert (Text.strip t), st.store⟩, none) := by
  obtain ⟨t, ht, -, hp⟩ := pathOf?_of_isRequest h
  exact ⟨t, ht, by simp only [call, register_of_pathOf? hp]⟩

/-- A call with a request that is refused ends with a fault and changes nothing. -/
theorem call_register_of_not_isRequest (h : isRequest v = false) (st : State) :
    ∃ f, st.call (.register v) = (st, some f) := by
  obtain ⟨f, hf⟩ := register_of_not_isRequest h st.imports st.store
  exact ⟨f, by simp only [call, hf]⟩

/-- A call adds its texts without the blanks around them. -/
theorem imports_call (st : State) (c : Call) :
    (st.call c).1.imports = ((st.texts c).map Text.strip).foldl insert st.imports := by
  cases c with
  | register v =>
    rw [texts]
    cases h : isRequest v with
    | true =>
      obtain ⟨t, ht, hcall⟩ := st.call_register_of_isRequest h
      rw [hcall, textsOf_cons_of_isRequest h ht]
      rfl
    | false =>
      obtain ⟨f, hcall⟩ := st.call_register_of_not_isRequest h
      rw [hcall, textsOf_cons_of_not_isRequest h]
      rfl
  | extend v =>
    rw [texts, call]
    cases hsource : (Eval.source v).run st.store with
    | error f => simp only [extend_of_source_error hsource, List.map_nil, List.foldl_nil]
    | ok r =>
      obtain ⟨⟨vs, failure⟩, s'⟩ := r
      obtain ⟨f, s'', hrun⟩ := extend_of_source hsource st.imports
      simp only [hrun]

/-- Calls add the texts of all of them. -/
theorem imports_after (st : State) (calls : List Call) : (st.after calls).imports =
    ((st.registered calls).map Text.strip).foldl insert st.imports := by
  induction calls generalizing st with
  | nil => rfl
  | cons c calls ih =>
    rw [registered, List.map_append, List.foldl_append, ← imports_call]
    exact ih _

theorem blank_of_mem_texts (h : t ∈ st.texts c) : Text.blank t = false := by
  cases c with
  | register v => exact blank_of_mem_textsOf h
  | extend v =>
    rw [texts] at h
    split at h
    · exact blank_of_mem_textsOf h
    · cases h

theorem blank_of_mem_registered {calls : List Call} (h : t ∈ st.registered calls) :
    Text.blank t = false := by
  induction calls generalizing st with
  | nil => cases h
  | cons c calls ih =>
    rcases List.mem_append.1 h with h | h
    · exact blank_of_mem_texts h
    · exact ih h

theorem ordered_after (s : Store) (calls : List Call) :
    (after ⟨.empty, s⟩ calls).imports.Ordered := by
  rw [imports_after]
  exact ordered_foldl_insert ordered_empty _

/-- From no imports on, the imports are what is left of the texts added. -/
theorem mem_after_iff {calls : List Call} : p ∈ (after ⟨.empty, s⟩ calls).imports.paths ↔
    p ∈ (registered ⟨.empty, s⟩ calls).map Text.strip := by
  rw [imports_after, mem_foldl_insert]
  simp [empty]

end State

/-- Imports in order with the same paths are the same. -/
theorem Ordered.eq_of_mem_iff {j : Imports} (hi : i.Ordered) (hj : j.Ordered)
    (h : ∀ p, p ∈ i.paths ↔ p ∈ j.paths) : i = j := by
  cases i
  cases j
  exact congrArg Imports.mk (List.Pairwise.eq_of_mem_iff hi hj h)

/-- Imports in order are as many as there are different ones. -/
theorem Ordered.length_eq_card (hi : i.Ordered) {ps : List String}
    (h : ∀ p, p ∈ i.paths ↔ p ∈ ps) : i.paths.length = ps.toFinset.card := by
  have hnodup : i.paths.Nodup := List.Pairwise.imp (fun hlt => ne_of_lt hlt) hi
  rw [← List.toFinset_card_of_nodup hnodup]
  exact congrArg Finset.card (Finset.ext fun p => by simp [h])

theorem contains_text (i : Imports) (p : String) (safe : Bool) (s : Store) :
    (i.contains (.text p safe)).run s = .ok (decide (p ∈ i.paths), s) := by
  rw [← List.contains_eq_mem]
  rfl

/-- What is left of a text that is not blank is not empty, and has no blanks around it. -/
theorem strip_of_not_blank (h : Text.blank t = false) :
    Text.strip t ≠ "" ∧ Text.strip (Text.strip t) = Text.strip t := by
  refine ⟨fun hempty => ?_, Text.strip_strip t⟩
  rw [← Text.blank_strip, hempty] at h
  cases h

/-- After any calls, however they end, the imports are a sorted set: in strictly increasing order and
without repetition they are what is left of the texts added, none of them empty or with blanks around
it; a text is told to be among them exactly when it is; and a refused request changes nothing. Calls
that add the same texts, in whatever order, number and grouping, leave the same imports. -/
theorem after_is_sorted_set (s : Store) (calls : List Call) :
    let st := State.after ⟨.empty, s⟩ calls
    let texts := State.registered ⟨.empty, s⟩ calls
    st.imports.Ordered ∧
      (∀ p, p ∈ st.imports.paths ↔ ∃ t ∈ texts, Text.blank t = false ∧ Text.strip t = p) ∧
      st.imports.paths.length = (texts.map Text.strip).toFinset.card ∧
      (∀ p safe s', (st.imports.contains (.text p safe)).run s' =
        .ok (decide (p ∈ st.imports.paths), s')) ∧
      (∀ p ∈ st.imports.paths, p ≠ "" ∧ Text.strip p = p) ∧
      (∀ v, ((st.call (.register v)).2.isSome = true ↔ isRequest v = false) ∧
        ((st.call (.register v)).2.isSome = true → (st.call (.register v)).1 = st)) ∧
      ∀ s' calls', (∀ t, t ∈ State.registered ⟨.empty, s'⟩ calls' ↔ t ∈ texts) →
        (State.after ⟨.empty, s'⟩ calls').imports = st.imports := by
  intro st texts
  have hordered : st.imports.Ordered := State.ordered_after s calls
  have hpath (p : String) : p ∈ st.imports.paths ↔
      ∃ t ∈ texts, Text.blank t = false ∧ Text.strip t = p := by
    rw [State.mem_after_iff, List.mem_map]
    exact exists_congr fun t => and_congr_right fun ht => by
      rw [State.blank_of_mem_registered ht, eq_self, true_and]
  refine ⟨hordered, hpath, hordered.length_eq_card fun p => State.mem_after_iff,
    fun p safe s' => contains_text _ p safe s', fun p hp => ?_, fun v => ?_, fun s' calls' h => ?_⟩
  · obtain ⟨t, -, hblank, rfl⟩ := (hpath p).1 hp
    exact strip_of_not_blank hblank
  · cases hv : isRequest v with
    | true =>
      obtain ⟨t, -, hcall⟩ := st.call_register_of_isRequest hv
      simp [hcall]
    | false =>
      obtain ⟨f, hcall⟩ := st.call_register_of_not_isRequest hv
      simp [hcall]
  · refine (State.ordered_after s' calls').eq_of_mem_iff hordered fun p => ?_
    rw [State.mem_after_iff, State.mem_after_iff, List.mem_map, List.mem_map]
    exact exists_congr fun t => and_congr_left fun _ => h t

/-- The store of a rendering in which nothing refers to it. -/
def bareStore : Store :=
  ⟨#[], { name := "A", package := "p", kind := Go.Declaration.structKind }, "T"⟩

/-- One by one, and with a request that is refused among the items of a tuple. -/
def mixedCalls : List Call :=
  [.register (.text " fmt " false), .register .none,
    .extend (.tuple [.text "os" false, .text "\t" false, .text "io" false])]

/-- All at once, in another order and with a repetition. -/
def tupleCalls : List Call :=
  [.extend (.tuple [.text "os" false, .text " fmt " false, .text "os" false])]

/-- Both leave the same two paths. -/
theorem after_is_sorted_set_tupleCalls :
    (∀ t, t ∈ State.registered ⟨.empty, bareStore⟩ tupleCalls ↔
      t ∈ State.registered ⟨.empty, bareStore⟩ mixedCalls) ∧
    (State.after ⟨.empty, bareStore⟩ tupleCalls).imports =
      (State.after ⟨.empty, bareStore⟩ mixedCalls).imports ∧
    (State.after ⟨.empty, bareStore⟩ mixedCalls).imports.paths = ["fmt", "os"] := by
  have hsame : ∀ t, t ∈ State.registered ⟨.empty, bareStore⟩ tupleCalls ↔
      t ∈ State.registered ⟨.empty, bareStore⟩ mixedCalls := by
    have htuple : State.registered ⟨.empty, bareStore⟩ tupleCalls = ["os", " fmt ", "os"] := by
      decide +kernel
    have hmixed : State.registered ⟨.empty, bareStore⟩ mixedCalls = [" fmt ", "os"] := by
      decide +kernel
    intro t
    rw [htuple, hmixed]
    simp only [List.mem_cons, List.not_mem_nil, or_false]
    tauto
  obtain ⟨-, -, -, -, -, -, heq⟩ := after_is_sorted_set bareStore mixedCalls
  exact ⟨hsame, heq _ _ hsame, by decide +kernel⟩

end TypeWeave.Imports
