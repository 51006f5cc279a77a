import TypeWeave.Proofs.Template.Catalog
import Mathlib.Data.Set.Card

/-!
# A catalog in use

A session asks one catalog for templates and clears it at times, while the files and the current
directory change outside. What the catalog holds and what it has counted is determined by the log of
the session: the answers since it was last cleared, the templates that it ever returned, and the
look-ups that failed in compilation. Main statements: `kept_play`, that every session keeps the
invariant `Kept`, `exists_ask_of_log`, that the log is made of what was asked, and
`play_remembers_and_counts`.
-/

namespace TypeWeave.Template.Catalog

open File (Workspace Path)

/-- A look-up that was made: the workspace as it was then, what was asked, and what came of it. -/
structure Query where
  workspace : Workspace
  directory : Path
  name : String
  result : Except Failure (Option Loaded)

namespace Query

/-- The resolved directory and the name that were asked for. -/
def key? (q : Query) : Option (Path × String) := Catalog.key? q.workspace q.directory q.name

/-- What was asked for, and the answer, if there was one. -/
def answer? (q : Query) : Option ((Path × String) × Option Loaded) :=
  match q.key?, q.result with
  | some key, .ok found => some (key, found)
  | _, _ => none

/-- The template that was returned, if one was. -/
def template? (q : Query) : Option Loaded :=
  match q.result with
  | .ok found => found
  | .error _ => none

/-- Whether the template is there but does not compile: such a failure tells the line. -/
def failedToCompile (q : Query) : Bool :=
  match q.result with
  | .error (.template _ _ (some _)) => true
  | _ => false

end Query

/-- What a session did with the catalog. -/
inductive Record where
  | asked (q : Query)
  | cleared

/-- The answers since the catalog was last cleared, in a log that has the latest first. -/
def answers : List Record → List ((Path × String) × Option Loaded)
  | [] => []
  | .cleared :: _ => []
  | .asked q :: log => q.answer?.toList ++ answers log

/-- The directories and names that were answered since the catalog was last cleared. -/
def answered (log : List Record) : List (Path × String) := (answers log).map Prod.fst

/-- The templates that were ever returned. -/
def returned (log : List Record) : List Loaded :=
  log.filterMap fun
    | .asked q => q.template?
    | .cleared => none

/-- Whether the latest record of a log is a look-up of what had been answered before it, since the
catalog was last cleared. -/
def isRepeat : List Record → Bool
  | .asked q :: log => q.key?.any fun key => decide (key ∈ answered log)
  | _ => false

/-- Whether a record is a look-up that failed in compilation. -/
def Record.failedToCompile : Record → Bool
  | .asked q => q.failedToCompile
  | .cleared => false

/-- A session: the files, the catalog, and what was done with the catalog, the latest first. -/
structure Session where
  workspace : Workspace
  catalog : Catalog
  log : List Record := []

/-- What happens in a session. -/
inductive Event where
  | lookup (directory : Path) (name : String)
  | clear
  /-- The files or the current directory change. -/
  | outside (change : Workspace → Workspace)

namespace Session

/-- The look-up that asks for a name in a directory now. -/
def ask (s : Session) (directory : Path) (name : String) : Query :=
  ⟨s.workspace, directory, name, ((lookup s.workspace directory name).run s.catalog).1⟩

/-- What an event makes of a session. -/
def step (s : Session) : Event → Session
  | .lookup directory name =>
    { s with
      catalog := ((lookup s.workspace directory name).run s.catalog).2
      log := .asked (s.ask directory name) :: s.log }
  | .clear => { s with catalog := s.catalog.clear, log := .cleared :: s.log }
  | .outside change => { s with workspace := change s.workspace }

end Session

/-- The session that starts with a new catalog and comes to some events. -/
def play (suffix : String) (ws : Workspace) (events : List Event) : Session :=
  events.foldl Session.step { workspace := ws, catalog := { suffix := suffix } }

/-- What ties a catalog to the log of the session. -/
structure Kept (suffix : String) (s : Session) : Prop where
  suffix_eq : s.catalog.suffix = suffix
  nodup : (s.catalog.entries.map Prod.fst).Nodup
  /-- What is remembered are the answers since the catalog was last cleared. -/
  entry_iff : ∀ key found, s.catalog.entries.lookup key = some found ↔ (key, found) ∈ answers s.log
  returned : ∀ key t, (key, some t) ∈ answers s.log → t ∈ returned s.log
  /-- A template that is compiled next has a number of its own. -/
  serial_le : ∀ t ∈ Catalog.returned s.log, t.serial ≤ s.catalog.parseCount
  hits : s.catalog.hits = s.log.tails.countP isRepeat
  parseCount : s.catalog.parseCount =
    {t | t ∈ Catalog.returned s.log}.ncard + s.log.countP Record.failedToCompile

section Log

variable {q : Query} {log : List Record}

theorem answer?_eq_some_iff {key : Path × String} {found : Option Loaded} :
    q.answer? = some (key, found) ↔ q.key? = some key ∧ q.result = .ok found := by
  unfold Query.answer?
  cases q.key? <;> cases q.result <;> simp

theorem mem_answered_iff {key : Path × String} :
    key ∈ answered log ↔ ∃ found, (key, found) ∈ answers log := by
  simp [answered]

/-- The log of a session in which the catalog is not cleared again keeps an answer. -/
theorem mem_answers_append {later earlier : List Record} {x : (Path × String) × Option Loaded}
    (hlater : .cleared ∉ later) (hx : x ∈ answers earlier) : x ∈ answers (later ++ earlier) := by
  induction later with
  | nil => exact hx
  | cons r later ih =>
    cases r with
    | cleared => exact absurd List.mem_cons_self hlater
    | asked q => exact List.mem_append_right _ (ih (List.not_mem_of_not_mem_cons hlater))

/-- What is answered was asked lately or answered before. -/
theorem mem_answered_append {later earlier : List Record} {key : Path × String}
    (h : key ∈ answered (later ++ earlier)) :
    (∃ q, .asked q ∈ later ∧ q.key? = some key) ∨ key ∈ answered earlier := by
  induction later with
  | nil => exact .inr h
  | cons r later ih =>
    cases r with
    | cleared => simp [answered, answers] at h
    | asked q =>
      obtain ⟨found, hfound⟩ := mem_answered_iff.1 h
      rcases List.mem_append.1 hfound with hq | hfound
      · rw [Option.mem_toList, answer?_eq_some_iff] at hq
        exact .inl ⟨q, List.mem_cons_self, hq.1⟩
      · refine (ih (mem_answered_iff.2 ⟨found, hfound⟩)).imp_left ?_
        rintro ⟨q', hq', hkey⟩
        exact ⟨q', List.mem_cons_of_mem _ hq', hkey⟩

theorem countP_tails_cons (r : Record) (log : List Record) :
    (r :: log).tails.countP isRepeat = log.tails.countP isRepeat + (isRepeat (r :: log)).toNat := by
  rw [List.tails_cons, List.countP_cons]
  cases isRepeat (r :: log) <;> rfl

theorem countP_failedToCompile_cons (r : Record) (log : List Record) :
    (r :: log).countP Record.failedToCompile =
      log.countP Record.failedToCompile + r.failedToCompile.toNat := by
  rw [List.countP_cons]
  cases r.failedToCompile <;> rfl

end Log

namespace Kept

variable {suffix : String} {s : Session}

theorem start (suffix : String) (ws : Workspace) :
    Kept suffix { workspace := ws, catalog := { suffix := suffix } } where
  suffix_eq := rfl
  nodup := .nil
  entry_iff := by simp [answers]
  returned := by simp [answers]
  serial_le := by simp [Catalog.returned]
  hits := rfl
  parseCount := by simp [Catalog.returned]

theorem clear (h : Kept suffix s) : Kept suffix (s.step .clear) where
  suffix_eq := h.suffix_eq
  nodup := .nil
  entry_iff := by simp [Session.step, Catalog.clear, answers]
  returned := by simp [Session.step, answers]
  serial_le := h.serial_le
  hits := by
    rw [Session.step, countP_tails_cons]
    exact h.hits
  parseCount := h.parseCount

theorem outside (h : Kept suffix s) (change : Workspace → Workspace) :
    Kept suffix (s.step (.outside change)) :=
  ⟨h.suffix_eq, h.nodup, h.entry_iff, h.returned, h.serial_le, h.hits, h.parseCount⟩

theorem mem_answered_iff (h : Kept suffix s) {key : Path × String} :
    key ∈ answered s.log ↔ ∃ found, s.catalog.entries.lookup key = some found := by
  simp only [Catalog.mem_answered_iff, h.entry_iff]

/-- A look-up that gives no new answer. -/
theorem raised (h : Kept suffix s) {q : Query} {f : Failure} (hq : q.result = .error f)
    (hnew : ∀ key, q.key? = some key → s.catalog.entries.lookup key = none) :
    Kept suffix ⟨s.workspace, s.catalog.counting (wasCompiled (.error f)), .asked q :: s.log⟩ := by
  have hanswer : q.answer? = none := by
    unfold Query.answer?
    cases q.key? <;> simp [hq]
  have hanswers : answers (.asked q :: s.log) = answers s.log := by simp [answers, hanswer]
  have hreturned : Catalog.returned (.asked q :: s.log) = Catalog.returned s.log := by
    simp [Catalog.returned, Query.template?, hq]
  have hrepeat : isRepeat (.asked q :: s.log) = false := by
    cases hkey : q.key? with
    | none => simp [isRepeat, hkey]
    | some key => simp [isRepeat, hkey, h.mem_answered_iff, hnew key hkey]
  have hfailed : Record.failedToCompile (.asked q) = wasCompiled (.error f) := by
    change q.failedToCompile = _
    unfold Query.failedToCompile
    rw [hq]
    cases f with
    | template path diagnostic line => cases line <;> rfl
    | _ => rfl
  refine ⟨h.suffix_eq, h.nodup, ?_, ?_, ?_, ?_, ?_⟩
  · rw [hanswers]
    exact h.entry_iff
  · rw [hanswers, hreturned]
    exact h.returned
  · rw [hreturned]
    exact fun t ht => (h.serial_le t ht).trans (Nat.le_add_right _ _)
  · rw [countP_tails_cons, hrepeat]
    exact h.hits
  · rw [hreturned, countP_failedToCompile_cons, hfailed, ← Nat.add_assoc, ← h.parseCount]
    rfl

/-- A look-up that is answered from memory. -/
theorem remembered (h : Kept suffix s) {q : Query} {key : Path × String} {found : Option Loaded}
    (hkey : q.key? = some key) (hq : q.result = .ok found)
    (hknown : s.catalog.entries.lookup key = some found) :
    Kept suffix ⟨s.workspace, s.catalog.hit, .asked q :: s.log⟩ := by
  have hbefore : (key, found) ∈ answers s.log := (h.entry_iff key found).1 hknown
  have hanswer : q.answer? = some (key, found) := answer?_eq_some_iff.2 ⟨hkey, hq⟩
  have hmem (x) : x ∈ answers (.asked q :: s.log) ↔ x ∈ answers s.log := by
    simp only [answers, hanswer, Option.toList_some, List.singleton_append, List.mem_cons,
      or_iff_right_iff_imp]
    rintro rfl
    exact hbefore
  have hreturned (t) : t ∈ Catalog.returned (.asked q :: s.log) ↔ t ∈ Catalog.returned s.log := by
    cases found with
    | none => simp [Catalog.returned, Query.template?, hq]
    | some t' =>
      have hcons : Catalog.returned (.asked q :: s.log) = t' :: Catalog.returned s.log := by
        simp [Catalog.returned, Query.template?, hq]
      rw [hcons, List.mem_cons, or_iff_right_iff_imp]
      rintro rfl
      exact h.returned key t hbefore
  have hrepeat : isRepeat (.asked q :: s.log) = true := by
    simp [isRepeat, hkey, h.mem_answered_iff, hknown]
  refine ⟨h.suffix_eq, h.nodup, fun k r => ?_, fun k t => ?_, fun t => ?_, ?_, ?_⟩
  · rw [hmem]
    exact h.entry_iff k r
  · rw [hmem, hreturned]
    exact h.returned k t
  · rw [hreturned]
    exact h.serial_le t
  · rw [countP_tails_cons, hrepeat, ← h.hits]
    rfl
  · simp only [hreturned, countP_failedToCompile_cons]
    rw [show Record.failedToCompile (.asked q) = false by
      simp [Record.failedToCompile, Query.failedToCompile, hq]]
    exact h.parseCount

/-- A look-up that finds what is there now. -/
theorem found (h : Kept suffix s) {q : Query} {key : Path × String} {found : Option Loaded}
    (hkey : q.key? = some key)
    (hq : q.result = .ok (found.map (Loaded.number (s.catalog.parseCount + 1))))
    (hnew : s.catalog.entries.lookup key = none) :
    Kept suffix ⟨s.workspace, (s.catalog.counting found.isSome).remember key
      (found.map (Loaded.number (s.catalog.parseCount + 1))), .asked q :: s.log⟩ := by
  generalize hr : found.map (Loaded.number (s.catalog.parseCount + 1)) = r at hq ⊢
  have hsome : found.isSome = r.isSome := by rw [← hr, Option.isSome_map]
  have hserial : ∀ t, r = some t → t.serial = s.catalog.parseCount + 1 := by
    rintro t rfl
    obtain ⟨t', -, rfl⟩ := Option.map_eq_some_iff.1 hr
    rfl
  rw [hsome]
  clear hr hsome
  have hanswer : q.answer? = some (key, r) := answer?_eq_some_iff.2 ⟨hkey, hq⟩
  have hmem (x) : x ∈ answers (.asked q :: s.log) ↔ x = (key, r) ∨ x ∈ answers s.log := by
    simp [answers, hanswer]
  have hreturned : Catalog.returned (.asked q :: s.log) = r.toList ++ Catalog.returned s.log := by
    cases r <;> simp [Catalog.returned, Query.template?, hq]
  have hrepeat : isRepeat (.asked q :: s.log) = false := by
    simp [isRepeat, hkey, h.mem_answered_iff, hnew]
  have hfailed : Record.failedToCompile (.asked q) = false := by
    simp [Record.failedToCompile, Query.failedToCompile, hq]
  refine ⟨h.suffix_eq, ?_, fun k r' => ?_, fun k t => ?_, fun t => ?_, ?_, ?_⟩
  · exact nodup_remember (c := s.catalog.counting _) hnew h.nodup
  · rw [hmem, ← h.entry_iff]
    exact lookup_remember hnew
  · rw [hmem, hreturned, List.mem_append]
    rintro (heq | hbefore)
    · cases heq
      exact .inl (by simp)
    · exact .inr (h.returned k t hbefore)
  · rw [hreturned, List.mem_append]
    rintro (ht | ht)
    · obtain rfl := by simpa using ht
      simp [remember, counting, hserial t rfl]
    · exact (h.serial_le t ht).trans (Nat.le_add_right _ _)
  · rw [countP_tails_cons, hrepeat]
    exact h.hits
  · rw [countP_failedToCompile_cons, hfailed, hreturned]
    have hcount := h.parseCount
    cases r with
    | none => exact hcount
    | some t =>
      have hnot : t ∉ {t | t ∈ Catalog.returned s.log} := fun ht => by
        have hle := h.serial_le t ht
        have heq := hserial t rfl
        omega
      have hset : {t' | t' ∈ (some t).toList ++ Catalog.returned s.log} =
          insert t {t' | t' ∈ Catalog.returned s.log} := by
        ext t'
        simp
      rw [hset, Set.ncard_insert_of_notMem hnot (List.finite_toSet _)]
      simp only [remember, counting, Option.isSome_some, Bool.toNat_true, Bool.toNat_false]
      omega

/-- A look-up keeps the invariant. -/
theorem lookup (h : Kept suffix s) (directory : Path) (name : String) :
    Kept suffix (s.step (.lookup directory name)) := by
  have hgoes := answers_lookup s.workspace directory name s.catalog
  simp only [Session.step, Session.ask]
  generalize (Catalog.lookup s.workspace directory name).run s.catalog = out at hgoes ⊢
  cases hgoes with
  | refused hkey =>
    exact h.raised (q := ⟨_, directory, name, _⟩) (f := .embeddedNul) rfl fun key hsome => by
      cases hkey.symm.trans hsome
  | remembered hkey hknown => exact h.remembered hkey rfl hknown
  | failed hkey hnew _ =>
    exact h.raised (q := ⟨_, directory, name, _⟩) rfl fun key hsome => by
      cases hkey.symm.trans hsome
      exact hnew
  | found hkey hnew _ => exact h.found hkey rfl hnew

/-- So does every event. -/
theorem step (h : Kept suffix s) : ∀ event, Kept suffix (s.step event)
  | .lookup directory name => h.lookup directory name
  | .clear => h.clear
  | .outside change => h.outside change

end Kept

/-- Every session keeps the invariant. -/
theorem kept_play (suffix : String) (ws : Workspace) (events : List Event) :
    Kept suffix (play suffix ws events) :=
  List.foldlRecOn events Session.step (motive := Kept suffix) (.start suffix ws)
    fun _ h event _ => h.step event

section History

variable {suffix : String} {ws : Workspace}

/-- A part of a log is the log of a session that stopped earlier, and what comes next in the log is
what that session asked. -/
theorem exists_ask_of_log {events : List Event} {later earlier : List Record} {q : Query}
    (h : (play suffix ws events).log = later ++ .asked q :: earlier) :
    ∃ s, Kept suffix s ∧ s.log = earlier ∧ s.ask q.directory q.name = q := by
  induction events using List.reverseRecOn generalizing later with
  | nil => simp [play] at h
  | append_singleton events event ih =>
    rw [play, List.foldl_concat, ← play] at h
    cases event with
    | outside change => exact ih h
    | clear =>
      cases later with
      | nil => cases h
      | cons r later => exact ih (List.cons.inj h).2
    | lookup directory name =>
      cases later with
      | nil =>
        obtain ⟨hq, hlog⟩ := List.cons.inj h
        cases hq
        exact ⟨_, kept_play suffix ws events, hlog, rfl⟩
      | cons r later => exact ih (List.cons.inj h).2

/-- What was answered before is answered again. -/
theorem Kept.result_of_mem_answers {s : Session} (hs : Kept suffix s) {directory : Path}
    {name : String} {key : Path × String} {found : Option Loaded}
    (hkey : key? s.workspace directory name = some key) (hmem : (key, found) ∈ answers s.log) :
    (s.ask directory name).result = .ok found := by
  have hknown := (hs.entry_iff key found).2 hmem
  have hgoes := answers_lookup s.workspace directory name s.catalog
  unfold Session.ask
  generalize (Catalog.lookup s.workspace directory name).run s.catalog = out at hgoes ⊢
  cases hgoes with
  | refused hnone => cases hnone.symm.trans hkey
  | remembered hkey' hknown' =>
    cases hkey'.symm.trans hkey
    cases hknown'.symm.trans hknown
    rfl
  | failed hkey' hnew _ | found hkey' hnew _ =>
    cases hkey'.symm.trans hkey
    cases hnew.symm.trans hknown

/-- What was not answered before is looked for. -/
theorem Kept.result_of_not_mem_answered {s : Session} (hs : Kept suffix s) {directory : Path}
    {name : String}
    (hnew : ∀ key, key? s.workspace directory name = some key → key ∉ answered s.log) :
    (s.ask directory name).result.map (Option.map Loaded.forget) =
      seek s.workspace suffix directory name := by
  have hgoes := answers_lookup s.workspace directory name s.catalog
  unfold Session.ask seek
  generalize (Catalog.lookup s.workspace directory name).run s.catalog = out at hgoes ⊢
  cases hgoes with
  | refused hkey =>
    rw [hkey]
    rfl
  | remembered hkey hknown =>
    exact absurd (hs.mem_answered_iff.2 ⟨_, hknown⟩) (hnew _ hkey)
  | failed hkey _ hsought =>
    rw [hs.suffix_eq] at hsought
    rw [hkey]
    exact hsought.symm
  | found hkey _ hsought =>
    rw [hs.suffix_eq] at hsought
    rw [hkey]
    exact (congrArg Except.ok (forget_number_of_afresh hsought _)).trans hsought.symm

/-- A look-up that raises has had no answer before. -/
theorem Kept.not_mem_answered_of_error {s : Session} (hs : Kept suffix s) {directory : Path}
    {name : String} {f : Failure} (hf : (s.ask directory name).result = .error f)
    {key : Path × String} (hkey : key? s.workspace directory name = some key) :
    key ∉ answered s.log := by
  intro hmem
  obtain ⟨found, hfound⟩ := Catalog.mem_answered_iff.1 hmem
  cases hf.symm.trans (hs.result_of_mem_answers hkey hfound)

/-- A look-up that raises changes nothing but the number of templates compiled. -/
theorem step_of_error {s : Session} {directory : Path} {name : String} {f : Failure}
    (hf : (s.ask directory name).result = .error f) :
    (s.step (.lookup directory name)).catalog.entries = s.catalog.entries ∧
      (s.step (.lookup directory name)).catalog.hits = s.catalog.hits := by
  have hgoes := answers_lookup s.workspace directory name s.catalog
  unfold Session.ask at hf
  unfold Session.step
  dsimp only
  generalize (Catalog.lookup s.workspace directory name).run s.catalog = out at hgoes hf ⊢
  cases hgoes with
  | refused | failed => exact ⟨rfl, rfl⟩
  | remembered | found => cases hf

/-- There are as many entries as directories and names that were answered. -/
theorem Kept.length_entries {s : Session} (hs : Kept suffix s) :
    s.catalog.entries.length = (answered s.log).toFinset.card := by
  have hkeys : (answered s.log).toFinset = (s.catalog.entries.map Prod.fst).toFinset := by
    ext key
    rw [List.mem_toFinset, List.mem_toFinset, hs.mem_answered_iff, ← Option.isSome_iff_exists,
      List.lookup_isSome_iff, List.mem_map]
    exact exists_congr fun x => and_congr_right fun _ => by rw [beq_iff_eq, eq_comm]
  rw [hkeys, List.toFinset_card_of_nodup hs.nodup, List.length_map]

variable {events : List Event} {later between earlier : List Record} {a b : Query}

/-- An answer is given again as long as the catalog is not cleared. -/
theorem result_eq_of_log
    (hlog : (play suffix ws events).log = later ++ .asked b :: (between ++ .asked a :: earlier))
    (hbetween : .cleared ∉ between) {key : Path × String} {found : Option Loaded}
    (ha : a.key? = some key) (hb : b.key? = some key) (hfound : a.result = .ok found) :
    b.result = .ok found := by
  obtain ⟨s, hs, hrest, hask⟩ := exists_ask_of_log hlog
  have hmem : (key, found) ∈ answers s.log := by
    rw [hrest]
    refine mem_answers_append hbetween (List.mem_append_left _ ?_)
    rw [answer?_eq_some_iff.2 ⟨ha, hfound⟩]
    exact List.mem_cons_self
  rw [← hask] at hb ⊢
  exact hs.result_of_mem_answers hb hmem

/-- After a look-up that raises, the next one for the same directory and name looks again. -/
theorem result_eq_seek_of_log
    (hlog : (play suffix ws events).log = later ++ .asked b :: (between ++ .asked a :: earlier))
    {f : Failure} (hf : a.result = .error f) (hkeys : a.key? = b.key?)
    (hbetween : ∀ q, .asked q ∈ between → q.key? ≠ b.key?) :
    b.result.map (Option.map Loaded.forget) = seek b.workspace suffix b.directory b.name := by
  obtain ⟨s, hs, hrest, hask⟩ := exists_ask_of_log hlog
  obtain ⟨s', hs', hearlier, hask'⟩ :=
    exists_ask_of_log (hlog.trans (List.append_assoc later (.asked b :: between) _).symm)
  have hanswer : a.answer? = none := by
    unfold Query.answer?
    rw [hf]
    cases a.key? <;> rfl
  rw [← hask'] at hf hkeys
  rw [← hask] at hkeys hbetween ⊢
  refine hs.result_of_not_mem_answered fun key hkey hmem => ?_
  rw [hrest] at hmem
  rcases mem_answered_append hmem with ⟨q, hq, hqkey⟩ | hmem
  · exact hbetween q hq (hqkey.trans hkey.symm)
  · refine hs'.not_mem_answered_of_error hf (hkeys.trans hkey) ?_
    rw [hearlier]
    simpa [answered, answers, hanswer] using hmem

end History

/-- Every session: a catalog gives between two clearings one answer for each directory and name, its
counters tell of the log what they should, and a look-up that raises leaves no trace in what is
remembered, so that the next one looks again. -/
theorem play_remembers_and_counts (suffix : String) (ws : Workspace) (events : List Event) :
    let s := play suffix ws events
    (∀ (later between earlier : List Record) (a b : Query) key found,
      s.log = later ++ .asked b :: (between ++ .asked a :: earlier) → .cleared ∉ between →
      a.key? = some key → b.key? = some key → a.result = .ok found → b.result = .ok found) ∧
    s.catalog.hits = s.log.tails.countP isRepeat ∧
    s.catalog.entries.length = (answered s.log).toFinset.card ∧
    s.catalog.parseCount =
      {t | t ∈ returned s.log}.ncard + s.log.countP Record.failedToCompile ∧
    (∀ directory name f, (s.ask directory name).result = .error f →
      (s.step (.lookup directory name)).catalog.entries = s.catalog.entries ∧
      (s.step (.lookup directory name)).catalog.hits = s.catalog.hits) ∧
    ∀ (later between earlier : List Record) (a b : Query) f,
      s.log = later ++ .asked b :: (between ++ .asked a :: earlier) → a.result = .error f →
      a.key? = b.key? → (∀ q, .asked q ∈ between → q.key? ≠ b.key?) →
      b.result.map (Option.map Loaded.forget) = seek b.workspace suffix b.directory b.name := by
  intro s
  have hs : Kept suffix s := kept_play suffix ws events
  exact ⟨fun _ _ _ _ _ _ _ hlog hclear => result_eq_of_log hlog hclear, hs.hits, hs.length_entries,
    hs.parseCount, fun _ _ _ => step_of_error,
    fun _ _ _ _ _ _ hlog hf => result_eq_seek_of_log hlog hf⟩

end TypeWeave.Template.Catalog
