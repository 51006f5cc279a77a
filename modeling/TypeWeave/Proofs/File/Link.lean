import TypeWeave.File.Tree
import Mathlib.Data.List.Basic
import Mathlib.Logic.Relation

/-!
# Links

Where the links that start at a place end, and what is there. Both depend only on the places that
the links lead to. Main statements: `look_congr` and `look_of_leads`.
-/

namespace TypeWeave.File

/-- The place that an entry leads to, if it is a link. -/
def Entry.target? : Entry → Option Location
  | .link k => some k
  | _ => none

namespace Tree

/-- A link leads from a place to another one. -/
def LinksTo (t : Tree) (l k : Location) : Prop := (t.get? l).bind Entry.target? = some k

/-- Links lead from a place to another one, or it is that place. -/
def Leads (t : Tree) : Location → Location → Prop := Relation.ReflTransGen t.LinksTo

/-- One or more links lead from a place to another one. -/
def LeadsAway (t : Tree) : Location → Location → Prop := Relation.TransGen t.LinksTo

/-- What is at the end of the links that start at a place. -/
def look (t : Tree) (l : Location) : Except Refusal Entry :=
  (t.follow l).bind fun k => (t.get? k).elim (.error .notFound) .ok

variable {t t' : Tree} {l k : Location} {e : Entry}

/-- A place is led to if it is the one that links start at or they lead away to it. -/
theorem leads_iff : t.Leads l k ↔ k = l ∨ t.LeadsAway l k :=
  Relation.reflTransGen_iff_eq_or_transGen

/-- A tree without links leads nowhere. -/
theorem not_leadsAway (h : ∀ x ∈ t.entries, x.2.target? = none) : ¬t.LeadsAway l k := by
  intro hl
  obtain ⟨m, hm, -⟩ := Relation.TransGen.head'_iff.1 hl
  obtain ⟨e, he, htarget⟩ := Option.bind_eq_some_iff.1 hm
  unfold get? at he
  split at he
  · obtain rfl := Option.some.inj he
    cases htarget
  · obtain ⟨before, after, heq, -⟩ := List.lookup_eq_some_iff.1 he
    have hmem : (l, e) ∈ t.entries := by simp [heq]
    rw [h _ hmem] at htarget
    cases htarget

/-- Where no link is nothing is followed. -/
theorem followAtMost_of_eq_none (h : (t.get? l).bind Entry.target? = none) (n : Nat) :
    t.followAtMost n l = .ok l := by
  cases n with
  | zero | succ n =>
    rw [followAtMost]
    cases hl : t.get? l with
    | none => rfl
    | some e =>
      rw [hl] at h
      cases e with
      | link k => cases h
      | directory | file | device => rfl

/-- A link is followed if at least one may be. -/
theorem LinksTo.followAtMost_succ (h : t.LinksTo l k) (n : Nat) :
    t.followAtMost (n + 1) l = t.followAtMost n k := by
  obtain ⟨e, he, htarget⟩ := Option.bind_eq_some_iff.1 h
  cases e with
  | link m =>
    obtain rfl := Option.some.inj htarget
    rw [followAtMost, he]
  | directory | file | device => cases htarget

/-- A link is one too many if none may be followed. -/
theorem LinksTo.followAtMost_zero (h : t.LinksTo l k) :
    t.followAtMost 0 l = .error .tooManyLinks := by
  obtain ⟨e, he, htarget⟩ := Option.bind_eq_some_iff.1 h
  cases e with
  | link m => rw [followAtMost, he]
  | directory | file | device => cases htarget

/-- A place is a link to another one or it is none. -/
theorem linksTo_or_eq_none (t : Tree) (l : Location) :
    (∃ k, t.LinksTo l k) ∨ (t.get? l).bind Entry.target? = none := by
  cases h : (t.get? l).bind Entry.target? with
  | some k => exact .inl ⟨k, h⟩
  | none => exact .inr rfl

/-- Links end at a place that they lead to and where there is none, or there are too many. -/
theorem followAtMost_cases (t : Tree) (n : Nat) (l : Location) :
    (∃ k, t.followAtMost n l = .ok k ∧ t.Leads l k ∧ (t.get? k).bind Entry.target? = none) ∨
      t.followAtMost n l = .error .tooManyLinks := by
  induction n generalizing l with
  | zero =>
    rcases t.linksTo_or_eq_none l with ⟨m, hm⟩ | hend
    · exact .inr hm.followAtMost_zero
    · exact .inl ⟨l, followAtMost_of_eq_none hend 0, .refl, hend⟩
  | succ n ih =>
    rcases t.linksTo_or_eq_none l with ⟨m, hm⟩ | hend
    · rw [hm.followAtMost_succ]
      exact (ih m).imp_left fun ⟨k, hk, hleads, hend⟩ => ⟨k, hk, .head hm hleads, hend⟩
    · exact .inl ⟨l, followAtMost_of_eq_none hend _, .refl, hend⟩

/-- Links end at a place that they lead to, and where there is none. -/
theorem of_followAtMost {n : Nat} (h : t.followAtMost n l = .ok k) :
    t.Leads l k ∧ (t.get? k).bind Entry.target? = none := by
  rcases t.followAtMost_cases n l with ⟨k', hk, hends⟩ | herror
  · obtain rfl := Except.ok.inj (hk.symm.trans h)
    exact hends
  · cases h.symm.trans herror

/-- Links are given up for a reason that counts as absence. -/
theorem isAbsence_of_followAtMost {n : Nat} {r : Refusal} (h : t.followAtMost n l = .error r) :
    r.isAbsence = true := by
  rcases t.followAtMost_cases n l with ⟨k, hk, -⟩ | herror
  · cases h.symm.trans hk
  · obtain rfl := Except.error.inj (h.symm.trans herror)
    rfl

/-- Links that end when at most some are followed do so when more are. -/
theorem followAtMost_succ_of_eq_ok {n : Nat} (h : t.followAtMost n l = .ok k) :
    t.followAtMost (n + 1) l = .ok k := by
  induction n generalizing l with
  | zero =>
    rcases t.linksTo_or_eq_none l with ⟨m, hm⟩ | hend
    · cases h.symm.trans hm.followAtMost_zero
    · rwa [followAtMost_of_eq_none hend, ← followAtMost_of_eq_none hend 0]
  | succ n ih =>
    rcases t.linksTo_or_eq_none l with ⟨m, hm⟩ | hend
    · rw [hm.followAtMost_succ] at h ⊢
      exact ih h
    · rwa [followAtMost_of_eq_none hend, ← followAtMost_of_eq_none hend (n + 1)]

/-- Links that end somewhere end there from every place that they lead to. -/
theorem followAtMost_of_leads {n : Nat} {m : Location} (h : t.followAtMost n l = .ok m)
    (hk : t.Leads l k) : t.followAtMost n k = .ok m := by
  induction hk with
  | refl => exact h
  | tail _ hlink ih =>
    cases n with
    | zero => cases hlink.followAtMost_zero.symm.trans ih
    | succ n =>
      rw [LinksTo.followAtMost_succ hlink] at ih
      exact followAtMost_succ_of_eq_ok ih

/-- Links end at the same place where all that they lead to are the same links. -/
theorem followAtMost_congr
    (h : ∀ k, t.Leads l k → (t.get? k).bind Entry.target? = (t'.get? k).bind Entry.target?)
    (n : Nat) : t.followAtMost n l = t'.followAtMost n l := by
  have hl := h l .refl
  induction n generalizing l with
  | zero =>
    rcases t.linksTo_or_eq_none l with ⟨m, hm⟩ | hend
    · have hm' : t'.LinksTo l m := hl.symm.trans hm
      rw [hm.followAtMost_zero, hm'.followAtMost_zero]
    · rw [followAtMost_of_eq_none hend, followAtMost_of_eq_none (hl.symm.trans hend)]
  | succ n ih =>
    rcases t.linksTo_or_eq_none l with ⟨m, hm⟩ | hend
    · have hm' : t'.LinksTo l m := hl.symm.trans hm
      rw [hm.followAtMost_succ, hm'.followAtMost_succ]
      exact ih (fun k hk => h k (.head hm hk)) (h m (.single hm))
    · rw [followAtMost_of_eq_none hend, followAtMost_of_eq_none (hl.symm.trans hend)]

/-- Where no link is nothing is followed. -/
theorem follow_eq_self (h : (t.get? l).bind Entry.target? = none) : t.follow l = .ok l :=
  followAtMost_of_eq_none h maxLinks

/-- Whatever is entered is at the end of no links, if it is no link itself. -/
theorem look_of_get? (h : t.get? l = some e) (he : e.target? = none) : t.look l = .ok e := by
  rw [look, follow_eq_self (by rw [h]; exact he)]
  simp [Except.bind, h]

/-- Where nothing is, nothing is found. -/
theorem look_of_get?_eq_none (h : t.get? l = none) : t.look l = .error .notFound := by
  rw [look, follow_eq_self (by rw [h]; rfl)]
  simp [Except.bind, h]

/-- What is at the end of links is found where they start. -/
theorem look_of_follow (hl : t.follow l = .ok k) (he : t.get? k = some e) : t.look l = .ok e := by
  simp [look, hl, he, Except.bind]

/-- What is found is what links lead to, and no link. -/
theorem look_eq_ok (h : t.look l = .ok e) :
    ∃ k, t.follow l = .ok k ∧ t.Leads l k ∧ t.get? k = some e ∧ e.target? = none := by
  unfold look at h
  cases hl : t.follow l with
  | error r => simp [hl, Except.bind] at h
  | ok k =>
    obtain ⟨hleads, hend⟩ := of_followAtMost hl
    cases he : t.get? k with
    | none => simp [hl, he, Except.bind] at h
    | some e' =>
      obtain rfl : e' = e := by simpa [hl, he, Except.bind] using h
      exact ⟨k, rfl, hleads, he, by simpa [he] using hend⟩

/-- Nothing is found for a reason that counts as absence. -/
theorem isAbsence_of_look {r : Refusal} (h : t.look l = .error r) : r.isAbsence = true := by
  unfold look at h
  cases hl : t.follow l with
  | error r' =>
    obtain rfl : r' = r := by simpa [hl, Except.bind] using h
    exact isAbsence_of_followAtMost hl
  | ok k =>
    cases he : t.get? k with
    | none =>
      obtain rfl : Refusal.notFound = r := by simpa [hl, he, Except.bind] using h
      rfl
    | some e => simp [hl, he, Except.bind] at h

/-- What is found where links start is found at every place that they lead to. -/
theorem look_of_leads (h : t.look l = .ok e) (hk : t.Leads l k) : t.look k = .ok e := by
  unfold look follow at h ⊢
  cases hl : t.followAtMost maxLinks l with
  | error r => simp [hl, Except.bind] at h
  | ok m => rwa [followAtMost_of_leads hl hk, ← hl]

/-- If anything is found, something is entered where the links start. -/
theorem isSome_get?_of_look (h : t.look l = .ok e) : (t.get? l).isSome := by
  cases hl : t.get? l with
  | some e' => rfl
  | none =>
    rw [look_of_get?_eq_none hl] at h
    cases h

/-- The same is found where all that links lead to is the same. -/
theorem look_congr (h : ∀ k, t.Leads l k → t.get? k = t'.get? k) : t.look l = t'.look l := by
  have hfollow : t.follow l = t'.follow l :=
    followAtMost_congr (fun k hk => by rw [h k hk]) maxLinks
  unfold look
  rw [← hfollow]
  cases hl : t.follow l with
  | error r => rfl
  | ok k => simp only [Except.bind, h k (of_followAtMost hl).1]

/-- Whatever is found without an entry was found with it. -/
theorem look_of_look_erase {l m : Location} (hm : m ≠ []) (h : (t.erase m).look l = .ok e) :
    t.look l = .ok e := by
  rw [← h]
  refine (look_congr fun k hk => get?_erase_of_ne ?_).symm
  rintro rfl
  have hgone := look_of_leads h hk
  rw [look_of_get?_eq_none (get?_erase_self hm)] at hgone
  cases hgone

/-- Whatever is not found any more without an entry was led to that entry. -/
theorem leads_of_look_erase_ne {l m : Location} (h : (t.erase m).look l ≠ t.look l) :
    t.Leads l m := by
  by_contra hm
  refine h (look_congr fun k hk => (get?_erase_of_ne ?_).symm).symm
  rintro rfl
  exact hm hk

end Tree

end TypeWeave.File
