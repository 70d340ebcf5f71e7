import Mathlib.Data.List.TakeWhile
import EchoFilter.Ledger
import EchoFilter.Signature

/-!
# Placements — a ledger is an ordered map by last placement

What is asked of a ledger, with what it replied, tells which changes took effect.  A placement
stands as long as no later change concerns its key, and the standing placements, oldest first, are
the entries: one change at a time (`entries_answer`), hence after any run (`entries_run`).

To pop until nothing comes is a run as well (`Drains`): as many replies with an entry as there are
entries to go, and then one without.
-/

namespace EchoFilter

namespace Ledger

variable {K : Type}

/-! ## What can be asked -/

/-- What can be asked of a ledger. -/
inductive Request (K : Type) where
  | append (k : K) (t : Time)
  | touch (k : K) (t : Time)
  | remove (k : K)
  | pop
  | popBelow (cutoff : Time)
  | clear
  | list
  | size
  | oldest
  | timeOf (k : K)
  deriving DecidableEq, Repr

inductive Reply (K : Type) where
  | done
  | found (b : Bool)
  | time (t : Option Time)
  | entry (e : Option (K × Time))
  | entries (es : List (K × Time))
  | number (n : Nat)
  deriving DecidableEq, Repr

section Requests

variable [Ord K] [Std.TransOrd K] [Std.LawfulEqOrd K] [DecidableEq K]

def answer (l : Ledger K) : Request K → Reply K × Ledger K
  | .append k t => (.done, l.place k t)
  | .touch k t => (.found (l.touch k t).1, (l.touch k t).2)
  | .remove k => (.time (l.remove k).1, (l.remove k).2)
  | .pop => (.entry l.pop.1, l.pop.2)
  | .popBelow cutoff => (.entry (l.popBelow cutoff).1, (l.popBelow cutoff).2)
  | .clear => (.done, empty)
  | .list => (.entries l.entries, l)
  | .size => (.number l.size, l)
  | .oldest => (.entry l.oldest?, l)
  | .timeOf k => (.time (l.timeOf? k), l)

/-- Every request with its reply, and the ledger that is left. -/
def run (l : Ledger K) : List (Request K) → List (Request K × Reply K) × Ledger K
  | [] => ([], l)
  | r :: rest =>
    let (reply, next) := l.answer r
    let (exchanges, last) := run next rest
    ((r, reply) :: exchanges, last)

end Requests

/-! ## What took effect -/

/-- A key takes the last place, or entries go. -/
inductive Change (K : Type) where
  | placed (k : K) (t : Time)
  | removed (k : K)
  | cleared
  deriving DecidableEq, Repr

namespace Change

/-- The effect of a request, if the reply tells of one. -/
def of? : Request K → Reply K → Option (Change K)
  | .append k t, _ => some (.placed k t)
  | .touch k t, .found true => some (.placed k t)
  | .remove k, .time (some _) => some (.removed k)
  | .pop, .entry e | .popBelow _, .entry e => e.map fun e => .removed e.1
  | .clear, _ => some .cleared
  | _, _ => none

def placement? : Change K → Option (K × Time)
  | .placed k t => some (k, t)
  | .removed _ | .cleared => none

variable [DecidableEq K]

def concerns (k : K) : Change K → Bool
  | .placed a _ | .removed a => a = k
  | .cleared => true

/-- The entries after a change: those it does not concern, and then what it places. -/
def applyTo (c : Change K) (es : List (K × Time)) : List (K × Time) :=
  (es.filter fun e => !c.concerns e.1) ++ c.placement?.toList

@[simp] theorem applyTo_placed (k : K) (t : Time) (es : List (K × Time)) :
    (placed k t).applyTo es = (es.filter fun e => e.1 ≠ k) ++ [(k, t)] := by
  simp [applyTo, placement?, concerns, eq_comm]

@[simp] theorem applyTo_removed (k : K) (es : List (K × Time)) :
    (removed k).applyTo es = es.filter fun e => e.1 ≠ k := by
  simp [applyTo, placement?, concerns, eq_comm]

@[simp] theorem applyTo_cleared (es : List (K × Time)) : (cleared : Change K).applyTo es = [] := by
  simp [applyTo, placement?, concerns]

end Change

/-- The changes that exchanges tell of, in their order. -/
def changes (exchanges : List (Request K × Reply K)) : List (Change K) :=
  exchanges.filterMap fun x => Change.of? x.1 x.2

section History

variable [DecidableEq K] {h : List (Change K)} {k : K} {t : Time}

/-- The latest change that concerns a key. -/
def last? (h : List (Change K)) (k : K) : Option (Change K) :=
  (h.filter (·.concerns k)).getLast?

/-- The placements that no later change concerns, in their order. -/
def standing : List (Change K) → List (K × Time)
  | [] => []
  | .placed k t :: later =>
    if later.any (·.concerns k) then standing later else (k, t) :: standing later
  | .removed _ :: later | .cleared :: later => standing later

theorem last?_cons (c : Change K) (later : List (Change K)) (k : K) :
    last? (c :: later) k = (last? later k).or (if c.concerns k then some c else none) := by
  unfold last?
  by_cases hc : c.concerns k
  · rw [List.filter_cons_of_pos hc, List.getLast?_cons, if_pos hc]
    cases (later.filter (·.concerns k)).getLast? <;> rfl
  · rw [List.filter_cons_of_neg hc, if_neg hc, Option.or_none]

theorem last?_eq_none_iff : last? h k = none ↔ h.any (·.concerns k) = false := by
  rw [last?, List.getLast?_eq_none_iff, List.filter_eq_nil_iff, List.any_eq_false]

/-- An entry stands if and only if the latest change of its key placed it. -/
theorem mem_standing : (k, t) ∈ standing h ↔ last? h k = some (.placed k t) := by
  induction h with
  | nil => simp [standing, last?]
  | cons c later ih =>
    rw [last?_cons]
    cases c with
    | placed a s =>
      by_cases hany : later.any (·.concerns a)
      · rw [standing, if_pos hany, ih]
        by_cases hk : a = k
        · subst hk
          cases hlast : last? later a with
          | none =>
            rw [last?_eq_none_iff.1 hlast] at hany
            cases hany
          | some d => rw [Option.some_or]
        · simp [Change.concerns, hk]
      · have hlast : last? later a = none := by
          rw [last?_eq_none_iff]
          simpa using hany
        rw [standing, if_neg hany, List.mem_cons, ih]
        by_cases hk : a = k
        · subst hk
          simp [Change.concerns, hlast, eq_comm]
        · simp [Change.concerns, hk, Ne.symm hk]
    | removed a =>
      rw [standing, ih]
      by_cases hk : a = k <;> cases last? later k <;> simp [Change.concerns, hk]
    | cleared =>
      rw [standing, ih]
      cases last? later k <;> simp [Change.concerns]

/-- One more change acts on what stood before it. -/
theorem standing_concat (h : List (Change K)) (c : Change K) :
    standing (h ++ [c]) = c.applyTo (standing h) := by
  induction h with
  | nil => cases c <;> simp [standing, Change.applyTo, Change.placement?]
  | cons d later ih =>
    cases d with
    | placed a s =>
      rw [List.cons_append, standing, standing, ih, List.any_append, List.any_cons, List.any_nil,
        Bool.or_false]
      by_cases hany : later.any (·.concerns a)
      · rw [if_pos hany, hany, Bool.true_or, if_pos rfl]
      · -- The placement stood, and stands on unless `c` is a change of its key.
        rw [if_neg hany]
        by_cases hc : c.concerns a
        · simp [Change.applyTo, hc]
        · simp [Change.applyTo, hc, hany]
    | removed a | cleared => exact ih

example :
    standing [.placed 1 9, .placed 2 4, .removed 1, .placed 3 6, .placed 2 2] =
      [(3, 6), (2, 2)] := by
  decide

end History

/-! ## Lists of distinct keys -/

section Keys

variable [DecidableEq K] {es : List (K × Time)}

theorem lookup_eq_some_iff_mem (hnodup : (es.map Prod.fst).Nodup) {k : K} {t : Time} :
    es.lookup k = some t ↔ (k, t) ∈ es := by
  induction es with
  | nil => simp
  | cons e rest ih =>
    obtain ⟨a, u⟩ := e
    rw [List.map_cons, List.nodup_cons] at hnodup
    by_cases hk : k = a
    · subst hk
      have hrest : (k, t) ∉ rest := by
        intro hmem
        apply hnodup.1
        exact List.mem_map.2 ⟨(k, t), hmem, rfl⟩
      simp [hrest, eq_comm]
    · have hbeq : (k == a) = false := by simpa using hk
      rw [List.lookup_cons, hbeq, List.mem_cons, ← ih hnodup.2]
      simp [hk]

end Keys

/-! ## Cuts -/

section Cuts

variable [Ord K] {l m : Ledger K} {cutoff : Time}

/-- The longest front part below `cutoff`, and the rest as it was. -/
structure Cuts (cutoff : Time) (l : Ledger K) (es : List (K × Time)) (m : Ledger K) : Prop where
  split : l.entries = es ++ m.entries
  below : ∀ e ∈ es, e.2 < cutoff
  fresh : ∀ e ∈ m.oldest?, cutoff ≤ e.2

/-- From a fresh entry on everything stays, older entries behind it included. -/
theorem Cuts.stays {es front back : List (K × Time)} {e : K × Time}
    (h : Cuts cutoff l es m) (hl : l.entries = front ++ e :: back) (he : cutoff ≤ e.2) :
    e :: back <:+ m.entries := by
  have hsplit := h.split
  rw [hl, List.append_eq_append_iff] at hsplit
  rcases hsplit with ⟨between, hes, hback⟩ | ⟨between, -, hm⟩
  · cases between with
    | nil => exact ⟨[], hback⟩
    | cons a rest =>
      -- The fresh entry would be among those that went.
      rw [List.cons_append, List.cons.injEq] at hback
      have hmem : e ∈ es := by
        rw [hes, hback.1]
        simp
      exact absurd he (Nat.not_le.2 (h.below e hmem))
  · exact ⟨between, hm.symm⟩

end Cuts

/-! ## One request after another -/

variable [Ord K] [DecidableEq K]

theorem timeOf?_eq_lookup (l : Ledger K) (k : K) : l.timeOf? k = l.entries.lookup k := by
  apply Option.ext
  intro t
  rw [timeOf?_eq_some_iff, lookup_eq_some_iff_mem l.nodup]

variable [Std.TransOrd K] [Std.LawfulEqOrd K] {l m : Ledger K} {r : Request K}

/-- With its oldest entry a ledger loses the key of that entry, which has no other. -/
theorem dropOldest_eq_erase {e : K × Time} (h : l.oldest? = some e) :
    l.dropOldest = l.erase e.1 := by
  have hnodup := l.nodup
  apply ext
  rw [entries_dropOldest, entries_erase]
  rw [oldest?_eq] at h
  cases hl : l.entries with
  | nil => rfl
  | cons a rest =>
    rw [hl, List.map_cons, List.nodup_cons] at hnodup
    rw [hl] at h
    cases h
    rw [List.tail_cons, List.filter_cons_of_neg (by simp), filter_ne_eq_self hnodup.1]

theorem erase_of_timeOf?_eq_none {k : K} (h : l.timeOf? k = none) : l.erase k = l := by
  have habsent : k ∉ l.keys := by
    rw [← contains_eq_true_iff, contains, h]
    exact Bool.false_ne_true
  apply ext
  rw [entries_erase]
  exact filter_ne_eq_self habsent

theorem entries_place_eq_applyTo (l : Ledger K) (k : K) (t : Time) :
    (l.place k t).entries = (Change.placed k t).applyTo l.entries := by
  rw [entries_place, Change.applyTo_placed]

theorem entries_erase_eq_applyTo (l : Ledger K) (k : K) :
    (l.erase k).entries = (Change.removed k).applyTo l.entries := by
  rw [entries_erase, Change.applyTo_removed]

/-- The oldest entry goes if `p` holds of it; otherwise none goes, whatever stands behind. -/
def Takes (p : K × Time → Bool) (r : Request K) : Prop :=
  ∀ l : Ledger K, l.answer r =
    match l.oldest? with
    | some e => if p e then (.entry (some e), l.dropOldest) else (.entry none, l)
    | none => (.entry none, l)

theorem takes_pop : Takes (fun _ => true) (.pop : Request K) := by
  intro l
  show (Reply.entry l.oldest?, l.dropOldest) = _
  cases ho : l.oldest? with
  | some e => rfl
  | none =>
    have hnil : l.entries = [] := by rwa [oldest?_eq, List.head?_eq_none_iff] at ho
    have hdrop : l.dropOldest = l := by
      apply ext
      rw [entries_dropOldest, hnil, List.tail_nil]
    rw [hdrop]

theorem takes_popBelow (cutoff : Time) :
    Takes (fun e => e.2 < cutoff) (.popBelow cutoff : Request K) := by
  intro l
  show (Reply.entry (l.popBelow cutoff).1, (l.popBelow cutoff).2) = _
  unfold popBelow
  cases l.oldest? with
  | none => rfl
  | some e => by_cases he : e.2 < cutoff <;> simp [he]

variable {p : K × Time → Bool}

/-- What a request does to the entries is what its reply tells: a change, or nothing. -/
def Tells (l : Ledger K) (r : Request K) : Prop :=
  (l.answer r).2.entries =
    (Change.of? r (l.answer r).1).elim l.entries fun c => c.applyTo l.entries

theorem Takes.tells (h : Takes p r)
    (hof : ∀ e, Change.of? r (.entry e) = e.map fun e => .removed e.1) (l : Ledger K) :
    l.Tells r := by
  unfold Tells
  rw [h l]
  cases ho : l.oldest? with
  | none =>
    simp only [hof, Option.map_none, Option.elim_none]
  | some e =>
    by_cases hp : p e
    · simp only [hp, if_true, hof, Option.map_some, Option.elim_some]
      rw [dropOldest_eq_erase ho, entries_erase_eq_applyTo]
    · simp only [hp, Bool.false_eq_true, if_false, hof, Option.map_none, Option.elim_none]

/-- Every reply tells what the request did. -/
theorem tells (l : Ledger K) (r : Request K) : l.Tells r := by
  unfold Tells
  cases r with
  | append k t => exact l.entries_place_eq_applyTo k t
  | touch k t =>
    show (l.touch k t).2.entries = (Change.of? (.touch k t) (.found (l.touch k t).1)).elim _ _
    unfold touch
    cases l.contains k with
    | true => exact l.entries_place_eq_applyTo k t
    | false => rfl
  | remove k =>
    show (l.erase k).entries = (Change.of? (.remove k) (.time (l.timeOf? k))).elim _ _
    cases hk : l.timeOf? k with
    | none =>
      rw [erase_of_timeOf?_eq_none hk]
      rfl
    | some t => exact l.entries_erase_eq_applyTo k
  | pop => exact takes_pop.tells (fun _ => rfl) l
  | popBelow cutoff => exact (takes_popBelow cutoff).tells (fun _ => rfl) l
  | clear => exact (Change.applyTo_cleared l.entries).symm
  | list | size | oldest | timeOf k => rfl

/-- Whatever is asked, the entries stay the placements that stand. -/
theorem entries_answer {h : List (Change K)} (hl : l.entries = standing h) (r : Request K) :
    (l.answer r).2.entries = standing (h ++ (Change.of? r (l.answer r).1).toList) := by
  have htells : (l.answer r).2.entries = _ := l.tells r
  cases hc : Change.of? r (l.answer r).1 with
  | none =>
    rw [htells, hc, Option.toList_none, List.append_nil]
    exact hl
  | some c =>
    rw [htells, hc, Option.toList_some, standing_concat, ← hl]
    rfl

/-- After any run the entries are the placements that stand. -/
theorem entries_run {h : List (Change K)} (hl : l.entries = standing h) (rs : List (Request K)) :
    (l.run rs).2.entries = standing (h ++ changes (l.run rs).1) := by
  induction rs generalizing l h with
  | nil =>
    show l.entries = standing (h ++ [])
    rw [List.append_nil]
    exact hl
  | cons r rest ih =>
    have hchanges : changes (l.run (r :: rest)).1 =
        (Change.of? r (l.answer r).1).toList ++ changes ((l.answer r).2.run rest).1 := by
      show changes ((r, (l.answer r).1) :: ((l.answer r).2.run rest).1) = _
      unfold changes
      rw [List.filterMap_cons]
      cases Change.of? r (l.answer r).1 <;> rfl
    show ((l.answer r).2.run rest).2.entries = _
    rw [hchanges, ← List.append_assoc]
    exact ih (entries_answer hl r)

/-! ## Asking until nothing comes -/

/-- Asked once more than there are entries in the list, `r` brings these entries, and then none. -/
def Drains (r : Request K) (l : Ledger K) (es : List (K × Time)) (m : Ledger K) : Prop :=
  l.run (List.replicate (es.length + 1) r) =
    (es.map (fun e => (r, .entry (some e))) ++ [(r, .entry none)], m)

theorem Drains.cons {e : K × Time} {es : List (K × Time)} {next : Ledger K}
    (h : l.answer r = (.entry (some e), next)) (hrest : Drains r next es m) :
    Drains r l (e :: es) m := by
  unfold Drains at hrest ⊢
  rw [List.length_cons, List.replicate_succ, run, h]
  simp only [hrest, List.map_cons, List.cons_append]

theorem drains_nil (h : l.answer r = (.entry none, l)) : Drains r l [] l := by
  show l.run [r] = _
  rw [run, h]
  rfl

/-- What takes the head where `p` holds takes the longest front part where it holds. -/
theorem Takes.drains (h : Takes p r) (hm : m.entries = l.entries.dropWhile p) :
    Drains r l (l.entries.takeWhile p) m := by
  -- By induction on the entries: where one goes, the ledger without it has the rest of them.
  generalize hes : l.entries = es at hm ⊢
  induction es generalizing l with
  | nil =>
    have hml : m = l := ext (by rw [hm, hes]; rfl)
    rw [hml]
    apply drains_nil
    rw [h l, oldest?_eq, hes, List.head?_nil]
  | cons e rest ih =>
    have ho : l.oldest? = some e := by rw [oldest?_eq, hes, List.head?_cons]
    have hanswer := h l
    rw [ho] at hanswer
    by_cases hp : p e
    · rw [List.dropWhile_cons_of_pos hp] at hm
      rw [List.takeWhile_cons_of_pos hp]
      simp only [hp, if_true] at hanswer
      apply Drains.cons hanswer
      apply ih _ hm
      rw [entries_dropOldest, hes, List.tail_cons]
    · rw [List.dropWhile_cons_of_neg hp, ← hes] at hm
      rw [List.takeWhile_cons_of_neg hp, ext hm]
      apply drains_nil
      simpa only [hp, Bool.false_eq_true, if_false] using hanswer

theorem cuts_popAllBelow (l : Ledger K) (cutoff : Time) :
    Cuts cutoff l (l.popAllBelow cutoff).1 (l.popAllBelow cutoff).2 where
  split := by
    rw [popAllBelow_fst, entries_popAllBelow, List.takeWhile_append_dropWhile]
  below := by
    intro e he
    rw [popAllBelow_fst] at he
    simpa using List.all_eq_true.1 List.all_takeWhile e he
  fresh := by
    intro e he
    rw [oldest?_eq, entries_popAllBelow] at he
    have hnot := List.head?_dropWhile_not (fun e : K × Time => decide (e.2 < cutoff)) l.entries
    rw [Option.mem_def.1 he] at hnot
    simpa using hnot

/-! ## The ordered map -/

/-- A ledger that replies from a list of entries.  No look at it changes it, and neither does
touching a key that is not listed; popped until nothing comes it brings the list, and is empty
then. -/
structure Answers (l : Ledger K) (es : List (K × Time)) : Prop where
  list : l.answer .list = (.entries es, l)
  size : l.answer .size = (.number es.length, l)
  oldest : l.answer .oldest = (.entry es.head?, l)
  timeOf : ∀ k, l.answer (.timeOf k) = (.time (es.lookup k), l)
  touch : ∀ k t, l.answer (.touch k t) =
    if k ∈ es.map Prod.fst then (.found true, l.place k t) else (.found false, l)
  remove : ∀ k, l.answer (.remove k) = (.time (es.lookup k), l.erase k)
  pops : Drains .pop l es empty

theorem answers_entries (l : Ledger K) : l.Answers l.entries where
  list := rfl
  size := by rw [answer, size_eq]
  oldest := by rw [answer, oldest?_eq]
  timeOf k := by rw [answer, timeOf?_eq_lookup]
  touch k t := by
    show (Reply.found (l.touch k t).1, (l.touch k t).2) = if k ∈ l.keys then _ else _
    rw [touch]
    by_cases hk : k ∈ l.keys
    · rw [contains_eq_true_iff.2 hk, if_pos rfl, if_pos hk]
    · have hnot : l.contains k = false := by
        rw [← Bool.not_eq_true, contains_eq_true_iff]
        exact hk
      rw [hnot, if_neg Bool.false_ne_true, if_neg hk]
  remove k := by rw [answer, remove, timeOf?_eq_lookup]
  pops := by
    have htake : l.entries.takeWhile (fun _ => true) = l.entries := by
      rw [List.takeWhile_eq_self_iff]
      exact fun _ _ => rfl
    have hdrop : (empty : Ledger K).entries = l.entries.dropWhile fun _ => true := by
      rw [entries_empty, eq_comm, List.dropWhile_eq_nil_iff]
      exact fun _ _ => rfl
    have hdrains := takes_pop.drains hdrop
    rwa [htake] at hdrains

/-- A ledger that is an ordered map by last placement: a key is there if and only if the latest
change of it was a placement, and the placements that stand are listed once each, in their order,
with the times they gave. -/
structure Follows (l : Ledger K) (h : List (Change K)) : Prop where
  answers : l.Answers (standing h)
  nodup : ((standing h).map Prod.fst).Nodup
  listed : ∀ k t, (k, t) ∈ standing h ↔ last? h k = some (.placed k t)
  present : ∀ k, l.contains k = true ↔ ∃ t, last? h k = some (.placed k t)

theorem follows {h : List (Change K)} (hl : l.entries = standing h) : l.Follows h where
  answers := hl ▸ l.answers_entries
  nodup := hl ▸ l.nodup
  listed _ _ := mem_standing
  present k := by
    rw [contains, Option.isSome_iff_exists]
    simp only [timeOf?_eq_some_iff, hl, mem_standing]

/-- **A ledger is an ordered map by last placement.**  After any requests, by keys of any width and
with times in any order, its entries are the placements that no later change concerns, and every
look at it agrees with that list.  To pop below a cutoff until nothing comes takes one call more
than entries go.  These are the longest front part below the cutoff, and the rest is as it was:
behind a fresh entry the older ones stay as well. -/
theorem ordered_by_last_placement {requests : List (Request Signature)}
    {exchanges : List (Request Signature × Reply Signature)} {l : Ledger Signature}
    (hrun : (empty : Ledger Signature).run requests = (exchanges, l)) :
    l.Follows (changes exchanges) ∧
      ∀ cutoff, ∃ es m, l.popAllBelow cutoff = (es, m) ∧ Drains (.popBelow cutoff) l es m ∧
        es.length + 1 ≤ l.size + 1 ∧ Cuts cutoff l es m ∧
          ∀ front e back, l.entries = front ++ e :: back → cutoff ≤ e.2 →
            e :: back <:+ m.entries := by
  constructor
  · have hempty : (empty : Ledger Signature).entries = standing [] := rfl
    have hentries := entries_run hempty requests
    rw [hrun] at hentries
    exact follows hentries
  · intro cutoff
    have hcuts := l.cuts_popAllBelow cutoff
    have hdrains :
        Drains (.popBelow cutoff) l (l.popAllBelow cutoff).1 (l.popAllBelow cutoff).2 := by
      rw [popAllBelow_fst]
      exact (takes_popBelow cutoff).drains (l.entries_popAllBelow cutoff)
    have hlength : (l.popAllBelow cutoff).1.length + 1 ≤ l.size + 1 := by
      have hsplit := congrArg List.length hcuts.split
      rw [List.length_append] at hsplit
      rw [size_eq]
      omega
    exact ⟨(l.popAllBelow cutoff).1, (l.popAllBelow cutoff).2, rfl, hdrains, hlength, hcuts,
      fun _ _ _ => hcuts.stays⟩

/-- One value at two widths is two keys.  The head goes, the fresh entry behind it stays, and so
does the old one at the tail. -/
theorem ordered_by_last_placement_unsorted :
    ∃ narrow wide other : Signature, narrow.value = wide.value ∧ ∃ exchanges l m,
      (empty : Ledger Signature).run
          [.append narrow 9, .append wide 2, .touch narrow 3, .touch other 8, .append wide 9,
            .append other 1] = (exchanges, l) ∧
        l.Follows (changes exchanges) ∧ l.entries = [(narrow, 3), (wide, 9), (other, 1)] ∧
        l.popAllBelow 5 = ([(narrow, 3)], m) ∧ Drains (.popBelow 5) l [(narrow, 3)] m ∧
        [(wide, 9), (other, 1)] <:+ m.entries := by
  let narrow : Signature := ⟨.bits64, 7, by decide⟩
  let wide : Signature := ⟨.bits128, 7, by decide⟩
  let other : Signature := ⟨.bits32, 1, by decide⟩
  let reached := (empty : Ledger Signature).run [.append narrow 9, .append wide 2, .touch narrow 3,
    .touch other 8, .append wide 9, .append other 1]
  have hrun : reached = (reached.1, reached.2) := rfl
  have hentries : reached.2.entries = [(narrow, 3), (wide, 9), (other, 1)] := by decide +kernel
  have hgone : (reached.2.popAllBelow 5).1 = [(narrow, 3)] := by
    rw [popAllBelow_fst, hentries]
    decide
  obtain ⟨hfollows, hcuts⟩ := ordered_by_last_placement hrun
  obtain ⟨es, m, hpop, hdrains, -, -, hstays⟩ := hcuts 5
  rw [hpop] at hgone
  subst hgone
  exact ⟨narrow, wide, other, rfl, reached.1, reached.2, m, hrun, hfollows, hentries, hpop, hdrains,
    hstays [(narrow, 3)] (wide, 9) [(other, 1)] hentries (by decide)⟩

end Ledger

end EchoFilter
