import EchoFilter.Ledger.Places

/-!
The ledger: entries of distinct keys with a time each, in the order of their last placement.

`place` puts a key at the tail with a new time, whether it was present or not; removal takes a key
out or pops the head.  The list `entries`, oldest first, is all there is to a ledger: how the
entries are kept cannot be seen, and two ledgers with the same entries are equal.  Each operation
has a statement that says what it is on the list.
-/

namespace EchoFilter

/-- Places are the same ledger if their entries are the same. -/
instance Places.sameEntries (K : Type) [Ord K] : Setoid (Places K) where
  r p q := p.entries = q.entries
  iseqv := ⟨fun _ => rfl, Eq.symm, Eq.trans⟩

/-- Entries of distinct keys, oldest placement first. -/
def Ledger (K : Type) [Ord K] : Type :=
  Quotient (Places.sameEntries K)

namespace Ledger

variable {K : Type} [Ord K]

/-- The entries, oldest placement first. -/
def entries (l : Ledger K) : List (K × Time) :=
  Quotient.lift Places.entries (fun _ _ h => h) l

@[ext] theorem ext {l m : Ledger K} (h : l.entries = m.entries) : l = m := by
  induction l using Quotient.ind
  induction m using Quotient.ind
  exact Quotient.sound h

/-- A key has one entry at most. -/
theorem nodup (l : Ledger K) : (l.entries.map Prod.fst).Nodup := by
  induction l using Quotient.ind with
  | _ p => exact p.nodup

/-- The keys, oldest first. -/
def keys (l : Ledger K) : List K :=
  l.entries.map Prod.fst

def size (l : Ledger K) : Nat :=
  Quotient.lift Places.size (fun p q (h : p.entries = q.entries) => by
    rw [p.size_eq, q.size_eq, h]) l

theorem size_eq (l : Ledger K) : l.size = l.entries.length := by
  induction l using Quotient.ind with
  | _ p => exact p.size_eq

def isEmpty (l : Ledger K) : Bool :=
  l.size = 0

/-- The oldest entry. -/
def oldest? (l : Ledger K) : Option (K × Time) :=
  Quotient.lift Places.oldest? (fun p q (h : p.entries = q.entries) => by
    rw [p.oldest?_eq, q.oldest?_eq, h]) l

theorem oldest?_eq (l : Ledger K) : l.oldest? = l.entries.head? := by
  induction l using Quotient.ind with
  | _ p => exact p.oldest?_eq

/-- The time recorded for a key; looking moves nothing. -/
def timeOf? (l : Ledger K) (k : K) : Option Time :=
  Quotient.lift (Places.timeOf? · k) (fun p q (h : p.entries = q.entries) => by
    apply Option.ext
    intro t
    rw [Places.timeOf?_eq_some_iff, Places.timeOf?_eq_some_iff, h]) l

/-- The time of a key is the one its entry holds. -/
theorem timeOf?_eq_some_iff {l : Ledger K} {k : K} {t : Time} :
    l.timeOf? k = some t ↔ (k, t) ∈ l.entries := by
  induction l using Quotient.ind with
  | _ p => exact Places.timeOf?_eq_some_iff

def contains (l : Ledger K) (k : K) : Bool :=
  (l.timeOf? k).isSome

theorem contains_eq_true_iff {l : Ledger K} {k : K} : l.contains k = true ↔ k ∈ l.keys := by
  unfold contains keys
  rw [Option.isSome_iff_exists, List.mem_map]
  constructor
  · rintro ⟨t, ht⟩
    exact ⟨(k, t), timeOf?_eq_some_iff.1 ht, rfl⟩
  · rintro ⟨⟨_, t⟩, ht, rfl⟩
    exact ⟨t, timeOf?_eq_some_iff.2 ht⟩

/-! ## Operations -/

variable [Std.TransOrd K]

def empty : Ledger K :=
  Quotient.mk _ Places.empty

instance : Inhabited (Ledger K) := ⟨empty⟩

@[simp] theorem entries_empty : (empty : Ledger K).entries = [] :=
  Places.entries_empty

@[simp] theorem size_empty : (empty : Ledger K).size = 0 := by
  rw [size_eq, entries_empty, List.length_nil]

@[simp] theorem timeOf?_empty (k : K) : (empty : Ledger K).timeOf? k = none := by
  rw [Option.eq_none_iff_forall_ne_some]
  intro t ht
  rw [timeOf?_eq_some_iff, entries_empty] at ht
  cases ht

variable [Std.LawfulEqOrd K] [DecidableEq K]

/-- The ledger without a key. -/
def erase (l : Ledger K) (k : K) : Ledger K :=
  Quotient.lift (fun p => Quotient.mk _ (p.erase k)) (fun p q (h : p.entries = q.entries) => by
    apply Quotient.sound
    show (p.erase k).entries = (q.erase k).entries
    rw [p.entries_erase, q.entries_erase, h]) l

@[simp] theorem entries_erase (l : Ledger K) (k : K) :
    (l.erase k).entries = l.entries.filter fun e => e.1 ≠ k := by
  induction l using Quotient.ind with
  | _ p => exact p.entries_erase k

/-- Puts a key at the tail with a new time, in place of any entry it had. -/
def place (l : Ledger K) (k : K) (t : Time) : Ledger K :=
  Quotient.lift (fun p => Quotient.mk _ (p.place k t)) (fun p q (h : p.entries = q.entries) => by
    apply Quotient.sound
    show (p.place k t).entries = (q.place k t).entries
    rw [p.entries_place, q.entries_place, h]) l

@[simp] theorem entries_place (l : Ledger K) (k : K) (t : Time) :
    (l.place k t).entries = (l.entries.filter fun e => e.1 ≠ k) ++ [(k, t)] := by
  induction l using Quotient.ind with
  | _ p => exact p.entries_place k t

/-- Takes out a key, and gives the time it had. -/
def remove (l : Ledger K) (k : K) : Option Time × Ledger K :=
  (l.timeOf? k, l.erase k)

/-- Places a key that is present, and tells whether it is; an absent key changes nothing. -/
def touch (l : Ledger K) (k : K) (t : Time) : Bool × Ledger K :=
  if l.contains k then (true, l.place k t) else (false, l)

theorem touch_snd (l : Ledger K) (k : K) (t : Time) :
    (l.touch k t).2 = if l.contains k then l.place k t else l := by
  unfold touch
  split <;> rfl

/-- The ledger without its oldest entry. -/
def dropOldest (l : Ledger K) : Ledger K :=
  Quotient.lift (fun p => Quotient.mk _ p.dropOldest) (fun p q (h : p.entries = q.entries) => by
    apply Quotient.sound
    show p.dropOldest.entries = q.dropOldest.entries
    rw [p.entries_dropOldest, q.entries_dropOldest, h]) l

@[simp] theorem entries_dropOldest (l : Ledger K) : l.dropOldest.entries = l.entries.tail := by
  induction l using Quotient.ind with
  | _ p => exact p.entries_dropOldest

/-- Takes out the oldest entry. -/
def pop (l : Ledger K) : Option (K × Time) × Ledger K :=
  (l.oldest?, l.dropOldest)

/-- Takes out the oldest entry if its time is below `cutoff`; an entry behind it is never looked
at. -/
def popBelow (l : Ledger K) (cutoff : Time) : Option (K × Time) × Ledger K :=
  match l.oldest? with
  | some e => if e.2 < cutoff then (some e, l.dropOldest) else (none, l)
  | none => (none, l)

/-- Pops below `cutoff` until nothing more goes, at most so many times. -/
def popBelowUpTo (cutoff : Time) : Nat → Ledger K → List (K × Time) × Ledger K
  | 0, l => ([], l)
  | n + 1, l =>
    match l.popBelow cutoff with
    | (none, l) => ([], l)
    | (some e, l) =>
      let (es, l) := popBelowUpTo cutoff n l
      (e :: es, l)

/-- Pops below `cutoff` until nothing more goes: what goes, and what is left. -/
def popAllBelow (l : Ledger K) (cutoff : Time) : List (K × Time) × Ledger K :=
  popBelowUpTo cutoff l.size l

theorem popBelowUpTo_eq (cutoff : Time) (n : Nat) (l : Ledger K) (h : l.entries.length ≤ n) :
    (popBelowUpTo cutoff n l).1 = l.entries.takeWhile (fun e => e.2 < cutoff) ∧
      (popBelowUpTo cutoff n l).2.entries = l.entries.dropWhile fun e => e.2 < cutoff := by
  induction n generalizing l with
  | zero =>
    have hl : l.entries = [] := List.length_eq_zero_iff.1 (Nat.le_zero.1 h)
    simp [popBelowUpTo, hl]
  | succ n ih =>
    cases hl : l.entries with
    | nil => simp [popBelowUpTo, popBelow, oldest?_eq, hl]
    | cons e r =>
      by_cases he : e.2 < cutoff
      · have hr : l.dropOldest.entries = r := by rw [entries_dropOldest, hl, List.tail_cons]
        have hrest := ih l.dropOldest (by rw [hr]; rw [hl, List.length_cons] at h; omega)
        rw [hr] at hrest
        simp [popBelowUpTo, popBelow, oldest?_eq, hl, he, hrest]
      · simp [popBelowUpTo, popBelow, oldest?_eq, hl, he]

/-- What goes is the longest run of entries below `cutoff` from the head. -/
theorem popAllBelow_fst (l : Ledger K) (cutoff : Time) :
    (l.popAllBelow cutoff).1 = l.entries.takeWhile fun e => e.2 < cutoff :=
  (popBelowUpTo_eq cutoff l.size l (Nat.le_of_eq l.size_eq.symm)).1

/-- What is left starts with the first entry that is not below `cutoff`. -/
theorem entries_popAllBelow (l : Ledger K) (cutoff : Time) :
    (l.popAllBelow cutoff).2.entries = l.entries.dropWhile fun e => e.2 < cutoff :=
  (popBelowUpTo_eq cutoff l.size l (Nat.le_of_eq l.size_eq.symm)).2

/-! ## Times after an operation -/

theorem timeOf?_erase (l : Ledger K) (k a : K) :
    (l.erase k).timeOf? a = if a = k then none else l.timeOf? a := by
  apply Option.ext
  intro t
  rw [timeOf?_eq_some_iff, entries_erase, List.mem_filter]
  by_cases h : a = k
  · simp [h]
  · simp [h, timeOf?_eq_some_iff]

theorem timeOf?_place (l : Ledger K) (k a : K) (t : Time) :
    (l.place k t).timeOf? a = if a = k then some t else l.timeOf? a := by
  apply Option.ext
  intro u
  rw [timeOf?_eq_some_iff, entries_place, List.mem_append, List.mem_filter]
  by_cases h : a = k
  · simp [h, eq_comm]
  · simp [h, timeOf?_eq_some_iff]

end Ledger

end EchoFilter
