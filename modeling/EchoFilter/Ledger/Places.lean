import Std.Data.TreeMap.Lemmas
import EchoFilter.Duration

/-!
Entries of distinct keys, kept by place.

Every placement takes the next place number, so the entries by growing number are the entries by
growing age of placement, oldest first: that list is `entries`.  A second tree leads from a key to
its place, so placing a key, removing it and finding the oldest entry take logarithmic time.

The statements `entries_erase`, `entries_place`, `entries_dropOldest`, `oldest?_eq`, `size_eq` and
`timeOf?_eq_some_iff` say what the operations are on the list.
-/

namespace EchoFilter

/-- The entry with the lowest number. -/
def lowest? {V : Type} (t : Std.TreeMap Nat V) : Option (Nat × V) :=
  -- The fold ends at its first entry.
  match t.foldlM (m := Except (Nat × V)) (fun _ n v => .error (n, v)) () with
  | .error e => some e
  | .ok () => none

theorem lowest?_eq {V : Type} (t : Std.TreeMap Nat V) : lowest? t = t.toList.head? := by
  rw [lowest?, Std.TreeMap.foldlM_eq_foldlM_toList]
  cases t.toList <;> rfl

/-! ## Numbered entries as a list -/

/-- The lower number comes first. -/
def Before {V : Type} (a b : Nat × V) : Prop :=
  a.1 < b.1

theorem pairwise_toList {V : Type} (t : Std.TreeMap Nat V) : t.toList.Pairwise Before :=
  t.ordered_keys_toList.imp fun h => Nat.compare_eq_lt.1 h

/-- Two lists in the order of their numbers are equal if they have the same members. -/
theorem eq_of_pairwise_before {V : Type} {l m : List (Nat × V)} (hl : l.Pairwise Before)
    (hm : m.Pairwise Before) (h : ∀ a, a ∈ l ↔ a ∈ m) : l = m := by
  have nodup : ∀ l : List (Nat × V), l.Pairwise Before → l.Nodup := by
    intro l hl
    apply hl.imp
    rintro a b hab rfl
    exact Nat.lt_irrefl a.1 hab
  apply List.Perm.eq_of_pairwise _ hl hm
  · exact (List.perm_ext_iff_of_nodup (nodup l hl) (nodup m hm)).2 h
  · intro a b _ _ hab hba
    exact absurd hab (Nat.lt_asymm hba)

theorem toList_insert_last {V : Type} (t : Std.TreeMap Nat V) (n : Nat) (v : V)
    (h : ∀ (i : Nat) w, t[i]? = some w → i < n) : (t.insert n v).toList = t.toList ++ [(n, v)] := by
  have hlast : (t.toList ++ [(n, v)]).Pairwise Before := by
    rw [List.pairwise_append]
    refine ⟨pairwise_toList t, List.pairwise_singleton _ _, ?_⟩
    intro a ha b hb
    rw [List.mem_singleton] at hb
    rw [hb]
    exact h a.1 a.2 (Std.TreeMap.mem_toList_iff_getElem?_eq_some.1 ha)
  apply eq_of_pairwise_before (pairwise_toList _) hlast
  rintro ⟨i, w⟩
  rw [List.mem_append, Std.TreeMap.mem_toList_iff_getElem?_eq_some,
    Std.TreeMap.mem_toList_iff_getElem?_eq_some, Std.TreeMap.getElem?_insert, List.mem_singleton]
  by_cases hi : n = i
  · subst hi
    have hnew : t[n]? ≠ some w := fun hw => Nat.lt_irrefl n (h n w hw)
    simp [hnew, eq_comm]
  · simp [hi, Ne.symm hi]

theorem toList_erase {V : Type} (t : Std.TreeMap Nat V) (n : Nat) :
    (t.erase n).toList = t.toList.filter fun e => e.1 ≠ n := by
  apply eq_of_pairwise_before (pairwise_toList _) ((pairwise_toList t).filter _)
  rintro ⟨i, w⟩
  rw [List.mem_filter, Std.TreeMap.mem_toList_iff_getElem?_eq_some,
    Std.TreeMap.mem_toList_iff_getElem?_eq_some, Std.TreeMap.getElem?_erase]
  by_cases hi : n = i
  · simp [hi]
  · simp [hi, Ne.symm hi]

/-! ## Entries by key -/

/-- To take out a key that no entry has changes nothing. -/
theorem filter_ne_eq_self {K V : Type} [DecidableEq K] {l : List (K × V)} {k : K}
    (h : k ∉ l.map Prod.fst) : (l.filter fun e => e.1 ≠ k) = l := by
  rw [List.filter_eq_self]
  intro e he
  have hne : e.1 ≠ k := by
    intro heq
    apply h
    rw [← heq]
    exact List.mem_map_of_mem he
  simpa using hne

/-! ## Places -/

/-- Entries of distinct keys, by place and by key. -/
structure Places (K : Type) [Ord K] where
  byPlace : Std.TreeMap Nat (K × Time)
  placeOf : Std.TreeMap K Nat
  /-- The number of the next placement. -/
  next : Nat
  /-- The place of a key is where an entry of that key stands. -/
  placeOf_iff : ∀ (k : K) (n : Nat), placeOf[k]? = some n ↔ ∃ t, byPlace[n]? = some (k, t)
  lt_next : ∀ (n : Nat) e, byPlace[n]? = some e → n < next

namespace Places

variable {K : Type} [Ord K]

/-- The entries, oldest placement first. -/
def entries (p : Places K) : List (K × Time) :=
  p.byPlace.toList.map Prod.snd

def size (p : Places K) : Nat :=
  p.byPlace.size

theorem size_eq (p : Places K) : p.size = p.entries.length := by
  rw [entries, List.length_map, Std.TreeMap.length_toList, size]

def oldest? (p : Places K) : Option (K × Time) :=
  (lowest? p.byPlace).map Prod.snd

theorem oldest?_eq (p : Places K) : p.oldest? = p.entries.head? := by
  rw [oldest?, entries, lowest?_eq, List.head?_map]

theorem mem_entries {p : Places K} {e : K × Time} :
    e ∈ p.entries ↔ ∃ n : Nat, p.byPlace[n]? = some e := by
  rw [entries, List.mem_map]
  constructor
  · rintro ⟨⟨n, e'⟩, h, rfl⟩
    exact ⟨n, Std.TreeMap.mem_toList_iff_getElem?_eq_some.1 h⟩
  · rintro ⟨n, h⟩
    exact ⟨(n, e), Std.TreeMap.mem_toList_iff_getElem?_eq_some.2 h, rfl⟩

/-- A key has one entry at most. -/
theorem nodup (p : Places K) : (p.entries.map Prod.fst).Nodup := by
  rw [entries, List.map_map, List.Nodup, List.pairwise_map]
  apply List.Pairwise.imp_of_mem _ (pairwise_toList p.byPlace)
  rintro ⟨m, k, t⟩ ⟨n, k', t'⟩ ha hb hab (rfl : k = k')
  have hm := (p.placeOf_iff k m).2 ⟨t, Std.TreeMap.mem_toList_iff_getElem?_eq_some.1 ha⟩
  have hn := (p.placeOf_iff k n).2 ⟨t', Std.TreeMap.mem_toList_iff_getElem?_eq_some.1 hb⟩
  rw [hm, Option.some.injEq] at hn
  exact Nat.lt_irrefl m (by rw [Before, ← hn] at hab; exact hab)

/-- The time recorded for a key. -/
def timeOf? (p : Places K) (k : K) : Option Time :=
  match p.placeOf[k]? with
  | some n => p.byPlace[n]?.map Prod.snd
  | none => none

theorem timeOf?_eq_some_iff {p : Places K} {k : K} {t : Time} :
    p.timeOf? k = some t ↔ (k, t) ∈ p.entries := by
  rw [timeOf?, mem_entries]
  cases hk : p.placeOf[k]? with
  | none =>
    simp only [reduceCtorEq, false_iff, not_exists]
    intro n h
    rw [(p.placeOf_iff k n).2 ⟨t, h⟩] at hk
    cases hk
  | some n =>
    obtain ⟨u, hu⟩ := (p.placeOf_iff k n).1 hk
    simp only [hu, Option.map_some, Option.some.injEq]
    constructor
    · rintro rfl
      exact ⟨n, hu⟩
    · rintro ⟨m, hm⟩
      have hkm := (p.placeOf_iff k m).2 ⟨t, hm⟩
      rw [hk, Option.some.injEq] at hkm
      rw [← hkm, hu] at hm
      simpa using hm

variable [Std.TransOrd K]

def empty : Places K where
  byPlace := ∅
  placeOf := ∅
  next := 0
  placeOf_iff := by simp
  lt_next := by simp

theorem entries_empty : (empty : Places K).entries = [] := rfl

variable [Std.LawfulEqOrd K]

/-- The places without a key. -/
def erase (p : Places K) (k : K) : Places K :=
  match h : p.placeOf[k]? with
  | none => p
  | some n =>
    { byPlace := p.byPlace.erase n
      placeOf := p.placeOf.erase k
      next := p.next
      placeOf_iff := by
        intro a m
        rw [Std.TreeMap.getElem?_erase, Std.TreeMap.getElem?_erase]
        by_cases ha : k = a
        · subst ha
          have hm : n ≠ m → ∀ t, p.byPlace[m]? ≠ some (k, t) := by
            intro hnm t ht
            rw [(p.placeOf_iff k m).2 ⟨t, ht⟩, Option.some.injEq] at h
            exact hnm h.symm
          by_cases hnm : n = m <;> simp [hnm, hm]
        · by_cases hnm : n = m
          · obtain ⟨t, ht⟩ := (p.placeOf_iff k n).1 h
            have hne : p.placeOf[a]? ≠ some n := by
              intro han
              obtain ⟨u, hu⟩ := (p.placeOf_iff a n).1 han
              rw [ht, Option.some.injEq, Prod.mk.injEq] at hu
              exact ha hu.1
            simp [ha, ← hnm, hne]
          · simp [ha, hnm, p.placeOf_iff]
      lt_next := by
        intro m e he
        rw [Std.TreeMap.getElem?_erase] at he
        split at he
        · cases he
        · exact p.lt_next m e he }

theorem placeOf_erase_self (p : Places K) (k : K) : (p.erase k).placeOf[k]? = none := by
  unfold erase
  split
  · assumption
  · exact Std.TreeMap.getElem?_erase_self

/-- Gives the next place to a key that has none. -/
def append (p : Places K) (k : K) (t : Time) (h : p.placeOf[k]? = none) : Places K where
  byPlace := p.byPlace.insert p.next (k, t)
  placeOf := p.placeOf.insert k p.next
  next := p.next + 1
  placeOf_iff := by
    intro a m
    rw [Std.TreeMap.getElem?_insert, Std.TreeMap.getElem?_insert]
    by_cases ha : k = a
    · subst ha
      have hm : ∀ u, p.byPlace[m]? ≠ some (k, u) := by
        intro u hu
        rw [(p.placeOf_iff k m).2 ⟨u, hu⟩] at h
        cases h
      by_cases hnm : p.next = m <;> simp [hnm, hm]
    · by_cases hnm : p.next = m
      · have hne : p.placeOf[a]? ≠ some m := by
          intro ham
          obtain ⟨u, hu⟩ := (p.placeOf_iff a m).1 ham
          exact Nat.lt_irrefl m (by have := p.lt_next m _ hu; omega)
        simp [ha, hnm, hne]
      · simp [ha, hnm, p.placeOf_iff]
  lt_next := by
    intro m e he
    rw [Std.TreeMap.getElem?_insert] at he
    by_cases hnm : p.next = m
    · omega
    · have := p.lt_next m e (by simpa [hnm] using he)
      omega

/-- Gives the next place to a key, in exchange for any place it had. -/
def place (p : Places K) (k : K) (t : Time) : Places K :=
  (p.erase k).append k t (p.placeOf_erase_self k)

def dropOldest (p : Places K) : Places K :=
  match p.oldest? with
  | some e => p.erase e.1
  | none => p

variable [DecidableEq K]

theorem entries_erase (p : Places K) (k : K) :
    (p.erase k).entries = p.entries.filter fun e => e.1 ≠ k := by
  unfold erase
  split
  next h =>
    symm
    rw [List.filter_eq_self]
    rintro ⟨a, t⟩ he
    obtain ⟨n, hn⟩ := mem_entries.1 he
    have ha : a ≠ k := by
      rintro rfl
      rw [(p.placeOf_iff a n).2 ⟨t, hn⟩] at h
      cases h
    simp [ha]
  next n h =>
    rw [entries, entries, toList_erase, List.filter_map]
    congr 1
    apply List.filter_congr
    rintro ⟨m, a, t⟩ hm
    rw [Std.TreeMap.mem_toList_iff_getElem?_eq_some] at hm
    have ha := (p.placeOf_iff a m).2 ⟨t, hm⟩
    show decide (m ≠ n) = decide (a ≠ k)
    rw [decide_eq_decide]
    apply not_congr
    constructor
    · intro hmn
      obtain ⟨u, hu⟩ := (p.placeOf_iff k n).1 h
      rw [hmn, hu, Option.some.injEq, Prod.mk.injEq] at hm
      exact hm.1.symm
    · intro hak
      rw [hak, h, Option.some.injEq] at ha
      exact ha.symm

theorem entries_place (p : Places K) (k : K) (t : Time) :
    (p.place k t).entries = (p.entries.filter fun e => e.1 ≠ k) ++ [(k, t)] := by
  rw [← entries_erase, place, append, entries, toList_insert_last _ _ _ (p.erase k).lt_next,
    List.map_append]
  rfl

theorem entries_dropOldest (p : Places K) : p.dropOldest.entries = p.entries.tail := by
  unfold dropOldest
  rw [oldest?_eq]
  cases hp : p.entries with
  | nil => exact hp
  | cons e r =>
    have hnodup := p.nodup
    rw [hp, List.map_cons, List.nodup_cons] at hnodup
    show (p.erase e.1).entries = r
    rw [entries_erase, hp, List.filter_cons_of_neg (by simp), filter_ne_eq_self hnodup.1]

end Places

end EchoFilter
