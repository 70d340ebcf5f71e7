import EchoFilter.Ledger.Places

/-!
# Dated keys — lists of keys with a time each

A ledger lists its keys oldest first, a history newest first.  In both the times are in order, which
is why a cut by time and a cut by number each take one end of the list, and why the order of the two
cuts does not matter.
-/

namespace EchoFilter

namespace DatedKeys

variable {K : Type} {l : List (K × Time)}

/-! ## Cuts by time -/

theorem dropWhile_eq_filter (h : l.Pairwise fun a b => a.2 ≤ b.2)
    (cutoff : Time) :
    l.dropWhile (fun e => e.2 < cutoff) = l.filter fun e => cutoff ≤ e.2 := by
  induction l with
  | nil => rfl
  | cons a r ih =>
    rw [List.pairwise_cons] at h
    by_cases ha : a.2 < cutoff
    · rw [List.dropWhile_cons_of_pos (by simpa using ha),
        List.filter_cons_of_neg (by simpa using ha), ih h.2]
    · -- From the first fresh entry on, everything is as fresh.
      have hle : ∀ e ∈ a :: r, cutoff ≤ e.2 := by
        intro e he
        rcases List.mem_cons.1 he with rfl | hr
        · exact Nat.le_of_not_lt ha
        · exact Nat.le_trans (Nat.le_of_not_lt ha) (h.1 e hr)
      rw [List.dropWhile_cons_of_neg (by simpa using ha),
        List.filter_eq_self.2 (by simpa using hle)]

-- Two cuts at the head, the second one later, take what the second one takes, in any order of
-- times.
theorem dropWhile_dropWhile (l : List (K × Time)) {cutoff later : Time} (h : cutoff ≤ later) :
    (l.dropWhile fun e => e.2 < cutoff).dropWhile (fun e => e.2 < later) =
      l.dropWhile fun e => e.2 < later := by
  induction l with
  | nil => rfl
  | cons e r ih =>
    by_cases he : e.2 < cutoff
    · have he' : e.2 < later := Nat.lt_of_lt_of_le he h
      rw [List.dropWhile_cons_of_pos (by simpa using he),
        List.dropWhile_cons_of_pos (by simpa using he'), ih]
    · rw [List.dropWhile_cons_of_neg (by simpa using he)]

theorem takeWhile_append_takeWhile (l : List (K × Time)) {cutoff later : Time}
    (h : cutoff ≤ later) :
    (l.takeWhile fun e => e.2 < cutoff) ++
        (l.dropWhile fun e => e.2 < cutoff).takeWhile (fun e => e.2 < later) =
      l.takeWhile fun e => e.2 < later := by
  induction l with
  | nil => rfl
  | cons e r ih =>
    by_cases he : e.2 < cutoff
    · have he' : e.2 < later := Nat.lt_of_lt_of_le he h
      rw [List.takeWhile_cons_of_pos (by simpa using he),
        List.dropWhile_cons_of_pos (by simpa using he),
        List.takeWhile_cons_of_pos (by simpa using he'), List.cons_append, ih]
    · rw [List.takeWhile_cons_of_neg (by simpa using he),
        List.dropWhile_cons_of_neg (by simpa using he), List.nil_append]

-- Where times go down, the recent entries come first, so the two cuts commute.
theorem take_filter_recent (hl : l.Pairwise fun a b => b.2 ≤ a.2) (cutoff : Time) (n : Nat) :
    (l.filter fun e => cutoff ≤ e.2).take n = (l.take n).filter fun e => cutoff ≤ e.2 := by
  induction l generalizing n with
  | nil => simp
  | cons e r ih =>
    rw [List.pairwise_cons] at hl
    cases n with
    | zero => rfl
    | succ n =>
      by_cases he : cutoff ≤ e.2
      · rw [List.take_succ_cons, List.filter_cons_of_pos (by simpa using he),
          List.filter_cons_of_pos (by simpa using he), List.take_succ_cons, ih hl.2]
      · -- Nothing behind an entry that is too old is recent, so both sides are empty.
        have hold : ∀ a ∈ r, ¬ cutoff ≤ a.2 := fun a ha hle =>
          he (Nat.le_trans hle (hl.1 a ha))
        have hr : ∀ s : List (K × Time), (∀ a ∈ s, a ∈ r) →
            s.filter (fun e => cutoff ≤ e.2) = [] := by
          intro s hs
          rw [List.filter_eq_nil_iff]
          intro a ha
          simpa using hold a (hs a ha)
        rw [List.take_succ_cons, List.filter_cons_of_neg (by simpa using he),
          List.filter_cons_of_neg (by simpa using he), hr r (fun _ ha => ha),
          hr _ (fun _ ha => List.mem_of_mem_take ha), List.take_nil]

/-! ## Cuts by number -/

variable [DecidableEq K]

theorem mem_take_iff (hl : (l.map Prod.fst).Nodup) {k : K} {t : Time} {n : Nat} :
    (k, t) ∈ l.take n ↔ (k, t) ∈ l ∧ (l.takeWhile fun e => e.1 ≠ k).length < n := by
  induction l generalizing n with
  | nil => simp
  | cons e r ih =>
    rw [List.map_cons, List.nodup_cons] at hl
    cases n with
    | zero => simp
    | succ n =>
      rw [List.take_succ_cons, List.mem_cons, List.mem_cons, ih hl.2]
      by_cases he : e.1 = k
      · -- The entry of `k` stands in front, so it cannot stand behind as well.
        have hr : (k, t) ∉ r := by
          intro hin
          rw [he] at hl
          exact hl.1 (List.mem_map_of_mem hin)
        simp [he, hr]
      · have hne : (k, t) ≠ e := by
          rintro rfl
          exact he rfl
        simp [he, hne]

-- Taking out one key can bring in one entry from behind, so a cut at `n + 1` before it is harmless.
theorem take_filter_take (hl : (l.map Prod.fst).Nodup) (k : K) (n : Nat) :
    ((l.take (n + 1)).filter fun e => e.1 ≠ k).take n = (l.filter fun e => e.1 ≠ k).take n := by
  induction l generalizing n with
  | nil => simp
  | cons e r ih =>
    rw [List.map_cons, List.nodup_cons] at hl
    by_cases he : e.1 = k
    · -- The key goes here, and nothing behind it has the same key.
      have hr : r.filter (fun e => e.1 ≠ k) = r := by
        apply filter_ne_eq_self
        rw [← he]
        exact hl.1
      have hrn : (r.take n).filter (fun e => e.1 ≠ k) = r.take n := by
        rw [List.filter_eq_self] at hr ⊢
        exact fun a ha => hr a (List.mem_of_mem_take ha)
      rw [List.take_succ_cons, List.filter_cons_of_neg (by simpa using he),
        List.filter_cons_of_neg (by simpa using he), hr, hrn, List.take_take, Nat.min_self]
    · cases n with
      | zero => rfl
      | succ n =>
        rw [List.take_succ_cons, List.filter_cons_of_pos (by simpa using he),
          List.filter_cons_of_pos (by simpa using he), List.take_succ_cons, List.take_succ_cons,
          ih hl.2]

theorem takeWhile_filter {a k : K} (hak : a ≠ k) :
    (l.filter fun e => e.1 ≠ a).takeWhile (fun e => e.1 ≠ k) =
      (l.takeWhile fun e => e.1 ≠ k).filter fun e => e.1 ≠ a := by
  induction l with
  | nil => rfl
  | cons e r ih =>
    by_cases hk : e.1 = k
    · have ha : e.1 ≠ a := fun h => hak (h.symm.trans hk)
      simp [hk, Ne.symm hak]
    · by_cases ha : e.1 = a
      · simpa [ha, hak] using ih
      · simpa [ha, hk] using ih

-- Moving a key to the front commutes with both cuts.
theorem take_recent_cons (hnodup : (l.map Prod.fst).Nodup)
    (hdesc : l.Pairwise fun a b => b.2 ≤ a.2) {k : K} {now cutoff : Time} (hnow : cutoff ≤ now)
    (n : Nat) :
    ((k, now) :: ((l.take (n + 1)).filter fun e => cutoff ≤ e.2).filter fun e => e.1 ≠ k).take
        (n + 1) =
      (((k, now) :: l.filter fun e => e.1 ≠ k).take (n + 1)).filter fun e => cutoff ≤ e.2 := by
  have hswap : ((l.take (n + 1)).filter fun e => cutoff ≤ e.2).filter (fun e => e.1 ≠ k) =
      ((l.take (n + 1)).filter fun e => e.1 ≠ k).filter fun e => cutoff ≤ e.2 := by
    rw [List.filter_filter, List.filter_filter]
    exact List.filter_congr fun e _ => Bool.and_comm _ _
  have hdesc' : ((l.take (n + 1)).filter fun e => e.1 ≠ k).Pairwise fun a b => b.2 ≤ a.2 :=
    hdesc.sublist (List.filter_sublist.trans (List.take_sublist _ _))
  rw [List.take_succ_cons, List.take_succ_cons, List.filter_cons_of_pos (by simpa using hnow),
    hswap, take_filter_recent hdesc', take_filter_take hnodup]

end DatedKeys

end EchoFilter
