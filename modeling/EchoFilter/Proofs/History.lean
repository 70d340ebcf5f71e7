import Mathlib.Data.Finset.Card
import EchoFilter.Proofs.Acts
import EchoFilter.Proofs.DatedKeys

/-!
# History — what a client can tell from the past alone

A history lists what happened to a window, newest first: checks with their answers, sweeps and
resets, each with the time it was given.  `latest?`, `last?` and `since` read it without any window:
the latest time processed, the last time a key was checked, and which other keys were checked after
that.  The last two look only at the checks whose answer is selected, so that they speak of all
checks as well as of acceptances.

`placements` puts the same facts in one list, and `mem_take_placements` leads back from it.
-/

namespace EchoFilter

/-- Something that happened to a window. -/
inductive Happening (K : Type) where
  | checked (k : K) (given : Time) (duplicate : Bool)
  | swept (given : Time)
  | reset
  deriving DecidableEq, Repr

namespace History

variable {K : Type}

/-- The latest time processed since the last reset: the largest time given. -/
def latest? : List (Happening K) → Option Time
  | [] => none
  | .reset :: _ => none
  | .checked _ t _ :: past => some (max ((latest? past).getD 0) t)
  | .swept t :: past => some (max ((latest? past).getD 0) t)

def processed (past : List (Happening K)) (t : Time) : Time :=
  max ((latest? past).getD 0) t

variable [DecidableEq K]

/-- When `k` was last checked with a selected answer since the last reset, in processed time. -/
def last? (selected : Bool → Bool) (k : K) : List (Happening K) → Option Time
  | [] => none
  | .reset :: _ => none
  | .swept _ :: past => last? selected k past
  | .checked a t duplicate :: past =>
    if a = k ∧ selected duplicate = true then some (processed past t) else last? selected k past

/-- Which other keys were checked with a selected answer after the last such check of `k`. -/
def since (selected : Bool → Bool) (k : K) : List (Happening K) → Finset K
  | [] => ∅
  | .reset :: _ => ∅
  | .swept _ :: past => since selected k past
  | .checked a _ duplicate :: past =>
    if selected duplicate = true then if a = k then ∅ else insert a (since selected k past)
    else since selected k past

/-! ## All checks, and acceptances -/

def anyAnswer (_ : Bool) : Bool := true

def accepting (duplicate : Bool) : Bool := !duplicate

abbrev lastCheck? (k : K) (past : List (Happening K)) : Option Time := last? anyAnswer k past
abbrev checkedSince (k : K) (past : List (Happening K)) : Finset K := since anyAnswer k past
abbrev lastAccepted? (k : K) (past : List (Happening K)) : Option Time := last? accepting k past
abbrev acceptedSince (k : K) (past : List (Happening K)) : Finset K := since accepting k past

theorem lastCheck?_checked {past : List (Happening K)} {k a : K} {t last : Time} {duplicate : Bool}
    (h : (a = k ∧ last = processed past t) ∨ (a ≠ k ∧ lastCheck? a past = some last)) :
    lastCheck? a (.checked k t duplicate :: past) = some last := by
  rcases h with ⟨rfl, rfl⟩ | ⟨hne, hlast⟩
  · exact if_pos ⟨rfl, rfl⟩
  · rw [← hlast]
    exact if_neg fun hk => hne hk.1.symm

/-! ## Placements -/

/-- The keys by their last selected check, newest first, with its processed time. -/
def placements (selected : Bool → Bool) : List (Happening K) → List (K × Time)
  | [] => []
  | .reset :: _ => []
  | .swept _ :: past => placements selected past
  | .checked a t duplicate :: past =>
    if selected duplicate = true then
      (a, processed past t) :: (placements selected past).filter fun e => e.1 ≠ a
    else placements selected past

variable {selected : Bool → Bool}

theorem nodup_placements (past : List (Happening K)) :
    ((placements selected past).map Prod.fst).Nodup := by
  induction past with
  | nil => exact List.nodup_nil
  | cons h past ih =>
    cases h with
    | reset => exact List.nodup_nil
    | swept t => exact ih
    | checked a t duplicate =>
      rw [placements]
      split
      · rw [List.map_cons, List.nodup_cons]
        refine ⟨?_, ih.sublist (List.filter_sublist.map _)⟩
        rw [List.mem_map]
        rintro ⟨e, he, rfl⟩
        simpa using (List.mem_filter.1 he).2
      · exact ih

theorem mem_placements {past : List (Happening K)} {k : K} {s : Time} :
    (k, s) ∈ placements selected past ↔ last? selected k past = some s := by
  -- A selected check replaces the entry of its key and leaves those of other keys.
  induction past with
  | nil => simp [placements, last?]
  | cons h past ih =>
    cases h with
    | reset => simp [placements, last?]
    | swept t => exact ih
    | checked a t duplicate =>
      rw [placements, last?]
      by_cases hsel : selected duplicate = true
      · rw [if_pos hsel, List.mem_cons, List.mem_filter, ih]
        by_cases hak : a = k
        · subst hak
          simp [hsel, eq_comm]
        · simp [hak, Ne.symm hak]
      · rw [if_neg hsel, if_neg (fun h => hsel h.2), ih]

theorem le_latest_of_mem {past : List (Happening K)} {e : K × Time}
    (he : e ∈ placements selected past) : e.2 ≤ (latest? past).getD 0 := by
  induction past with
  | nil => cases he
  | cons h past ih =>
    cases h with
    | reset => cases he
    | swept t => exact Nat.le_trans (ih he) (Nat.le_max_left _ _)
    | checked a t duplicate =>
      show e.2 ≤ processed past t
      rw [placements] at he
      split at he
      · rcases List.mem_cons.1 he with rfl | hold
        · exact Nat.le_refl _
        · exact Nat.le_trans (ih (List.mem_filter.1 hold).1) (Nat.le_max_left _ _)
      · exact Nat.le_trans (ih he) (Nat.le_max_left _ _)

theorem descending_placements (past : List (Happening K)) :
    (placements selected past).Pairwise fun a b => b.2 ≤ a.2 := by
  induction past with
  | nil => exact List.Pairwise.nil
  | cons h past ih =>
    cases h with
    | reset => exact List.Pairwise.nil
    | swept t => exact ih
    | checked a t duplicate =>
      rw [placements]
      split
      · refine List.pairwise_cons.2 ⟨fun e he => ?_, ih.filter _⟩
        exact Nat.le_trans (le_latest_of_mem (List.mem_filter.1 he).1) (Nat.le_max_left _ _)
      · exact ih

theorem since_eq (k : K) (past : List (Happening K)) :
    since selected k past =
      (((placements selected past).takeWhile fun e => e.1 ≠ k).map Prod.fst).toFinset := by
  -- Newest first, the keys checked since `k` are those that stand before it.
  induction past with
  | nil => rfl
  | cons h past ih =>
    cases h with
    | reset => rfl
    | swept t => exact ih
    | checked a t duplicate =>
      rw [since, placements]
      by_cases hsel : selected duplicate = true
      · rw [if_pos hsel, if_pos hsel]
        by_cases hak : a = k
        · simp [hak]
        · rw [if_neg hak, List.takeWhile_cons_of_pos (by simpa using hak),
            DatedKeys.takeWhile_filter hak, List.map_cons, List.toFinset_cons, ih]
          ext b
          by_cases hb : b = a
          · simp [hb]
          · simp [hb]
      · rw [if_neg hsel, if_neg hsel, ih]

theorem card_since (k : K) (past : List (Happening K)) :
    (since selected k past).card =
      ((placements selected past).takeWhile fun e => e.1 ≠ k).length := by
  have hnodup : (((placements selected past).takeWhile fun e => e.1 ≠ k).map Prod.fst).Nodup :=
    (nodup_placements past).sublist ((List.takeWhile_sublist _).map _)
  rw [since_eq, List.toFinset_card_of_nodup hnodup, List.length_map]

theorem mem_take_placements {past : List (Happening K)} {k : K} {s : Time} {n : Nat} :
    (k, s) ∈ (placements selected past).take n ↔
      last? selected k past = some s ∧ (since selected k past).card < n := by
  rw [DatedKeys.mem_take_iff (nodup_placements past), mem_placements, card_since]

-- Key 1 was last checked at 5, and one other key after it.
example : ((1 : Nat), 5) ∈
    (placements anyAnswer [.checked 2 9 false, .swept 8, .checked 1 5 false]).take 2 := by decide

end History

end EchoFilter
