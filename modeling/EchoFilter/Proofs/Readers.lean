import EchoFilter.Proofs.Spellings

/-!
# Readers — a value is read off the front of a longer text

A value may stand alone or inside an array or object, with spaces around it.  `Json.Yields` is the
statement about a reader and a text of a value that goes through every level: numbers and strings
first, then arrays and records of what they hold (`Json.Listed`).  What the library writes is one
such text.
-/

namespace EchoFilter

namespace Json

/-! ## Lists of parts -/

/-- One part with spaces around it. -/
def Padded {α : Type} (P : List Char → α → Prop) (padded : List Char) (x : α) : Prop :=
  ∃ gap part gap', Gap gap ∧ P part x ∧ Gap gap' ∧ padded = gap ++ (part ++ gap')

/-- The parts of an array or object, with commas between them. -/
def Listed {α : Type} (P : List Char → α → Prop) (text : List Char) (xs : List α) : Prop :=
  ∃ parts gap, List.Forall₂ (Padded P) parts xs ∧ Gap gap ∧ text = Write.separated parts ++ gap

theorem padded_self {α : Type} {P : List Char → α → Prop} {part : List Char} {x : α}
    (h : P part x) : Padded P part x :=
  ⟨[], part, [], gap_nil, h, gap_nil, (List.append_nil part).symm⟩

theorem listed_separated {α : Type} {P : List Char → α → Prop} {parts : List (List Char)}
    {xs : List α} (h : List.Forall₂ P parts xs) : Listed P (Write.separated parts) xs :=
  ⟨parts, [], h.imp fun _ _ => padded_self, gap_nil, (List.append_nil _).symm⟩

theorem Listed.map {α β : Type} {P : List Char → α → Prop} {Q : List Char → β → Prop} (f : α → β)
    (hPQ : ∀ part x, P part x → Q part (f x)) {text : List Char} {xs : List α}
    (h : Listed P text xs) : Listed Q text (xs.map f) := by
  obtain ⟨parts, gap, hparts, hgap, htext⟩ := h
  refine ⟨parts, gap, ?_, hgap, htext⟩
  rw [List.forall₂_map_right_iff]
  refine hparts.imp fun padded x => ?_
  rintro ⟨gap, part, gap', hgap, hpart, hgap', hpadded⟩
  exact ⟨gap, part, gap', hgap, hPQ part x hpart, hgap', hpadded⟩

theorem Listed.exists_texts {α : Type} {P : List Char → α → Prop} {text : List Char} {xs : List α}
    (h : Listed P text xs) : ∃ texts, List.Forall₂ P texts xs ∧ Listed Eq text texts := by
  obtain ⟨parts, gap, hparts, hgap, rfl⟩ := h
  have hall : ∃ texts, List.Forall₂ P texts xs ∧ List.Forall₂ (Padded Eq) parts texts := by
    induction hparts with
    | nil => exact ⟨[], .nil, .nil⟩
    | cons hpart _ ih =>
      obtain ⟨texts, htexts, hparts⟩ := ih
      obtain ⟨g, w, g', hg, hw, hg', rfl⟩ := hpart
      exact ⟨w :: texts, .cons hw htexts, .cons ⟨g, w, g', hg, rfl, hg', rfl⟩ hparts⟩
  obtain ⟨texts, htexts, hparts⟩ := hall
  exact ⟨texts, htexts, parts, gap, hparts, hgap, rfl⟩

/-- The parts behind the first one, each with its comma. -/
def following (parts : List (List Char)) : List Char :=
  parts.flatMap fun part => ',' :: part

theorem separated_cons (part : List Char) (parts : List (List Char)) :
    Write.separated (part :: parts) = part ++ following parts := by
  induction parts generalizing part with
  | nil => exact (List.append_nil part).symm
  | cons q rest ih =>
    rw [Write.separated, ih]
    · rfl
    · exact fun h => by cases h

theorem following_cons (part : List Char) (parts : List (List Char)) (rest : List Char) :
    following (part :: parts) ++ rest = ',' :: (part ++ (following parts ++ rest)) := by
  rw [following, List.flatMap_cons, List.cons_append, List.cons_append, List.append_assoc]
  rfl

theorem closes_following (parts : List (List Char)) {rest : List Char} (h : Closes rest) :
    Closes (following parts ++ rest) := by
  cases parts with
  | nil => exact h
  | cons p parts => exact closes_comma _

-- Every part but the first has a comma, and behind the last there is a bracket.
theorem length_le_separated (parts : List (List Char)) :
    parts.length ≤ (Write.separated parts).length + 1 := by
  have hfollowing (parts : List (List Char)) : parts.length ≤ (following parts).length := by
    induction parts with
    | nil => exact Nat.le_refl _
    | cons p rest ih =>
      rw [following, List.flatMap_cons, List.length_append, List.length_cons, List.length_cons]
      have hrest : (following rest).length = (rest.flatMap fun part => ',' :: part).length := rfl
      omega
  cases parts with
  | nil => exact Nat.zero_le _
  | cons p rest =>
    have hrest := hfollowing rest
    rw [separated_cons, List.length_append, List.length_cons]
    omega

/-! ## Values at the front of a text -/

/-- No value begins with a space or with the end of an array. -/
def Begins (written : List Char) : Prop :=
  ∃ c r, written = c :: r ∧ isSpace c = false ∧ c ≠ ']'

/-- What comes of reading whatever the written form begins: a value and the text behind it, or a
fault. -/
structure Yields {α : Type} (reader : Reader α) (written : List Char) (result : Except Fault α) :
    Prop where
  begins : Begins written
  read : ∀ gap rest, Gap gap → Closes rest →
    reader (gap ++ (written ++ rest)) = result.map fun a => (a, rest)

/-- The reader takes the value off the front of whatever the written form begins. -/
abbrev Reads {α : Type} (reader : Reader α) (written : List Char) (a : α) : Prop :=
  Yields reader written (.ok a)

/-- A text that holds one value, with spaces around it. -/
def Holds (text : String) (written : List Char) : Prop :=
  Padded Eq text.toList written

section Texts

variable {α : Type} {reader : Reader α} {written : List Char} {result : Except Fault α}

theorem Yields.readText_of_holds (h : Yields reader written result) {text : String}
    (htext : Holds text written) : Json.readText reader text = result := by
  obtain ⟨gap, _, gap', hgap, rfl, hgap', htext⟩ := htext
  unfold Json.readText
  rw [htext, h.read gap gap' hgap hgap'.closes_self]
  cases result with
  | error e => rfl
  | ok a =>
    dsimp only [Except.map]
    rw [hgap'.skipSpace]
    rfl

theorem holds_ofList (written : List Char) : Holds (String.ofList written) written := by
  unfold Holds
  rw [String.toList_ofList]
  exact padded_self rfl

theorem Yields.readText (h : Yields reader written result) :
    Json.readText reader (String.ofList written) = result :=
  h.readText_of_holds (holds_ofList written)

end Texts

/-! ## Numbers -/

theorem toDigits_head {n : Nat} {r : List Char} (h : Nat.toDigits 10 n = '0' :: r) :
    n = 0 ∧ r = [] := by
  induction n using Nat.strong_induction_on generalizing r with
  | _ n ih =>
    by_cases hn : n < 10
    · rw [Nat.toDigits_of_lt_base hn, List.cons.injEq] at h
      have hzero : ∀ m, m < 10 → m.digitChar = '0' → m = 0 := by decide
      exact ⟨hzero n hn h.1, h.2.symm⟩
    · -- All but the last digit are the digits of a smaller number that is not zero.
      have hfront : Nat.toDigits 10 (n / 10) ≠ [] := Nat.toDigits_ne_nil
      rw [Nat.toDigits_of_base_le (by decide) (by omega)] at h
      cases hd : Nat.toDigits 10 (n / 10) with
      | nil => exact absurd hd hfront
      | cons c front =>
        rw [hd, List.cons_append, List.cons.injEq] at h
        rw [h.1] at hd
        have hsmall := (ih (n / 10) (by omega) hd).1
        omega

theorem gather_eq {acc : Nat} {s : List Char} (h : Nat.ofDigitChars 10 s acc < UInt64.size) :
    gather acc s = (Nat.ofDigitChars 10 s acc, 0) := by
  induction s generalizing acc with
  | nil => rfl
  | cons c r ih =>
    rw [Nat.ofDigitChars_cons] at h ⊢
    have hnext := Nat.lt_of_le_of_lt (Numeral.le_ofDigitChars r _) h
    rw [gather, if_pos hnext]
    exact ih h

theorem whole_write (n : Nat) : Whole (Numeral.write n) := by
  refine ⟨⟨Numeral.write_ne_nil n, fun _ => Numeral.isDigit_of_mem_write⟩, fun hhead => ?_⟩
  obtain ⟨r, hwrite⟩ := List.head?_eq_some_iff.1 hhead
  rw [hwrite, (toDigits_head hwrite).2]

theorem number_write (use : Use) {n : Nat} (hn : n < UInt64.size) {rest : List Char}
    (hrest : Closes rest) : number use (Numeral.write n ++ rest) = .ok (.natural n, rest) := by
  have hvalue := Numeral.ofDigitChars_write n
  have hgather : gather 0 (Numeral.write n) = (n, 0) := by
    rw [gather_eq (by rw [hvalue]; exact hn), hvalue]
  rw [number_digits use (whole_write n) hrest.noDigit, hgather, hrest.numberTail, if_pos rfl]

theorem reads_natural {bound n : Nat} (hbound : bound ≤ UInt64.size) (hn : n < bound) :
    Reads (natural bound) (Write.natural n) n := by
  obtain ⟨⟨hne, hdigits⟩, -⟩ := whole_write n
  obtain ⟨c, r, hwrite⟩ := List.exists_cons_of_ne_nil hne
  have hdigit : c.isDigit = true := hdigits c (by rw [hwrite]; exact List.mem_cons_self)
  have hspace := isSpace_of_isDigit hdigit
  refine ⟨⟨c, r, hwrite, hspace, ?_⟩, fun gap rest hgap hrest => ?_⟩
  · rintro rfl
    cases hdigit
  · have hnumber := number_write .reading (Nat.lt_of_lt_of_le hn hbound) hrest
    rw [Write.natural, natural, skipSpace_append hgap]
    rw [hwrite, List.cons_append] at hnumber ⊢
    rw [skipSpace_of_not hspace]
    dsimp only
    rw [if_pos hdigit, hnumber]
    dsimp only
    rw [if_pos hn, Except.map]

/-! ## Strings -/

theorem string_quote {r cs rest : List Char} (h : stringBody r = .ok (cs, rest)) :
    string ('"' :: r) = .ok (String.ofList cs, rest) := by
  rw [string, skipSpace_of_not rfl]
  split
  next heq => cases heq
  next heq =>
    cases heq
    rw [h]
  next hquote => exact absurd rfl (hquote _)

/-- A string between its quotes. -/
def quoted (form : List Char) : List Char :=
  '"' :: (form ++ ['"'])

theorem quoted_append (form rest : List Char) :
    quoted form ++ rest = '"' :: (form ++ '"' :: rest) := by
  rw [quoted, List.cons_append, List.append_assoc]
  rfl

theorem begins_quoted (form : List Char) : Begins (quoted form) :=
  ⟨'"', _, rfl, rfl, by decide⟩

theorem reads_quoted {form cs : List Char} (h : Spells form cs) :
    Reads string (quoted form) (String.ofList cs) where
  begins := begins_quoted form
  read gap rest hgap _ := by
    have hskip : string (gap ++ (quoted form ++ rest)) = string (quoted form ++ rest) := by
      rw [string, skipSpace_append hgap, string]
    rw [hskip, quoted_append, string_quote (h.stringBody rest), Except.map]

theorem reads_string (s : String) : Reads string (Write.string s) s := by
  have hreads := reads_quoted (spells_flatMap s.toList)
  rw [String.ofList_toList] at hreads
  exact hreads

theorem reads_boolean (b : Bool) : Reads boolean (Write.boolean b) b where
  begins := by
    cases b with
    | true => exact ⟨'t', _, rfl, rfl, by decide⟩
    | false => exact ⟨'f', _, rfl, rfl, by decide⟩
  read gap rest hgap _ := by
    rw [boolean, skipSpace_append hgap]
    cases b <;> rfl

theorem reads_variant {α : Type} {variants : List (String × α)} {name : String} {a : α}
    (h : variants.lookup name = some a) : Reads (variant variants) (Write.string name) a where
  begins := begins_quoted _
  read gap rest hgap _ := by
    have hbody := (spells_flatMap name.toList).stringBody rest
    show variant variants (gap ++ (quoted _ ++ rest)) = _
    rw [quoted_append, variant, skipSpace_gap hgap rfl]
    split
    next heq => cases heq
    next heq =>
      cases heq
      rw [hbody]
      dsimp only
      rw [String.ofList_toList, h, Except.map]
    next heq => cases heq
    next hquote _ => exact absurd rfl (hquote _)

theorem Reads.checked {α β : Type} {reader : Reader α} {written : List Char} {a : α}
    (h : Reads reader written a) (check : α → Except FrameError β) :
    Yields (Json.checked reader check) written ((check a).mapError fun e => .data (some e)) where
  begins := h.begins
  read gap rest hgap hrest := by
    rw [Json.checked, h.read gap rest hgap hrest]
    dsimp only [Except.map]
    cases check a <;> rfl

/-! ## Arrays -/

theorem nextItem_close {gap : List Char} (hgap : Gap gap) (first : Bool) (r : List Char) :
    nextItem first (gap ++ ']' :: r) = .ok none := by
  rw [nextItem, skipSpace_gap hgap rfl]
  rfl

theorem nextItem_first {gap w : List Char} (hgap : Gap gap) (h : Begins w) (r : List Char) :
    nextItem true (gap ++ (w ++ r)) = .ok (some (w ++ r)) := by
  obtain ⟨c, t, rfl, hspace, hclose⟩ := h
  rw [List.cons_append, nextItem, skipSpace_gap hgap hspace]
  split
  next h => cases h
  next h =>
    rw [List.cons.injEq] at h
    exact absurd h.1 hclose
  next h =>
    cases h
    rfl

theorem nextItem_comma {gap gap' w : List Char} (hgap : Gap gap) (hgap' : Gap gap') (h : Begins w)
    (r : List Char) : nextItem false (gap ++ ',' :: (gap' ++ (w ++ r))) = .ok (some (w ++ r)) := by
  obtain ⟨c, t, rfl, hspace, hclose⟩ := h
  rw [List.cons_append, nextItem, skipSpace_gap hgap rfl]
  split
  next heq => cases heq
  next heq => cases heq
  next heq =>
    cases heq
    rw [if_neg Bool.false_ne_true, if_pos rfl, skipSpace_gap hgap' hspace]
    split
    next heq => cases heq
    next heq =>
      rw [List.cons.injEq] at heq
      exact absurd heq.1 hclose
    next => rfl

section Items

variable {α : Type} {item : Reader α} {parts : List (List Char)} {xs : List α}

theorem items_close {gap : List Char} (hgap : Gap gap) (steps : Nat) (first : Bool)
    (rest : List Char) : items item (steps + 1) first (gap ++ ']' :: rest) = .ok ([], rest) := by
  rw [items, nextItem_close hgap, endArray, skipSpace_gap hgap rfl]
  rfl

theorem items_following (h : List.Forall₂ (Padded (Reads item)) parts xs) {steps : Nat}
    (hsteps : parts.length < steps) {gap gap' : List Char} (hgap : Gap gap) (hgap' : Gap gap')
    (rest : List Char) :
    items item steps false (gap ++ (following parts ++ (gap' ++ ']' :: rest))) =
      .ok (xs, rest) := by
  induction h generalizing steps gap with
  | nil =>
    cases steps with
    | zero => cases hsteps
    | succ steps =>
      rw [following, List.flatMap_nil, List.nil_append, ← List.append_assoc]
      exact items_close (hgap.append hgap') ..
  | @cons p x ps xs hp _ ih =>
    cases steps with
    | zero => cases hsteps
    | succ steps =>
      obtain ⟨g, w, g', hg, hw, hg', rfl⟩ := hp
      have hcloses := hg'.closes (closes_following ps (hgap'.closes (closes_square rest)))
      have hread := hw.read [] _ gap_nil hcloses
      rw [List.nil_append] at hread
      rw [following_cons]
      simp only [List.append_assoc]
      rw [items, nextItem_comma hgap hg hw.begins]
      dsimp only
      rw [hread]
      dsimp only [Except.map]
      rw [ih (Nat.lt_of_succ_lt_succ hsteps) hg']

theorem items_separated (h : List.Forall₂ (Padded (Reads item)) parts xs) {steps : Nat}
    (hsteps : parts.length < steps) {gap : List Char} (hgap : Gap gap) (rest : List Char) :
    items item steps true (Write.separated parts ++ (gap ++ ']' :: rest)) = .ok (xs, rest) := by
  cases steps with
  | zero => cases hsteps
  | succ steps =>
    have hfollowing := items_following h hsteps gap_nil hgap rest
    cases h with
    | nil => exact items_close hgap ..
    | @cons p x ps xs hp hps =>
      -- The first item has no comma in front, and nothing else tells it from those behind it.
      obtain ⟨g, w, g', hg, hw, hg', rfl⟩ := hp
      have hlater := nextItem_comma gap_nil hg hw.begins
      rw [List.nil_append, following_cons] at hfollowing
      rw [separated_cons, ← hfollowing]
      simp only [List.append_assoc, List.nil_append] at hlater ⊢
      rw [items, items, nextItem_first hg hw.begins, hlater]

/-- The array with this text between its brackets. -/
def bracketed (text : List Char) : List Char :=
  '[' :: (text ++ [']'])

theorem bracketed_append (text gap rest : List Char) :
    bracketed (text ++ gap) ++ rest = '[' :: (text ++ (gap ++ ']' :: rest)) := by
  simp [bracketed]

theorem begins_bracketed (text : List Char) : Begins (bracketed text) :=
  ⟨'[', _, rfl, rfl, by decide⟩

theorem reads_array {text : List Char} (h : Listed (Reads item) text xs) :
    Reads (array item) (bracketed text) xs where
  begins := begins_bracketed text
  read gap rest hgap _ := by
    obtain ⟨parts, gap', hparts, hgap', rfl⟩ := h
    have hsteps : parts.length < (Write.separated parts ++ (gap' ++ ']' :: rest)).length + 1 := by
      have hlength := length_le_separated parts
      rw [List.length_append, List.length_append, List.length_cons]
      omega
    rw [bracketed_append, array, skipSpace_gap hgap rfl]
    exact items_separated hparts hsteps hgap' rest

end Items

end Json

end EchoFilter
