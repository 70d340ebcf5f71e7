import EchoFilter.Json.Values
import EchoFilter.Text.Hex.Lemmas

/-!
# Spellings — the texts of one value

A JSON value has many texts.  Spaces may stand around it, every character of a string has several
forms, and a number may have a fraction and an exponent.  The grammar is stated here apart from the
readers, as far as scalars go, and with it what the readers make of it: a string is read as what it
spells (`Spells.stringBody`), and a scalar that nobody asked for is passed over
(`Scalar.skipValue`).
-/

namespace EchoFilter

namespace Json

/-! ## Spaces -/

/-- Spaces, or nothing. -/
def Gap (gap : List Char) : Prop :=
  ∀ c ∈ gap, isSpace c = true

theorem gap_nil : Gap [] := by
  intro c hc
  cases hc

theorem Gap.append {gap gap' : List Char} (h : Gap gap) (h' : Gap gap') : Gap (gap ++ gap') := by
  intro c hc
  rcases List.mem_append.1 hc with hc | hc
  · exact h c hc
  · exact h' c hc

theorem skipSpace_append {gap : List Char} (h : Gap gap) (s : List Char) :
    skipSpace (gap ++ s) = skipSpace s :=
  List.dropWhile_append_of_pos h

theorem Gap.skipSpace {gap : List Char} (h : Gap gap) : skipSpace gap = [] := by
  have hskip := skipSpace_append h []
  rw [List.append_nil] at hskip
  exact hskip

theorem skipSpace_of_not {c : Char} (h : isSpace c = false) (r : List Char) :
    skipSpace (c :: r) = c :: r := by
  simp [skipSpace, h]

theorem skipSpace_gap {gap : List Char} (h : Gap gap) {c : Char} (hc : isSpace c = false)
    (r : List Char) : skipSpace (gap ++ c :: r) = c :: r := by
  rw [skipSpace_append h, skipSpace_of_not hc]

theorem isSpace_iff {c : Char} :
    isSpace c = true ↔ c = ' ' ∨ c = '\n' ∨ c = '\t' ∨ c = '\r' := by
  simp only [isSpace, Bool.or_eq_true, decide_eq_true_eq, or_assoc]

theorem isSpace_of_isDigit {c : Char} (h : c.isDigit = true) : isSpace c = false := by
  cases hspace : isSpace c with
  | false => rfl
  | true => rcases isSpace_iff.1 hspace with rfl | rfl | rfl | rfl <;> cases h

/-- What can stand behind a value: nothing, a space, a comma or a closing bracket. -/
def Closes (rest : List Char) : Prop :=
  ∀ c, rest.head? = some c → isSpace c = true ∨ c = ',' ∨ c = ']' ∨ c = '\x7d'

theorem closes_nil : Closes [] := by
  intro c h
  cases h

theorem closes_comma (r : List Char) : Closes (',' :: r) := by
  intro c h
  cases h
  exact Or.inr (Or.inl rfl)

theorem closes_square (r : List Char) : Closes (']' :: r) := by
  intro c h
  cases h
  exact Or.inr (Or.inr (Or.inl rfl))

theorem closes_curly (r : List Char) : Closes ('\x7d' :: r) := by
  intro c h
  cases h
  exact Or.inr (Or.inr (Or.inr rfl))

theorem Gap.closes {gap rest : List Char} (h : Gap gap) (hrest : Closes rest) :
    Closes (gap ++ rest) := by
  cases gap with
  | nil => exact hrest
  | cons c gap =>
    intro d hd
    cases hd
    exact Or.inl (h c List.mem_cons_self)

theorem Gap.closes_self {gap : List Char} (h : Gap gap) : Closes gap := by
  have hgap := h.closes closes_nil
  rw [List.append_nil] at hgap
  exact hgap

/-- The first character behind a value, by cases. -/
theorem Closes.head {c : Char} {r : List Char} (h : Closes (c :: r)) :
    c = ' ' ∨ c = '\n' ∨ c = '\t' ∨ c = '\r' ∨ c = ',' ∨ c = ']' ∨ c = '\x7d' := by
  rcases h c rfl with hspace | hclose
  · rcases isSpace_iff.1 hspace with h | h | h | h
    · exact Or.inl h
    · exact Or.inr (Or.inl h)
    · exact Or.inr (Or.inr (Or.inl h))
    · exact Or.inr (Or.inr (Or.inr (Or.inl h)))
  · exact Or.inr (Or.inr (Or.inr (Or.inr hclose)))

/-! ## Numbers -/

/-- One digit or more. -/
def Digits (ds : List Char) : Prop :=
  ds ≠ [] ∧ ∀ c ∈ ds, c.isDigit = true

/-- The digits in front of the point; a zero stands alone. -/
def Whole (ds : List Char) : Prop :=
  Digits ds ∧ (ds.head? = some '0' → ds = ['0'])

inductive Fraction : List Char → Prop where
  | none : Fraction []
  | digits {ds : List Char} (h : Digits ds) : Fraction ('.' :: ds)

inductive Exponent : List Char → Prop where
  | none : Exponent []
  | digits {c : Char} {sign ds : List Char} (hc : c = 'e' ∨ c = 'E')
      (hsign : sign = [] ∨ sign = ['+'] ∨ sign = ['-']) (h : Digits ds) :
      Exponent (c :: (sign ++ ds))

/-- Whether no digit comes next. -/
def NoDigit (rest : List Char) : Prop :=
  rest.head?.any Char.isDigit = false

theorem takeWhile_digits {ds rest : List Char} (h : ∀ c ∈ ds, c.isDigit = true)
    (hrest : NoDigit rest) : (ds ++ rest).takeWhile Char.isDigit = ds := by
  rw [List.takeWhile_append_of_pos h]
  cases rest with
  | nil => exact List.append_nil ds
  | cons c r =>
    have hc : ¬c.isDigit = true := by
      rw [show c.isDigit = false from hrest]
      exact Bool.false_ne_true
    rw [List.takeWhile_cons_of_neg hc, List.append_nil]

theorem dropWhile_digits {ds rest : List Char} (h : ∀ c ∈ ds, c.isDigit = true)
    (hrest : NoDigit rest) : (ds ++ rest).dropWhile Char.isDigit = rest := by
  rw [List.dropWhile_append_of_pos h]
  cases rest with
  | nil => rfl
  | cons c r =>
    have hc : ¬c.isDigit = true := by
      rw [show c.isDigit = false from hrest]
      exact Bool.false_ne_true
    exact List.dropWhile_cons_of_neg hc

theorem Closes.noDigit {rest : List Char} (h : Closes rest) : NoDigit rest := by
  cases rest with
  | nil => rfl
  | cons c r => rcases h.head with rfl | rfl | rfl | rfl | rfl | rfl | rfl <;> rfl

theorem Closes.numberTail {rest : List Char} (h : Closes rest) (use : Use) (n left : Nat) :
    numberTail use n left rest =
      if left = 0 then .ok (.natural n, rest) else otherNumber use n left rest := by
  cases rest with
  | nil => rfl
  | cons c r => rcases h.head with rfl | rfl | rfl | rfl | rfl | rfl | rfl <;> rfl

-- From the first digit on; the first digit and the others are told apart only by a zero in front.
theorem number_digits (use : Use) {ds rest : List Char} (h : Whole ds) (hrest : NoDigit rest) :
    number use (ds ++ rest) = numberTail use (gather 0 ds).1 (gather 0 ds).2 rest := by
  obtain ⟨⟨hne, hdigits⟩, hzero⟩ := h
  have htake := takeWhile_digits hdigits hrest
  have hdrop := dropWhile_digits hdigits hrest
  cases ds with
  | nil => exact absurd rfl hne
  | cons c ds =>
    by_cases hc : c = '0'
    · subst hc
      cases hzero rfl
      show (if rest.head?.any Char.isDigit then _ else numberTail use 0 0 rest) = _
      rw [if_neg (by rw [hrest]; exact Bool.false_ne_true)]
      rfl
    · rw [List.cons_append] at htake hdrop ⊢
      rw [number]
      · rw [if_pos (hdigits c List.mem_cons_self), htake, hdrop]
      · exact hc

section Skipping

variable {rest : List Char}

theorem exponentPart_skipping {sign ds : List Char}
    (hsign : sign = [] ∨ sign = ['+'] ∨ sign = ['-']) (h : Digits ds) (hrest : NoDigit rest)
    (n : Nat) (e : Int) :
    exponentPart .skipping n e (sign ++ (ds ++ rest)) = .ok (.other, rest) := by
  obtain ⟨hne, hdigits⟩ := h
  have hdrop := dropWhile_digits hdigits hrest
  cases ds with
  | nil => exact absurd rfl hne
  | cons d ds =>
    have hd := hdigits d List.mem_cons_self
    have hsigned (e : Int) : (if d.isDigit = true then
        otherNumber .skipping n e ((d :: ds ++ rest).dropWhile Char.isDigit)
        else .error .grammar) = .ok (.other, rest) := by
      rw [if_pos hd, hdrop]
      rfl
    rcases hsign with rfl | rfl | rfl
    · -- Without a sign the first character is a digit, so it is not taken for one.
      unfold exponentPart
      rw [List.nil_append, List.cons_append]
      split
      next negative s hsplit =>
        split at hsplit
        next heq =>
          cases heq
          cases hd
        next heq =>
          cases heq
          cases hd
        next =>
          cases hsplit
          exact hsigned _
    · exact hsigned _
    · exact hsigned _

theorem Exponent.noDigit {exponent : List Char} (h : Exponent exponent) (hrest : Closes rest) :
    NoDigit (exponent ++ rest) := by
  cases h with
  | none => exact hrest.noDigit
  | digits hc hsign hds => rcases hc with rfl | rfl <;> rfl

theorem Fraction.noDigit {fraction exponent : List Char} (h : Fraction fraction)
    (he : Exponent exponent) (hrest : Closes rest) : NoDigit (fraction ++ (exponent ++ rest)) := by
  cases h with
  | none => exact he.noDigit hrest
  | digits hds => rfl

theorem fractionPart_skipping {ds exponent : List Char} (h : Digits ds) (he : Exponent exponent)
    (hrest : Closes rest) (n : Nat) (e : Int) :
    fractionPart .skipping n e (ds ++ (exponent ++ rest)) = .ok (.other, rest) := by
  obtain ⟨hne, hdigits⟩ := h
  unfold fractionPart
  rw [takeWhile_digits hdigits (he.noDigit hrest), dropWhile_digits hdigits (he.noDigit hrest)]
  dsimp only
  rw [if_neg (by simpa using hne)]
  cases he with
  | none =>
    cases rest with
    | nil => rfl
    | cons c r => rcases hrest.head with rfl | rfl | rfl | rfl | rfl | rfl | rfl <;> rfl
  | digits hc hsign hds =>
    rw [List.cons_append, List.append_assoc]
    rcases hc with rfl | rfl
    · exact exponentPart_skipping hsign hds hrest.noDigit ..
    · exact exponentPart_skipping hsign hds hrest.noDigit ..

theorem numberTail_skipping {fraction exponent : List Char} (h : Fraction fraction)
    (he : Exponent exponent) (hrest : Closes rest) (n left : Nat) :
    (numberTail .skipping n left (fraction ++ (exponent ++ rest))).map Prod.snd = .ok rest := by
  cases h with
  | digits hds => exact congrArg (Except.map Prod.snd) (fractionPart_skipping hds he hrest ..)
  | none =>
    cases he with
    | none =>
      rw [List.nil_append, List.nil_append, hrest.numberTail]
      split <;> rfl
    | digits hc hsign hds =>
      rw [List.nil_append, List.cons_append, List.append_assoc]
      rcases hc with rfl | rfl
      · exact congrArg (Except.map Prod.snd) (exponentPart_skipping hsign hds hrest.noDigit ..)
      · exact congrArg (Except.map Prod.snd) (exponentPart_skipping hsign hds hrest.noDigit ..)

/-- A number without its sign. -/
inductive IsNumber : List Char → Prop where
  | intro {whole fraction exponent : List Char} (hw : Whole whole) (hf : Fraction fraction)
      (he : Exponent exponent) : IsNumber (whole ++ (fraction ++ exponent))

theorem IsNumber.number_skipping {text : List Char} (h : IsNumber text) (hrest : Closes rest) :
    (number .skipping (text ++ rest)).map Prod.snd = .ok rest := by
  obtain ⟨hw, hf, he⟩ := h
  rw [List.append_assoc, List.append_assoc, number_digits .skipping hw (hf.noDigit he hrest)]
  exact numberTail_skipping hf he hrest _ _

theorem IsNumber.exists_digit {text : List Char} (h : IsNumber text) :
    ∃ c r, text = c :: r ∧ c.isDigit = true := by
  obtain @⟨whole, fraction, exponent, ⟨⟨hne, hdigits⟩, -⟩, -, -⟩ := h
  obtain ⟨c, r, rfl⟩ := List.exists_cons_of_ne_nil hne
  exact ⟨c, _, rfl, hdigits c List.mem_cons_self⟩

end Skipping

/-! ## Strings -/

/-- The characters between the quotes of a string, and what they spell. -/
inductive Spells : List Char → List Char → Prop where
  | nil : Spells [] []
  | plain {c : Char} {form cs : List Char} (hquote : c ≠ '"') (hescape : c ≠ '\\')
      (hcontrol : ¬c.toNat < 0x20) (h : Spells form cs) : Spells (c :: form) (c :: cs)
  | letter {e c : Char} {form cs : List Char} (he : simpleEscape? e = some c) (h : Spells form cs) :
      Spells ('\\' :: e :: form) (c :: cs)
  | number {a b c d : Char} {n : Nat} {form cs : List Char} (hn : hexQuad? a b c d = some n)
      (hhigh : isHighSurrogate n = false) (hlow : isLowSurrogate n = false) (h : Spells form cs) :
      Spells ('\\' :: 'u' :: a :: b :: c :: d :: form) (Char.ofNat n :: cs)
  | pair {a b c d a' b' c' d' : Char} {n n' : Nat} {form cs : List Char}
      (hn : hexQuad? a b c d = some n) (hhigh : isHighSurrogate n = true)
      (hn' : hexQuad? a' b' c' d' = some n') (hlow : isLowSurrogate n' = true)
      (h : Spells form cs) :
      Spells ('\\' :: 'u' :: a :: b :: c :: d :: '\\' :: 'u' :: a' :: b' :: c' :: d' :: form)
        (surrogatePair n n' :: cs)

theorem stringBody_plain {c : Char} (hquote : c ≠ '"') (hescape : c ≠ '\\')
    (hcontrol : ¬c.toNat < 0x20) (r : List Char) :
    stringBody (c :: r) = prepend c (stringBody r) := by
  rw [stringBody, if_neg hcontrol]
  · exact hquote
  -- The other forms that a string can begin with have a backslash in front.
  · exact fun h _ => hescape h
  · exact fun _ _ _ _ _ h _ => hescape h
  · exact fun _ h _ => hescape h
  · exact fun _ _ h _ => hescape h

theorem stringBody_letter {e c : Char} (he : simpleEscape? e = some c) (r : List Char) :
    stringBody ('\\' :: e :: r) = prepend c (stringBody r) := by
  have hu : e ≠ 'u' := by
    rintro rfl
    cases he
  rw [stringBody, he]
  · exact fun _ _ _ _ _ h _ => hu h
  · exact fun h => absurd h hu

theorem Spells.stringBody {form cs : List Char} (h : Spells form cs) (rest : List Char) :
    stringBody (form ++ '"' :: rest) = .ok (cs, rest) := by
  induction h with
  | nil => rfl
  | plain hquote hescape hcontrol _ ih =>
    rw [List.cons_append, stringBody_plain hquote hescape hcontrol, ih]
    rfl
  | letter he _ ih =>
    rw [List.cons_append, List.cons_append, stringBody_letter he, ih]
    rfl
  | number hn hhigh hlow _ ih =>
    simp only [List.cons_append]
    rw [Json.stringBody, hn]
    dsimp only
    rw [hhigh, hlow, ih]
    rfl
  | pair hn hhigh hn' hlow _ ih =>
    simp only [List.cons_append]
    rw [Json.stringBody, hn]
    dsimp only
    rw [if_pos hhigh]
    split
    next heq =>
      cases heq
      rw [hn']
      dsimp only
      rw [if_pos hlow, ih]
      rfl
    next hpair => exact absurd rfl (hpair _ _ _ _ _)

theorem spells_escape (c : Char) {form cs : List Char} (h : Spells form cs) :
    Spells (Write.escape c ++ form) (c :: cs) := by
  unfold Write.escape
  split
  next hc => subst hc; exact .letter rfl h
  split
  next hc => subst hc; exact .letter rfl h
  split
  next hc => subst hc; exact .letter rfl h
  split
  next hc => subst hc; exact .letter rfl h
  split
  next hc => subst hc; exact .letter rfl h
  split
  next hc => subst hc; exact .letter rfl h
  split
  next hc => subst hc; exact .letter rfl h
  split
  next hcontrol =>
    have hquad : hexQuad? (c.toNat / 16 / 16 / 16 % 16).digitChar (c.toNat / 16 / 16 % 16).digitChar
        (c.toNat / 16 % 16).digitChar (c.toNat % 16).digitChar = some c.toNat := by
      have hread := Hex.read?_fixed 4 c.toNat
      rw [Nat.mod_eq_of_lt (by omega)] at hread
      exact hread
    have hhigh : isHighSurrogate c.toNat = false := by
      simp only [isHighSurrogate, Bool.and_eq_false_iff, decide_eq_false_iff_not]
      omega
    have hlow : isLowSurrogate c.toNat = false := by
      simp only [isLowSurrogate, Bool.and_eq_false_iff, decide_eq_false_iff_not]
      omega
    have hnumber := Spells.number hquad hhigh hlow h
    rw [Char.ofNat_toNat] at hnumber
    exact hnumber
  next hquote hescape _ _ _ _ _ hcontrol => exact .plain hquote hescape hcontrol h

/-- What is written for a string spells it. -/
theorem spells_flatMap (s : List Char) : Spells (s.flatMap Write.escape) s := by
  induction s with
  | nil => exact .nil
  | cons c s ih => exact spells_escape c ih

/-- The characters between the quotes of a string that is passed over: a numeric escape need not
stand for a character. -/
inductive Passes : List Char → Prop where
  | nil : Passes []
  | plain {c : Char} {form : List Char} (hquote : c ≠ '"') (hescape : c ≠ '\\')
      (hcontrol : ¬c.toNat < 0x20) (h : Passes form) : Passes (c :: form)
  | letter {e c : Char} {form : List Char} (he : simpleEscape? e = some c) (h : Passes form) :
      Passes ('\\' :: e :: form)
  | number {a b c d : Char} {n : Nat} {form : List Char} (hn : hexQuad? a b c d = some n)
      (h : Passes form) : Passes ('\\' :: 'u' :: a :: b :: c :: d :: form)

theorem Passes.skipString {form : List Char} (h : Passes form) (rest : List Char) :
    skipString (form ++ '"' :: rest) = .ok rest := by
  induction h with
  | nil => rfl
  | plain hquote hescape hcontrol _ ih =>
    rw [List.cons_append, Json.skipString, if_neg hcontrol, ih]
    · exact hquote
    · exact fun h _ => hescape h
    · exact fun _ _ _ _ _ h _ => hescape h
    · exact fun _ h _ => hescape h
    · exact fun _ _ h _ => hescape h
  | @letter e c form he _ ih =>
    have hu : e ≠ 'u' := by
      rintro rfl
      cases he
    rw [List.cons_append, List.cons_append, Json.skipString, he]
    · exact ih
    · exact fun _ _ _ _ _ h _ => hu h
    · exact fun h => absurd h hu
  | number hn _ ih =>
    simp only [List.cons_append]
    rw [Json.skipString, hn]
    exact ih

/-! ## Scalars -/

/-- The texts of everything but arrays and objects. -/
inductive Scalar : List Char → Prop where
  | null : Scalar ['n', 'u', 'l', 'l']
  | boolean (b : Bool) : Scalar (Write.boolean b)
  | number {text : List Char} (h : IsNumber text) : Scalar text
  | negative {text : List Char} (h : IsNumber text) : Scalar ('-' :: text)
  | string {form : List Char} (h : Passes form) : Scalar ('"' :: (form ++ ['"']))

-- No bracket is open, so one step is enough.
theorem Scalar.skipFrom {text gap rest : List Char} (h : Scalar text) (hgap : Gap gap)
    (hrest : Closes rest) (steps : Nat) :
    skipFrom (steps + 1) .value [] (gap ++ (text ++ rest)) = .ok rest := by
  rw [Json.skipFrom, skipSpace_append hgap]
  cases h with
  | null => rfl
  | boolean b => cases b <;> rfl
  | number h =>
    have hnumber := h.number_skipping hrest
    obtain ⟨c, r, rfl, hdigit⟩ := h.exists_digit
    rw [List.cons_append] at hnumber ⊢
    rw [skipSpace_of_not (isSpace_of_isDigit hdigit)]
    dsimp only
    split
    case h_9 heq =>
      cases heq
      rw [if_pos hdigit, hnumber]
    -- No other value begins with a digit.
    all_goals
      next heq => cases heq <;> cases hdigit
  | negative h =>
    rw [List.cons_append, skipSpace_of_not rfl]
    split
    case h_5 heq =>
      cases heq
      rw [h.number_skipping hrest]
    case h_9 hminus _ _ _ heq =>
      cases heq
      exact absurd rfl hminus
    all_goals
      next heq => cases heq
  | string h =>
    rw [List.cons_append, List.append_assoc, skipSpace_of_not rfl]
    split
    case h_6 heq =>
      cases heq
      rw [List.cons_append, List.nil_append, h.skipString rest]
    case h_9 hquote _ _ heq =>
      cases heq
      exact absurd rfl hquote
    all_goals
      next heq => cases heq

theorem Scalar.skipValue {text gap rest : List Char} (h : Scalar text) (hgap : Gap gap)
    (hrest : Closes rest) : skipValue (gap ++ (text ++ rest)) = .ok rest :=
  h.skipFrom hgap hrest _

end Json

end EchoFilter
