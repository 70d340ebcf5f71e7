import EchoFilter.Proofs.Readers

/-!
# Records — what objects and arrays come to as records

An object is read entry by entry, in any order, and an array field by field.  `Json.Gathers` and
`Json.Fills` say what that comes to, an accumulator or a fault, without a word on spaces, commas and
spellings of names; the readers agree with them on every text (`Json.yields_object`,
`Json.yields_array`).
-/

namespace EchoFilter

namespace Json

theorem yields_field {σ β : Type} {reader : Reader β} {text : List Char} {result : Except Fault β}
    (h : Yields reader text result) (name : String) (get : σ → Option β) (set : σ → β → σ)
    (acc : σ) :
    Yields ((Field.of name reader get set).read acc) text (result.map (set acc)) where
  begins := h.begins
  read gap rest hgap hrest := by
    rw [Field.of]
    dsimp only
    rw [h.read gap rest hgap hrest]
    cases result <;> rfl

/-- The record that an accumulator comes to. -/
def finished {σ α : Type} (r : Record σ α) (last : Except Fault σ) : Except Fault α :=
  last.bind fun acc =>
    match r.finish acc with
    | none => .error (.data none)
    | some a => .ok a

theorem conclude_map {σ α : Type} (r : Record σ α) (last : Except Fault σ)
    {close : List Char → Except Fault (List Char)} {s rest : List Char} (h : close s = .ok rest) :
    r.conclude close (last.map fun acc => (acc, s)) = (finished r last).map fun a => (a, rest) := by
  cases last with
  | error e => rfl
  | ok acc =>
    dsimp only [Except.map, Record.conclude, finished, Except.bind]
    rw [h]
    cases r.finish acc <;> rfl

/-! ## Objects -/

/-- What the entries of an object come to, one after another.  An entry has a field of its own that
is not given yet, and reading its text brings the next accumulator or ends in a fault; or it has no
field and holds a scalar, which is passed over. -/
inductive Gathers {σ : Type} (fields : List (Field σ)) :
    σ → List (String × List Char) → Except Fault σ → Prop where
  | nil (acc : σ) : Gathers fields acc [] (.ok acc)
  | cons {acc next : σ} {name : String} {text : List Char} {rest : List (String × List Char)}
      {last : Except Fault σ} (f : Field σ)
      (hfield : (fields.find? fun f => f.name = name) = some f)
      (hgiven : f.given acc = false) (hread : Reads (f.read acc) text next)
      (hrest : Gathers fields next rest last) : Gathers fields acc ((name, text) :: rest) last
  | stop {acc : σ} {name : String} {text : List Char} {rest : List (String × List Char)} {e : Fault}
      (f : Field σ) (hfield : (fields.find? fun f => f.name = name) = some f)
      (hgiven : f.given acc = false) (hread : Yields (f.read acc) text (.error e)) :
      Gathers fields acc ((name, text) :: rest) (.error e)
  | skip {acc : σ} {name : String} {text : List Char} {rest : List (String × List Char)}
      {last : Except Fault σ} (hfield : (fields.find? fun f => f.name = name) = none)
      (hscalar : Scalar text) (hrest : Gathers fields acc rest last) :
      Gathers fields acc ((name, text) :: rest) last

/-- The text of one entry of an object: its name in any form, a colon, and the text of its value. -/
def Shows (text : List Char) (e : String × List Char) : Prop :=
  ∃ form gap gap', Spells form e.1.toList ∧ Gap gap ∧ Gap gap' ∧
    text = quoted form ++ (gap ++ ':' :: (gap' ++ e.2))

/-- One entry of an object as it is written. -/
def entry (e : String × List Char) : List Char :=
  Write.string e.1 ++ ':' :: e.2

theorem shows_entry (e : String × List Char) : Shows (entry e) e :=
  ⟨_, [], [], spells_flatMap e.1.toList, gap_nil, gap_nil, rfl⟩

theorem colon_gap {gap : List Char} (hgap : Gap gap) (r : List Char) :
    colon (gap ++ ':' :: r) = .ok r := by
  rw [colon, skipSpace_gap hgap rfl]
  rfl

theorem nextKey_close {gap : List Char} (hgap : Gap gap) (first : Bool) (r : List Char) :
    nextKey first (gap ++ '\x7d' :: r) = .ok none := by
  rw [nextKey, skipSpace_gap hgap rfl]
  rfl

theorem nextKey_first {gap : List Char} (hgap : Gap gap) (r : List Char) :
    nextKey true (gap ++ '"' :: r) = .ok (some r) := by
  rw [nextKey, skipSpace_gap hgap rfl]
  rfl

theorem nextKey_comma {gap gap' : List Char} (hgap : Gap gap) (hgap' : Gap gap') (r : List Char) :
    nextKey false (gap ++ ',' :: (gap' ++ '"' :: r)) = .ok (some r) := by
  rw [nextKey, skipSpace_gap hgap rfl]
  split
  case h_4 heq =>
    cases heq
    rw [if_neg Bool.false_ne_true, skipSpace_gap hgap' rfl]
    rfl
  case h_5 hcomma => exact absurd rfl (hcomma _)
  all_goals
    next heq => cases heq

section Members

variable {σ α : Type} {fields : List (Field σ)} {acc : σ} {last : Except Fault σ} {name : String}
  {text : List Char} {es : List (String × List Char)} {f : Field σ} {parts : List (List Char)}

theorem Padded.entry {part : List Char} {e : String × List Char} (h : Padded Shows part e) :
    ∃ gap form g g' gap', Gap gap ∧ Spells form e.1.toList ∧ Gap g ∧ Gap g' ∧ Gap gap' ∧
      ∀ s, part ++ s =
        gap ++ '"' :: (form ++ '"' :: (g ++ ':' :: (g' ++ (e.2 ++ (gap' ++ s))))) := by
  obtain ⟨gap, w, gap', hgap, ⟨form, g, g', hform, hg, hg', rfl⟩, hgap', rfl⟩ := h
  refine ⟨gap, form, g, g', gap', hgap, hform, hg, hg', hgap', fun s => ?_⟩
  simp only [quoted, List.append_assoc, List.cons_append, List.nil_append]

-- The first entry has no comma in front, and nothing else tells it from those behind it.
theorem members_first {part : List Char} {e : String × List Char} (h : Padded Shows part e)
    (steps : Nat) (s : List Char) :
    Record.members fields steps true acc (part ++ s) =
      Record.members fields steps false acc (',' :: (part ++ s)) := by
  cases steps with
  | zero => rfl
  | succ steps =>
    obtain ⟨gap, form, g, g', gap', hgap, -, -, -, -, hpart⟩ := h.entry
    have hlater : ∀ r, nextKey false (',' :: (gap ++ '"' :: r)) = .ok (some r) :=
      nextKey_comma gap_nil hgap
    rw [hpart, Record.members, Record.members, nextKey_first hgap, hlater]

theorem members_separated (h : List.Forall₂ (Padded Shows) parts es) {gap : List Char}
    (hgap : Gap gap) (steps : Nat) (rest : List Char) :
    Record.members fields steps true acc (Write.separated parts ++ (gap ++ '\x7d' :: rest)) =
      Record.members fields steps false acc (following parts ++ (gap ++ '\x7d' :: rest)) := by
  cases h with
  | nil =>
    cases steps with
    | zero => rfl
    | succ steps =>
      show Record.members fields (steps + 1) true acc (gap ++ '\x7d' :: rest) =
        Record.members fields (steps + 1) false acc (gap ++ '\x7d' :: rest)
      rw [Record.members, Record.members, nextKey_close hgap, nextKey_close hgap]
  | cons hp _ =>
    rw [separated_cons, following_cons, List.append_assoc]
    exact members_first hp steps _

theorem members_known {part : List Char} (hpart : Padded Shows part (name, text))
    (hfield : (fields.find? fun f => f.name = name) = some f) (hgiven : f.given acc = false)
    {gap : List Char} (hgap : Gap gap) (steps : Nat) (s : List Char) :
    ∃ g g', Gap g ∧ Gap g' ∧
      Record.members fields (steps + 1) false acc (gap ++ ',' :: (part ++ s)) =
      match f.read acc (g ++ (text ++ (g' ++ s))) with
      | .error e => .error e
      | .ok (acc, s) => Record.members fields steps false acc s := by
  obtain ⟨g, form, g₁, g₂, g', hg, hform, hg₁, hg₂, hg', happend⟩ := hpart.entry
  refine ⟨g₂, g', hg₂, hg', ?_⟩
  rw [happend, Record.members, nextKey_comma hgap hg]
  dsimp only
  rw [hform.stringBody]
  dsimp only
  rw [String.ofList_toList, hfield]
  dsimp only
  rw [hgiven, colon_gap hg₁]
  rfl

theorem members_unknown {part : List Char} (hpart : Padded Shows part (name, text))
    (hfield : (fields.find? fun f => f.name = name) = none) {gap : List Char} (hgap : Gap gap)
    (steps : Nat) (s : List Char) :
    ∃ g g', Gap g ∧ Gap g' ∧
      Record.members fields (steps + 1) false acc (gap ++ ',' :: (part ++ s)) =
      match skipValue (g ++ (text ++ (g' ++ s))) with
      | .error e => .error e
      | .ok s => Record.members fields steps false acc s := by
  obtain ⟨g, form, g₁, g₂, g', hg, hform, hg₁, hg₂, hg', happend⟩ := hpart.entry
  refine ⟨g₂, g', hg₂, hg', ?_⟩
  rw [happend, Record.members, nextKey_comma hgap hg]
  dsimp only
  rw [hform.stringBody]
  dsimp only
  rw [String.ofList_toList, hfield]
  dsimp only
  rewrite [colon_gap hg₁]
  rfl

-- One step for each entry.
theorem members_following (h : Gathers fields acc es last)
    (hparts : List.Forall₂ (Padded Shows) parts es) {gap s : List Char} (hgap : Gap gap)
    (hs : Closes s) (steps : Nat) :
    ∃ gap', Gap gap' ∧
      Record.members fields (steps + es.length) false acc (gap ++ (following parts ++ s)) =
        last.bind fun last => Record.members fields steps false last (gap' ++ s) := by
  induction h generalizing parts gap with
  | nil acc =>
    cases hparts
    exact ⟨gap, hgap, rfl⟩
  | @cons acc next name text es last f hfield hgiven hread _ ih =>
    obtain _ | @⟨part, _, parts, _, hpart, hparts⟩ := hparts
    obtain ⟨g, g', hg, hg', hstep⟩ := members_known hpart hfield hgiven hgap (steps + es.length)
      (following parts ++ s)
    obtain ⟨gap', hgap', hrest⟩ := ih hparts hg'
    rw [hread.read g _ hg (hg'.closes (closes_following parts hs))] at hstep
    rw [following_cons]
    exact ⟨gap', hgap', hstep.trans hrest⟩
  | @stop acc name text es e f hfield hgiven hread =>
    obtain _ | @⟨part, _, parts, _, hpart, hparts⟩ := hparts
    obtain ⟨g, g', hg, hg', hstep⟩ := members_known hpart hfield hgiven hgap (steps + es.length)
      (following parts ++ s)
    rw [hread.read g _ hg (hg'.closes (closes_following parts hs))] at hstep
    rw [following_cons]
    exact ⟨gap, hgap, hstep⟩
  | @skip acc name text es last hfield hscalar _ ih =>
    obtain _ | @⟨part, _, parts, _, hpart, hparts⟩ := hparts
    obtain ⟨g, g', hg, hg', hstep⟩ := members_unknown hpart hfield hgap (steps + es.length)
      (following parts ++ s)
    obtain ⟨gap', hgap', hrest⟩ := ih hparts hg'
    rw [hscalar.skipValue hg (hg'.closes (closes_following parts hs))] at hstep
    rw [following_cons]
    exact ⟨gap', hgap', hstep.trans hrest⟩

theorem members_close {gap : List Char} (hgap : Gap gap) (steps : Nat) (first : Bool)
    (rest : List Char) :
    Record.members fields (steps + 1) first acc (gap ++ '\x7d' :: rest) =
      .ok (acc, gap ++ '\x7d' :: rest) := by
  rw [Record.members, nextKey_close hgap]

theorem members_listed (h : Gathers fields acc es last)
    (hparts : List.Forall₂ (Padded Shows) parts es) {gap : List Char} (hgap : Gap gap) {steps : Nat}
    (hsteps : es.length < steps) (rest : List Char) :
    ∃ gap', Gap gap' ∧ Record.members fields steps true acc
        (Write.separated parts ++ (gap ++ '\x7d' :: rest)) =
      last.map fun last => (last, gap' ++ '\x7d' :: rest) := by
  obtain ⟨gap', hgap', hmembers⟩ := members_following h hparts gap_nil
    (hgap.closes (closes_curly rest)) (steps - es.length - 1 + 1)
  rw [List.nil_append, show steps - es.length - 1 + 1 + es.length = steps by omega] at hmembers
  refine ⟨gap' ++ gap, hgap'.append hgap, ?_⟩
  rw [members_separated hparts hgap, hmembers]
  cases last with
  | error e => rfl
  | ok last =>
    rw [Except.map, ← List.append_assoc gap']
    exact members_close (hgap'.append hgap) ..

/-- The object with this text between its braces. -/
def braced (text : List Char) : List Char :=
  '\x7b' :: (text ++ ['\x7d'])

theorem braced_append (text gap rest : List Char) :
    braced (text ++ gap) ++ rest = '\x7b' :: (text ++ (gap ++ '\x7d' :: rest)) := by
  simp [braced]

theorem begins_braced (text : List Char) : Begins (braced text) :=
  ⟨'\x7b', _, rfl, rfl, by decide⟩

/-- A record is read from the object of any entries that gather what it takes. -/
theorem yields_object {r : Record σ α} (h : Gathers r.fields r.start es last)
    (htext : Listed Shows text es) : Yields r.read (braced text) (finished r last) where
  begins := begins_braced text
  read gap rest hgap _ := by
    obtain ⟨parts, gap', hparts, hgap', rfl⟩ := htext
    have hsteps : es.length < (Write.separated parts ++ (gap' ++ '\x7d' :: rest)).length + 1 := by
      have hlength := length_le_separated parts
      rw [hparts.length_eq] at hlength
      rw [List.length_append, List.length_append, List.length_cons]
      omega
    obtain ⟨g, hg, hbody⟩ := members_listed h hparts hgap' hsteps rest
    have hend : endObject (g ++ '\x7d' :: rest) = .ok rest := by
      rw [endObject, skipSpace_gap hg rfl]
      rfl
    rw [braced_append, Record.read, skipSpace_gap hgap rfl, ← conclude_map r last hend]
    exact congrArg (r.conclude endObject) hbody

theorem reads_record {r : Record σ α} {acc : σ} {a : α} (h : Gathers r.fields r.start es (.ok acc))
    (hfinish : r.finish acc = some a) : Reads r.read (Write.object es) a := by
  have hparts : List.Forall₂ Shows (es.map entry) es := by
    rw [List.forall₂_map_left_iff, List.forall₂_same]
    exact fun e _ => shows_entry e
  have hobject := yields_object h (listed_separated hparts)
  rw [finished, Except.bind, hfinish] at hobject
  exact hobject

/-- The entries of an object but for those of some names. -/
def without (dropped : List String) (es : List (String × List Char)) : List (String × List Char) :=
  es.filter fun e => e.1 ∉ dropped

theorem without_nil (es : List (String × List Char)) : without [] es = es :=
  List.filter_eq_self.2 fun _ _ => rfl

-- `put` says what the accumulator is with the entry and without it.
theorem Gathers.unless {dropped : List String} (put : Bool → σ) (f : Field σ)
    (hfield : (fields.find? fun f => f.name = name) = some f)
    (hgiven : f.given (put false) = false) (hread : Reads (f.read (put false)) text (put true))
    (hrest : Gathers fields (put (name ∉ dropped)) (without dropped es) last) :
    Gathers fields (put false) (without dropped ((name, text) :: es)) last := by
  unfold without at hrest ⊢
  by_cases hname : name ∈ dropped
  · rw [List.filter_cons_of_neg (by simpa using hname)]
    rw [decide_eq_false (not_not.2 hname)] at hrest
    exact hrest
  · rw [List.filter_cons_of_pos (by simpa using hname)]
    rw [decide_eq_true hname] at hrest
    exact .cons f hfield hgiven hread hrest

theorem getD_unless {β : Type} (dropped : List String) (name : String) (b d : β) :
    (if decide (name ∉ dropped) then some b else none).getD d =
      if name ∈ dropped then d else b := by
  by_cases hname : name ∈ dropped <;> simp [hname]

end Members

/-! ## Arrays -/

/-- What the items of an array come to, one for each field in the order of declaration. -/
inductive Fills {σ : Type} : List (Field σ) → σ → List (List Char) → Except Fault σ → Prop where
  | nil (acc : σ) : Fills [] acc [] (.ok acc)
  | cons {f : Field σ} {fields : List (Field σ)} {acc next : σ} {text : List Char}
      {texts : List (List Char)} {last : Except Fault σ} (hread : Reads (f.read acc) text next)
      (hrest : Fills fields next texts last) : Fills (f :: fields) acc (text :: texts) last
  | stop {f : Field σ} {fields : List (Field σ)} {acc : σ} {text : List Char}
      {texts : List (List Char)} {e : Fault} (hread : Yields (f.read acc) text (.error e)) :
      Fills (f :: fields) acc (text :: texts) (.error e)

section Positions

variable {σ α : Type} {fields : List (Field σ)} {acc : σ} {last : Except Fault σ}
  {texts parts : List (List Char)} {f : Field σ}

theorem Fills.begins {text : List Char} (h : Fills fields acc (text :: texts) last) :
    ∃ f later, fields = f :: later ∧ Begins text := by
  cases h with
  | cons hread _ => exact ⟨_, _, rfl, hread.begins⟩
  | stop hread => exact ⟨_, _, rfl, hread.begins⟩

theorem positions_first {part text : List Char} (hpart : Padded Eq part text) (htext : Begins text)
    (s : List Char) :
    Record.positions (f :: fields) true acc (part ++ s) =
      Record.positions (f :: fields) false acc (',' :: (part ++ s)) := by
  obtain ⟨gap, _, gap', hgap, rfl, -, rfl⟩ := hpart
  have hlater :
      nextItem false (',' :: (gap ++ (_ ++ (gap' ++ s)))) = .ok (some (_ ++ (gap' ++ s))) :=
    nextItem_comma gap_nil hgap htext (gap' ++ s)
  simp only [List.append_assoc]
  rw [Record.positions, Record.positions, nextItem_first hgap htext, hlater]

theorem positions_next {part text : List Char} (hpart : Padded Eq part text) (htext : Begins text)
    {gap : List Char} (hgap : Gap gap) (s : List Char) :
    ∃ g g', Gap g ∧ Gap g' ∧
      Record.positions (f :: fields) false acc (gap ++ ',' :: (part ++ s)) =
        match f.read acc (g ++ (text ++ (g' ++ s))) with
        | .error e => .error e
        | .ok (acc, s) => Record.positions fields false acc s := by
  obtain ⟨g, _, g', hg, rfl, hg', rfl⟩ := hpart
  refine ⟨[], g', gap_nil, hg', ?_⟩
  simp only [List.append_assoc]
  rewrite [Record.positions, nextItem_comma hgap hg htext]
  rfl

theorem positions_following (h : Fills fields acc texts last)
    (hparts : List.Forall₂ (Padded Eq) parts texts) {gap s : List Char} (hgap : Gap gap)
    (hs : Closes s) :
    ∃ gap', Gap gap' ∧ Record.positions fields false acc (gap ++ (following parts ++ s)) =
      last.map fun last => (last, gap' ++ s) := by
  induction h generalizing parts gap with
  | nil acc =>
    cases hparts
    exact ⟨gap, hgap, rfl⟩
  | cons hread _ ih =>
    obtain _ | @⟨part, _, parts, _, hpart, hparts⟩ := hparts
    obtain ⟨g, g', hg, hg', hstep⟩ := positions_next hpart hread.begins hgap (following parts ++ s)
    obtain ⟨gap', hgap', hrest⟩ := ih hparts hg'
    rw [hread.read g _ hg (hg'.closes (closes_following parts hs))] at hstep
    rw [following_cons]
    exact ⟨gap', hgap', hstep.trans hrest⟩
  | stop hread =>
    obtain _ | @⟨part, _, parts, _, hpart, hparts⟩ := hparts
    obtain ⟨g, g', hg, hg', hstep⟩ := positions_next hpart hread.begins hgap (following parts ++ s)
    rw [hread.read g _ hg (hg'.closes (closes_following parts hs))] at hstep
    rw [following_cons]
    exact ⟨gap, hgap, hstep⟩

theorem positions_listed (h : Fills fields acc texts last)
    (hparts : List.Forall₂ (Padded Eq) parts texts) {gap : List Char} (hgap : Gap gap)
    (rest : List Char) :
    ∃ gap', Gap gap' ∧ Record.positions fields true acc
        (Write.separated parts ++ (gap ++ ']' :: rest)) =
      last.map fun last => (last, gap' ++ ']' :: rest) := by
  obtain ⟨gap', hgap', hpositions⟩ := positions_following h hparts gap_nil
    (hgap.closes (closes_square rest))
  refine ⟨gap' ++ gap, hgap'.append hgap, ?_⟩
  rw [List.append_assoc, ← hpositions]
  cases hparts with
  | nil =>
    cases h
    rfl
  | cons hpart _ =>
    obtain ⟨f, later, rfl, htext⟩ := h.begins
    rw [separated_cons, List.nil_append, following_cons, List.append_assoc]
    exact positions_first hpart htext _

/-- A record is read from the array of its fields in the order of declaration. -/
theorem yields_array {r : Record σ α} (h : Fills r.fields r.start texts last) {text : List Char}
    (htext : Listed Eq text texts) : Yields r.read (bracketed text) (finished r last) where
  begins := begins_bracketed text
  read gap rest hgap _ := by
    obtain ⟨parts, gap', hparts, hgap', rfl⟩ := htext
    obtain ⟨g, hg, hbody⟩ := positions_listed h hparts hgap' rest
    have hend : endArray (g ++ ']' :: rest) = .ok rest := by
      rw [endArray, skipSpace_gap hg rfl]
      rfl
    rw [bracketed_append, Record.read, skipSpace_gap hgap rfl, ← conclude_map r last hend]
    exact congrArg (r.conclude endArray) hbody

end Positions

end Json

end EchoFilter
