import EchoFilter.Proofs.Readers

/-!
# Leniency — readers that take more

A reader with a test on the way takes less than the same reader without it.  `Json.Extends` says
that whatever one reader takes another one takes too, with a value that can be told from the first
one's; it goes through fields and records, however deep in the text the test stands.
-/

namespace EchoFilter

namespace Json

/-- Whatever the first reader takes off the front of a text, the second one takes too, as its
image. -/
def Extends {α β : Type} (φ : α → β) (reader : Reader α) (reader' : Reader β) : Prop :=
  ∀ s a rest, reader s = .ok (a, rest) → reader' s = .ok (φ a, rest)

theorem extends_id {α : Type} (reader : Reader α) : Extends id reader reader :=
  fun _ _ _ h => h

theorem Extends.readText {α β : Type} {φ : α → β} {reader : Reader α} {reader' : Reader β}
    (h : Extends φ reader reader') {text : String} {a : α} (ha : readText reader text = .ok a) :
    Json.readText reader' text = .ok (φ a) := by
  unfold Json.readText at ha ⊢
  split at ha
  · cases ha
  next b rest hread =>
    rw [h _ _ _ hread]
    dsimp only
    split at ha
    next hrest =>
      cases ha
      rw [if_pos hrest]
    · cases ha

theorem exists_of_checked {α β : Type} {reader : Reader α} {check : α → Except FrameError β}
    {s rest : List Char} {b : β} (h : checked reader check s = .ok (b, rest)) :
    ∃ a, reader s = .ok (a, rest) ∧ check a = .ok b := by
  unfold checked at h
  split at h
  · cases h
  next a rest' hread =>
    split at h
    next b' hcheck =>
      cases h
      exact ⟨a, hread, hcheck⟩
    · cases h

theorem natural_lt {bound n : Nat} {s rest : List Char} (h : natural bound s = .ok (n, rest)) :
    n < bound := by
  unfold natural at h
  split at h
  · cases h
  split at h
  · split at h
    next =>
      split at h
      next hn =>
        cases h
        exact hn
      · cases h
    · cases h
    · cases h
  · cases h

theorem forall_mem_of_items {α : Type} {item : Reader α} {P : α → Prop}
    (hitem : ∀ s x rest, item s = .ok (x, rest) → P x) {steps : Nat} {first : Bool}
    {s rest : List Char} {xs : List α} (h : items item steps first s = .ok (xs, rest)) :
    ∀ x ∈ xs, P x := by
  induction steps generalizing first s xs rest with
  | zero => cases h
  | succ steps ih =>
    unfold items at h
    split at h
    · cases h
    · cases hend : endArray s with
      | error e =>
        rw [hend] at h
        cases h
      | ok rest' =>
        rw [hend] at h
        cases h
        exact fun x hx => nomatch hx
    · split at h
      · cases h
      next x s' hx =>
        split at h
        · cases h
        next ys rest' hys =>
          cases h
          exact List.forall_mem_cons.2 ⟨hitem _ _ _ hx, ih hys⟩

theorem forall_mem_of_array {α : Type} {item : Reader α} {P : α → Prop}
    (hitem : ∀ s x rest, item s = .ok (x, rest) → P x) {s rest : List Char} {xs : List α}
    (h : array item s = .ok (xs, rest)) : ∀ x ∈ xs, P x := by
  unfold array at h
  split at h
  · cases h
  · exact forall_mem_of_items hitem h
  · cases h

section Records

variable {σ τ α β : Type} {φ : σ → τ} {fields : List (Field σ)} {fields' : List (Field τ)}

/-- Fields of one name, the second of which reads whatever the first one reads. -/
structure Field.Extends (φ : σ → τ) (f : Field σ) (f' : Field τ) : Prop where
  name : f'.name = f.name
  given : ∀ acc, f'.given (φ acc) = f.given acc
  read : ∀ acc, Json.Extends φ (f.read acc) (f'.read (φ acc))

theorem extends_field {ψ : α → β} {reader : Reader α} {reader' : Reader β}
    (h : Extends ψ reader reader') (name : String) {get : σ → Option α} {set : σ → α → σ}
    {get' : τ → Option β} {set' : τ → β → τ} (hget : ∀ acc, get' (φ acc) = (get acc).map ψ)
    (hset : ∀ acc a, set' (φ acc) (ψ a) = φ (set acc a)) :
    Field.Extends φ (.of name reader get set) (.of name reader' get' set') where
  name := rfl
  given acc := by
    show (get' (φ acc)).isSome = (get acc).isSome
    rw [hget, Option.isSome_map]
  read acc s last rest hread := by
    unfold Field.of at hread ⊢
    dsimp only at hread ⊢
    split at hread
    next a rest' ha =>
      cases hread
      rw [h _ _ _ ha]
      dsimp only
      rw [hset]
    · cases hread

theorem extends_field_same (reader : Reader α) (name : String) {get : σ → Option α}
    {set : σ → α → σ} {get' : τ → Option α} {set' : τ → α → τ}
    (hget : ∀ acc, get' (φ acc) = get acc) (hset : ∀ acc a, set' (φ acc) a = φ (set acc a)) :
    Field.Extends φ (.of name reader get set) (.of name reader get' set') := by
  refine extends_field (extends_id reader) name (fun acc => ?_) hset
  rw [hget, Option.map_id, id_eq]

theorem find?_extends (h : List.Forall₂ (Field.Extends φ) fields fields') (name : String) :
    Option.Rel (Field.Extends φ) (fields.find? fun f => f.name = name)
      (fields'.find? fun f => f.name = name) := by
  induction h with
  | nil => exact .none
  | @cons f f' fields fields' hf _ ih =>
    rw [List.find?_cons, List.find?_cons, hf.name]
    cases decide (f.name = name) with
    | true => exact .some hf
    | false => exact ih

theorem members_extends (h : List.Forall₂ (Field.Extends φ) fields fields') {steps : Nat}
    {first : Bool} {acc last : σ} {s rest : List Char}
    (hread : Record.members fields steps first acc s = .ok (last, rest)) :
    Record.members fields' steps first (φ acc) s = .ok (φ last, rest) := by
  induction steps generalizing first acc s with
  | zero => cases hread
  | succ steps ih =>
    unfold Record.members at hread ⊢
    split at hread
    · cases hread
    next hkey =>
      cases hread
      rfl
    next s' hkey =>
      split at hread
      · cases hread
      next key s' hbody =>
        have hfind := find?_extends h (String.ofList key)
        generalize (fields.find? fun f => f.name = String.ofList key) = found,
          (fields'.find? fun f => f.name = String.ofList key) = found' at hfind hread ⊢
        cases hfind with
        | none =>
          dsimp only at hread ⊢
          split at hread
          · cases hread
          next s' hcolon =>
            split at hread
            · cases hread
            next s' hskip => exact ih hread
        | @some f f' hf =>
          dsimp only at hread ⊢
          rw [hf.given]
          split at hread
          · cases hread
          next hgiven =>
            rw [if_neg hgiven]
            split at hread
            · cases hread
            next s' hcolon =>
              split at hread
              · cases hread
              next acc' s' hvalue =>
                rw [hf.read acc _ _ _ hvalue]
                exact ih hread

theorem positions_extends (h : List.Forall₂ (Field.Extends φ) fields fields') {first : Bool}
    {acc last : σ} {s rest : List Char}
    (hread : Record.positions fields first acc s = .ok (last, rest)) :
    Record.positions fields' first (φ acc) s = .ok (φ last, rest) := by
  induction h generalizing first acc s with
  | nil =>
    cases hread
    rfl
  | @cons f f' fields fields' hf _ ih =>
    unfold Record.positions at hread ⊢
    split at hread
    · cases hread
    · cases hread
      rfl
    · split at hread
      · cases hread
      next acc' s' hvalue =>
        rw [hf.read acc _ _ _ hvalue]
        exact ih hread

theorem read_extends {ψ : α → β} {r : Record σ α} {r' : Record τ β}
    (hstart : r'.start = φ r.start) (hfields : List.Forall₂ (Field.Extends φ) r.fields r'.fields)
    (hfinish : ∀ acc a, r.finish acc = some a → r'.finish (φ acc) = some (ψ a)) :
    Extends ψ r.read r'.read := by
  have hconclude {close : List Char → Except Fault (List Char)}
      {body : Except Fault (σ × List Char)}
      {body' : Except Fault (τ × List Char)} {a : α} {rest : List Char}
      (hbody : ∀ acc s, body = .ok (acc, s) → body' = .ok (φ acc, s))
      (h : r.conclude close body = .ok (a, rest)) : r'.conclude close body' = .ok (ψ a, rest) := by
    unfold Record.conclude at h ⊢
    split at h
    · cases h
    next acc s =>
      rw [hbody acc s rfl]
      dsimp only
      split at h
      · cases h
      next a' ha =>
        rw [hfinish acc a' ha]
        dsimp only
        cases hclose : close s with
        | error e =>
          rw [hclose] at h
          cases h
        | ok rest' =>
          rw [hclose] at h
          cases h
          rfl
  intro s a rest h
  unfold Record.read at h ⊢
  split at h
  · cases h
  next s' hs =>
    rw [hstart]
    exact hconclude (fun acc s => positions_extends hfields) h
  next s' hs =>
    rw [hstart]
    exact hconclude (fun acc s => members_extends hfields) h
  · cases h

end Records

end Json

end EchoFilter
