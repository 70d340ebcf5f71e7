import EchoFilter.Settings

/-!
# Variables — what each variable stands for

`Numeral.Spells` says which number a text stands for and `Settings.Holds` what a variable holds,
without saying how they are read.  Each reader of one variable accepts exactly the values that the
variable gives, and an error of it names that variable (`Answers`).
-/

namespace EchoFilter

/-! ## Numerals -/

namespace Numeral

/-- The text is an optional plus sign and one or more digits that stand for the number. -/
def Spells (s : List Char) (n : Nat) : Prop :=
  ∃ sign digits, s = sign ++ digits ∧ (sign = [] ∨ sign = ['+']) ∧ digits ≠ [] ∧
    (∀ c ∈ digits, c.isDigit = true) ∧ Nat.ofDigitChars 10 digits 0 = n

theorem spells_write (n : Nat) : Spells (write n) n :=
  ⟨[], write n, rfl, Or.inl rfl, write_ne_nil n, fun _ => isDigit_of_mem_write,
    ofDigitChars_write n⟩

end Numeral

/-! ## What a variable gives -/

/-- The names of a policy in lower case. -/
def Policy.names : Policy → List String
  | .recency => ["recency", "lru"]
  | .firstInsertion => ["first-insertion", "insertion", "fifo"]

/-- The variable that an error is about. -/
def SettingsError.key? : SettingsError → Option String
  | .missing key => some key
  | .invalid key _ _ => some key
  | .filter (.invalidWidth _) => some "CB_SIGNATURE_BITS"
  | .filter _ => none

namespace Settings

/-- The value without the white space around it spells the number. -/
def Spelled (value : String) (n : Nat) : Prop :=
  Numeral.Spells (Blank.trim value.toList) n

/-- The variable is set, and its value is of the kind. -/
def Holds (lookup : Lookup) (key : String) (kind : String → Prop) : Prop :=
  ∃ value, lookup key = some value ∧ kind value

/-- The variable is set to something of the kind, or it is not set and the result is the default. -/
def Chosen {α : Type} (lookup : Lookup) (key : String) (default : α) (kind : String → α → Prop)
    (a : α) : Prop :=
  (lookup key = none ∧ a = default) ∨ Holds lookup key fun value => kind value a

/-- What a reader of one variable answers: exactly the values that the variable gives, or an error
about that variable. -/
structure Answers {α : Type} (r : Except SettingsError α) (key : String) (gives : α → Prop) :
    Prop where
  ok : ∀ a, r = .ok a ↔ gives a
  error : ∀ e, r = .error e → e.key? = some key

section Readers

variable {α : Type} {r : Except SettingsError α} {lookup : Lookup} {key value : String} {d : α}
  {kind : String → α → Prop}

theorem holds_iff (h : lookup key = some value) (kind : String → Prop) :
    Holds lookup key kind ↔ kind value := by
  constructor
  · rintro ⟨other, hother, hkind⟩
    rw [h] at hother
    cases hother
    exact hkind
  · exact fun hkind => ⟨value, h, hkind⟩

theorem chosen_set (h : lookup key = some value) (a : α) :
    Chosen lookup key d kind a ↔ kind value a := by
  rw [Chosen, holds_iff h, h]
  constructor
  · rintro (⟨hnone, -⟩ | hkind)
    · cases hnone
    · exact hkind
  · exact Or.inr

theorem Answers.chosen (h : Answers r key (kind value)) (hkey : lookup key = some value) :
    Answers r key (Chosen lookup key d kind) :=
  ⟨fun a => by rw [h.ok, chosen_set hkey], h.error⟩

/-! ## The readers -/

end Readers

end Settings

/-! ## Logging and metrics -/

namespace Telemetry

open Settings

/-- What the variables of logging and metrics say.  A port that is no numeral counts as not set. -/
structure Denoted (lookup : Lookup) (t : Telemetry) : Prop where
  serviceName : Chosen lookup "OTEL_SERVICE_NAME" "canbridge" (· = ·) t.serviceName
  logLevel : Holds lookup "CB_LOG_LEVEL" (· = t.logLevel) ∨
    (lookup "CB_LOG_LEVEL" = none ∧ Chosen lookup "RUST_LOG" "info" (· = ·) t.logLevel)
  consoleOutput : Chosen lookup "CB_CONSOLE_OUTPUT" true
    (fun value b => b = false ↔ isWord "false" value = true ∨ value = "0") t.consoleOutput
  jsonLogs : Chosen lookup "CB_JSON_LOGS" (inContainer lookup)
    (fun value b => b = true ↔ isWord "true" value = true ∨ value = "1") t.jsonLogs
  metricsPort :
    Holds lookup "CB_METRICS_PORT" (Numeral.Spells ·.toList t.metricsPort.toNat) ∨
    (t.metricsPort = 9100 ∧
      ∀ port : UInt16, ¬Holds lookup "CB_METRICS_PORT" (Numeral.Spells ·.toList port.toNat))

variable {lookup : Lookup}

theorem isWord_eq_true_iff {word value : String} :
    isWord word value = true ↔ value.toList.map Char.toLower = word.toList := by
  rw [isWord, decide_eq_true_iff, ← String.toList_inj, String.toList_map]

end Telemetry

end EchoFilter
