import EchoFilter.Config
import EchoFilter.Telemetry

/-!
Settings of one bridge process, read from named variables.

Window and bound are required; the rest has defaults.  Variables are read in a fixed order and the
first that fails is reported.  Numerals may have white space around them, a plus sign and leading
zeros; the policy is compared without regard to ASCII case, but not trimmed.
-/

namespace EchoFilter

/-- Why settings cannot be used. -/
inductive SettingsError where
  | missing (key : String)
  | invalid (key value reason : String)
  | filter (error : FilterError)
  deriving DecidableEq, Repr

def SettingsError.message : SettingsError → String
  | .missing key => "Missing required setting " ++ key
  | .invalid key value reason =>
    "Invalid value " ++ Quoted.quote value ++ " for " ++ key ++ ": " ++ reason
  | .filter e => "Invalid deduplication settings: " ++ e.message

structure Settings where
  windowMs : UInt64
  maxCacheSize : UInt64
  width : Width := default
  policy : Policy := default
  /-- Capacity of the ingest queue. -/
  ingestQueue : UInt64 := 1024
  telemetry : Telemetry := {}
  deriving DecidableEq, Repr

namespace Settings

/-- The values recommended for a filter, and the defaults for everything else. -/
def recommended : Settings where
  windowMs := Config.recommended.windowMs
  maxCacheSize := Config.recommended.maxCacheSize

/-- The numeral a variable holds, with the white space around it left out. -/
def numeral (bound : Nat) (key value : String) : Except SettingsError Nat :=
  match Numeral.read bound (Blank.trim value.toList) with
  | .ok n => .ok n
  | .error e => .error (.invalid key value e.message)

def required (lookup : Lookup) (key : String) : Except SettingsError UInt64 :=
  match lookup key with
  | none => .error (.missing key)
  | some value => (numeral UInt64.size key value).map UInt64.ofNat

def widthOf (lookup : Lookup) : Except SettingsError Width :=
  match lookup "CB_SIGNATURE_BITS" with
  | none => .ok default
  | some value =>
    match numeral UInt32.size "CB_SIGNATURE_BITS" value with
    | .error e => .error e
    | .ok bits =>
      match Width.ofBits? bits with
      | some w => .ok w
      | none => .error (.filter (.invalidWidth bits))

def policyOf (lookup : Lookup) : Except SettingsError Policy :=
  match lookup "CB_LEDGER_POLICY" with
  | none => .ok default
  | some value =>
    match Policy.parse value with
    | .ok p => .ok p
    | .error reason => .error (.invalid "CB_LEDGER_POLICY" value reason)

/-- The queue must hold at least one frame. -/
def ingestQueueOf (lookup : Lookup) : Except SettingsError UInt64 :=
  match lookup "CB_INGEST_QUEUE" with
  | none => .ok 1024
  | some value =>
    match numeral UInt64.size "CB_INGEST_QUEUE" value with
    | .error e => .error e
    | .ok 0 => .error (.invalid "CB_INGEST_QUEUE" "0" "queue capacity must be > 0")
    | .ok n => .ok (UInt64.ofNat n)

def ofLookup (lookup : Lookup) : Except SettingsError Settings := do
  let windowMs ← required lookup "CB_DEDUP_WINDOW_MS"
  let maxCacheSize ← required lookup "CB_DEDUP_MAX_CACHE"
  let width ← widthOf lookup
  let policy ← policyOf lookup
  let ingestQueue ← ingestQueueOf lookup
  return { windowMs, maxCacheSize, width, policy, ingestQueue
           telemetry := .ofLookup lookup }

/-- The filter's part of the settings, validated. -/
def filterConfig (s : Settings) : Except SettingsError Config :=
  let draft : Draft := [.windowMs s.windowMs, .maxCacheSize s.maxCacheSize, .width s.width,
    .policy s.policy].foldl Draft.set {}
  match draft.build with
  | .ok c => .ok c
  | .error e => .error (.filter e)

/-- Settings make a configuration exactly when window and bound are above zero, and then it has
their values and runs on the clock. -/
theorem filterConfig_eq (s : Settings) :
    s.filterConfig =
      if s.windowMs = 0 then .error (.filter .invalidWindow)
      else if s.maxCacheSize = 0 then .error (.filter .invalidCacheSize)
      else .ok { windowMs := s.windowMs, maxCacheSize := s.maxCacheSize, width := s.width,
                 policy := s.policy } := by
  by_cases hw : s.windowMs = 0
  · simp [filterConfig, Draft.set, Draft.build, Config.validate, hw]
  · by_cases hm : s.maxCacheSize = 0
    · simp [filterConfig, Draft.set, Draft.build, Config.validate, hw, hm]
    · simp [filterConfig, Draft.set, Draft.build, Config.validate, hw, hm]

end Settings

end EchoFilter
