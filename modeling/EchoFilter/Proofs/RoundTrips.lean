import EchoFilter.Proofs.Records

/-!
# Round trips — every value is read back from its JSON text

Each type's reader takes the written form of each of its values off the front of a text
(`Json.Reads`), with any of the entries left out that the type has a default for.
-/

namespace EchoFilter

open Json

/-! ## Frames -/

theorem ArbitrationId.yields_raw (raw : UInt32) :
    Yields readJson (Write.natural raw.toNat) ((ofRaw raw).mapError fun e => .data (some e)) := by
  have hnatural : Reads (Json.natural UInt32.size) (Write.natural raw.toNat) raw.toNat :=
    reads_natural (by decide) raw.toNat_lt
  have hchecked := hnatural.checked fun n => ofRaw (UInt32.ofNat n)
  rw [UInt32.ofNat_toNat] at hchecked
  exact hchecked

theorem ArbitrationId.reads_toJson (id : ArbitrationId) : Reads readJson id.toJson id := by
  have hraw := yields_raw id.raw
  rw [ofRaw_raw] at hraw
  exact hraw

/-- The text between the brackets of an array of bytes. -/
def Json.Bytes (items : List Char) (bytes : List UInt8) : Prop :=
  Listed (fun item (b : UInt8) => item = Write.natural b.toNat) items bytes

theorem Json.Bytes.reads {items : List Char} {bytes : List UInt8} (h : Bytes items bytes) :
    Reads (array (natural UInt8.size)) (bracketed items) (bytes.map UInt8.toNat) := by
  refine reads_array (h.map UInt8.toNat ?_)
  rintro _ b rfl
  exact reads_natural (by decide) b.toNat_lt

theorem Json.Bytes.back (bytes : List UInt8) : (bytes.map UInt8.toNat).map UInt8.ofNat = bytes := by
  rw [List.map_map]
  exact List.map_id'' (fun b => UInt8.ofNat_toNat) _

theorem Json.bytes_separated (bytes : List UInt8) :
    Bytes (Write.separated (bytes.map fun b => Write.natural b.toNat)) bytes := by
  refine listed_separated ?_
  rw [List.forall₂_map_left_iff, List.forall₂_same]
  exact fun b _ => rfl

theorem Payload.yields_bytes {items : List Char} {bytes : List UInt8} (h : Bytes items bytes) :
    Yields readJson (bracketed items) ((ofBytes bytes).mapError fun e => .data (some e)) := by
  have hchecked := h.reads.checked fun ns => ofBytes (ns.map UInt8.ofNat)
  rw [Bytes.back] at hchecked
  exact hchecked

theorem Payload.reads_toJson (p : Payload) : Reads readJson p.toJson p := by
  have hbytes := yields_bytes (bytes_separated p.bytes)
  rw [ofBytes_bytes] at hbytes
  exact hbytes

namespace Frame

theorem reads_toJson (f : Frame) : Reads readJson f.toJson f := by
  have htimestamp : Reads (Json.natural UInt64.size) (Write.natural f.timestamp.toNat)
      f.timestamp.toNat := reads_natural (Nat.le_refl _) f.timestamp.toNat_lt
  have hgathers : Gathers record.fields record.start [
      ("id", f.id.toJson), ("payload", f.payload.toJson),
      ("timestamp_ms", Write.natural f.timestamp.toNat), ("interface", Write.string f.interface)]
      (.ok ⟨some f.id, some f.payload, some f.timestamp.toNat, some f.interface⟩) :=
    .cons _ rfl rfl (yields_field f.id.reads_toJson ..)
      (.cons _ rfl rfl (yields_field f.payload.reads_toJson ..)
        (.cons _ rfl rfl (yields_field htimestamp ..)
          (.cons _ rfl rfl (yields_field (reads_string f.interface) ..) (.nil _))))
  refine reads_record hgathers ?_
  show some _ = some f
  rw [UInt64.ofNat_toNat]

end Frame

/-! ## Configurations -/

theorem Width.reads_toJson (w : Width) : Reads readJson w.toJson w :=
  reads_variant (by cases w <;> rfl)

theorem Policy.reads_toJson (p : Policy) : Reads readJson p.toJson p :=
  reads_variant (by cases p <;> rfl)

theorem TimeBase.reads_toJson (t : TimeBase) : Reads readJson t.toJson t :=
  reads_variant (by cases t <;> rfl)

namespace Config

/-- The entries of a configuration as it is written. -/
def entries (c : Config) : List (String × List Char) := [
  ("window_ms", Write.natural c.windowMs.toNat),
  ("max_cache_size", Write.natural c.maxCacheSize.toNat),
  ("signature_width", c.width.toJson),
  ("ledger_policy", c.policy.toJson),
  ("time_base", c.timeBase.toJson)]

theorem toJson_eq (c : Config) : c.toJson = Write.object c.entries := rfl

/-- The entries that can be left out. -/
def optional : List String :=
  ["signature_width", "ledger_policy", "time_base"]

/-- The configuration with the named choices at their defaults. -/
def without (dropped : List String) (c : Config) : Config :=
  { c with
    width := if "signature_width" ∈ dropped then default else c.width
    policy := if "ledger_policy" ∈ dropped then default else c.policy
    timeBase := if "time_base" ∈ dropped then default else c.timeBase }

/-- The accumulator once some of the fields are read. -/
def taken (c : Config) (window cache width policy timeBase : Bool) : Fields where
  windowMs := if window then some c.windowMs.toNat else none
  maxCacheSize := if cache then some c.maxCacheSize.toNat else none
  width := if width then some c.width else none
  policy := if policy then some c.policy else none
  timeBase := if timeBase then some c.timeBase else none

theorem gathers_entries (dropped : List String) (c : Config) :
    Gathers record.fields record.start (Json.without dropped c.entries)
      (.ok (c.taken ("window_ms" ∉ dropped) ("max_cache_size" ∉ dropped)
        ("signature_width" ∉ dropped) ("ledger_policy" ∉ dropped) ("time_base" ∉ dropped))) := by
  have hword (n : UInt64) : Reads (natural UInt64.size) (Write.natural n.toNat) n.toNat :=
    reads_natural (Nat.le_refl _) n.toNat_lt
  refine .unless (fun k => c.taken k false false false false) _ rfl rfl
    (yields_field (hword c.windowMs) ..) ?_
  refine .unless (fun k => c.taken _ k false false false) _ rfl rfl
    (yields_field (hword c.maxCacheSize) ..) ?_
  refine .unless (fun k => c.taken _ _ k false false) _ rfl rfl
    (yields_field c.width.reads_toJson ..) ?_
  refine .unless (fun k => c.taken _ _ _ k false) _ rfl rfl
    (yields_field c.policy.reads_toJson ..) ?_
  exact .unless (fun k => c.taken _ _ _ _ k) _ rfl rfl
    (yields_field c.timeBase.reads_toJson ..) (.nil _)

theorem reads_without {dropped : List String} (h : dropped ⊆ optional) (c : Config) :
    Reads readJson (Write.object (Json.without dropped c.entries)) (c.without dropped) := by
  have hwindow : "window_ms" ∉ dropped := fun hmem => absurd (h hmem) (by decide)
  have hcache : "max_cache_size" ∉ dropped := fun hmem => absurd (h hmem) (by decide)
  have hgathers := c.gathers_entries dropped
  rw [decide_eq_true hwindow, decide_eq_true hcache] at hgathers
  refine reads_record hgathers ?_
  show some (Config.mk _ _ _ _ _) = some (c.without dropped)
  rw [taken, getD_unless, getD_unless, getD_unless, UInt64.ofNat_toNat, UInt64.ofNat_toNat, without]

theorem without_nil (c : Config) : c.without [] = c := rfl

theorem reads_toJson (c : Config) : Reads readJson c.toJson c := by
  have hall := reads_without (List.nil_subset optional) c
  rw [without_nil, Json.without_nil] at hall
  exact hall

end Config

/-! ## Telemetry -/

namespace Telemetry

/-- The entries of the settings as they are written. -/
def entries (t : Telemetry) : List (String × List Char) := [
  ("service_name", Write.string t.serviceName),
  ("log_level", Write.string t.logLevel),
  ("console_output", Write.boolean t.consoleOutput),
  ("json_logs", Write.boolean t.jsonLogs),
  ("metrics_port", Write.natural t.metricsPort.toNat)]

theorem toJson_eq (t : Telemetry) : t.toJson = Write.object t.entries := rfl

/-- The settings with the named ones at their defaults. -/
def without (dropped : List String) (t : Telemetry) : Telemetry :=
  let d : Telemetry := default
  { serviceName := if "service_name" ∈ dropped then d.serviceName else t.serviceName
    logLevel := if "log_level" ∈ dropped then d.logLevel else t.logLevel
    consoleOutput := if "console_output" ∈ dropped then d.consoleOutput else t.consoleOutput
    jsonLogs := if "json_logs" ∈ dropped then d.jsonLogs else t.jsonLogs
    metricsPort := if "metrics_port" ∈ dropped then d.metricsPort else t.metricsPort }

/-- The accumulator once some of the fields are read. -/
def taken (t : Telemetry) (name level console json port : Bool) : Fields where
  serviceName := if name then some t.serviceName else none
  logLevel := if level then some t.logLevel else none
  consoleOutput := if console then some t.consoleOutput else none
  jsonLogs := if json then some t.jsonLogs else none
  metricsPort := if port then some t.metricsPort.toNat else none

theorem gathers_entries (dropped : List String) (t : Telemetry) :
    Gathers record.fields record.start (Json.without dropped t.entries)
      (.ok (t.taken ("service_name" ∉ dropped) ("log_level" ∉ dropped)
        ("console_output" ∉ dropped) ("json_logs" ∉ dropped) ("metrics_port" ∉ dropped))) := by
  have hport : Reads (natural UInt16.size) (Write.natural t.metricsPort.toNat)
      t.metricsPort.toNat := reads_natural (by decide) t.metricsPort.toNat_lt
  refine .unless (fun k => t.taken k false false false false) _ rfl rfl
    (yields_field (reads_string t.serviceName) ..) ?_
  refine .unless (fun k => t.taken _ k false false false) _ rfl rfl
    (yields_field (reads_string t.logLevel) ..) ?_
  refine .unless (fun k => t.taken _ _ k false false) _ rfl rfl
    (yields_field (reads_boolean t.consoleOutput) ..) ?_
  refine .unless (fun k => t.taken _ _ _ k false) _ rfl rfl
    (yields_field (reads_boolean t.jsonLogs) ..) ?_
  exact .unless (fun k => t.taken _ _ _ _ k) _ rfl rfl (yields_field hport ..) (.nil _)

theorem reads_without (dropped : List String) (t : Telemetry) :
    Reads readJson (Write.object (Json.without dropped t.entries)) (t.without dropped) := by
  refine reads_record (t.gathers_entries dropped) ?_
  have hport : (if decide ("metrics_port" ∉ dropped) then some t.metricsPort.toNat else none).map
      UInt16.ofNat = if decide ("metrics_port" ∉ dropped) then some t.metricsPort else none := by
    split
    · rw [Option.map_some, UInt16.ofNat_toNat]
    · rfl
  show some (Telemetry.mk _ _ _ _ _) = some (t.without dropped)
  rw [taken, hport, getD_unless, getD_unless, getD_unless, getD_unless, getD_unless, without]

theorem without_nil (t : Telemetry) : t.without [] = t := rfl

theorem reads_toJson (t : Telemetry) : Reads readJson t.toJson t := by
  have hall := t.reads_without []
  rw [without_nil, Json.without_nil] at hall
  exact hall

end Telemetry

/-- **Every value is read back from the text that is written for it**, whatever the characters of
its strings and the size of its numbers, and whether or not a configuration is valid.  A
configuration whose text lacks some of its choices, and telemetry settings whose text lacks any of
their entries, are read with the defaults in their place. -/
theorem reads_back_what_is_written :
    (∀ id : ArbitrationId, readText ArbitrationId.readJson (String.ofList id.toJson) = .ok id) ∧
    (∀ p : Payload, readText Payload.readJson (String.ofList p.toJson) = .ok p) ∧
    (∀ interface : String,
      readText Json.string (String.ofList (Write.string interface)) = .ok interface) ∧
    (∀ f : Frame, readText Frame.readJson (String.ofList f.toJson) = .ok f) ∧
    (∀ w : Width, readText Width.readJson (String.ofList w.toJson) = .ok w) ∧
    (∀ p : Policy, readText Policy.readJson (String.ofList p.toJson) = .ok p) ∧
    (∀ t : TimeBase, readText TimeBase.readJson (String.ofList t.toJson) = .ok t) ∧
    (∀ c : Config, readText Config.readJson (String.ofList c.toJson) = .ok c ∧
      c.toJson = Write.object c.entries ∧
      ∀ dropped : List String, dropped ⊆ Config.optional →
        readText Config.readJson
          (String.ofList (Write.object (Json.without dropped c.entries))) =
            .ok (c.without dropped)) ∧
    (∀ t : Telemetry, readText Telemetry.readJson (String.ofList t.toJson) = .ok t ∧
      t.toJson = Write.object t.entries ∧
      ∀ dropped : List String,
        readText Telemetry.readJson
          (String.ofList (Write.object (Json.without dropped t.entries))) =
            .ok (t.without dropped)) :=
  ⟨fun id => id.reads_toJson.readText, fun p => p.reads_toJson.readText,
    fun interface => (reads_string interface).readText, fun f => f.reads_toJson.readText,
    fun w => w.reads_toJson.readText, fun p => p.reads_toJson.readText,
    fun t => t.reads_toJson.readText,
    fun c => ⟨c.reads_toJson.readText, c.toJson_eq, fun _ h => (c.reads_without h).readText⟩,
    fun t => ⟨t.reads_toJson.readText, t.toJson_eq, fun dropped =>
      (t.reads_without dropped).readText⟩⟩

/-- The widest window and no bound at all, without the policy. -/
theorem reads_back_without_policy :
    ["ledger_policy"] ⊆ Config.optional ∧
      readText Config.readJson (String.ofList (Write.object (Json.without ["ledger_policy"]
        (Config.mk 0xffffffffffffffff 0 .bits128 .firstInsertion .frameArrival).entries))) =
          .ok ⟨0xffffffffffffffff, 0, .bits128, .recency, .frameArrival⟩ :=
  have hoptional : ["ledger_policy"] ⊆ Config.optional := by decide
  ⟨hoptional, (reads_back_what_is_written.2.2.2.2.2.2.2.1 _).2.2 _ hoptional⟩

end EchoFilter
