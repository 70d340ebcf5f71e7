import EchoFilter.Proofs.Acts
import EchoFilter.Proofs.RoundTrips

/-!
# Configuring — every way to a configuration agrees

A configuration comes from two numbers, from settings given one by one, from JSON text or from the
settings of a process, and a detector asks once more.  Settings given one by one come to the last
value of each field (`Draft.foldl_set`), so there is one test behind all the ways,
`Config.validate`, and it sees the window and the bound alone.
-/

namespace EchoFilter

/-! ## The last value of each field -/

namespace Setting

/-- The window that a setting gives, in milliseconds: a length of time counts its whole
milliseconds, as far as there is room. -/
def windowMs? : Setting → Option UInt64
  | .windowMs ms => some ms
  | .window len => some (UInt64.ofNat (min (len.nanoseconds / 1000000) (2 ^ 64 - 1)))
  | _ => none

def maxCacheSize? : Setting → Option UInt64
  | .maxCacheSize n => some n
  | _ => none

def width? : Setting → Option Width
  | .width w => some w
  | _ => none

def policy? : Setting → Option Policy
  | .policy p => some p
  | _ => none

def timeBase? : Setting → Option TimeBase
  | .timeBase t => some t
  | _ => none

/-- The last value that settings give to a field. -/
def last? {α : Type} (field : Setting → Option α) (settings : List Setting) : Option α :=
  (settings.filterMap field).getLast?

theorem last?_concat {α : Type} (field : Setting → Option α) (settings : List Setting)
    (s : Setting) :
    last? field (settings ++ [s]) = (field s).or (last? field settings) := by
  unfold last?
  rw [List.filterMap_append, List.filterMap_cons]
  cases field s with
  | none => rw [List.filterMap_nil, List.append_nil, Option.none_or]
  | some a => rw [List.filterMap_nil, List.getLast?_concat, Option.some_or]

theorem windowMs?_window (len : Duration) : windowMs? (.window len) = some (saturatedMs len) := rfl

theorem toNat_windowMs?_window (len : Duration) :
    ∃ ms, windowMs? (.window len) = some ms ∧
      ms.toNat = min (len.nanoseconds / 1000000) (2 ^ 64 - 1) :=
  ⟨_, windowMs?_window len, toNat_saturatedMs len⟩

end Setting

open Setting (last?)

namespace Draft

/-- What settings come to. -/
def ofLast (settings : List Setting) : Draft where
  windowMs := last? Setting.windowMs? settings
  maxCacheSize := last? Setting.maxCacheSize? settings
  width := last? Setting.width? settings
  policy := last? Setting.policy? settings
  timeBase := last? Setting.timeBase? settings

theorem ofLast_concat (settings : List Setting) (s : Setting) :
    ofLast (settings ++ [s]) = (ofLast settings).set s := by
  unfold ofLast
  simp only [Setting.last?_concat]
  cases s <;> rfl

theorem foldl_set (settings : List Setting) : settings.foldl set {} = ofLast settings := by
  induction settings using List.reverseRecOn with
  | nil => rfl
  | append_singleton settings s ih => rw [List.foldl_concat, ih, ofLast_concat]

end Draft

/-! ## What can be wrong with settings -/

/-- What keeps settings from making a configuration. -/
inductive Flaw where
  | noWindow
  | noCacheSize
  | zeroWindow
  | zeroCacheSize
  deriving DecidableEq, Repr

namespace Flaw

/-- The order in which flaws are looked for. -/
def order : List Flaw :=
  [.noWindow, .noCacheSize, .zeroWindow, .zeroCacheSize]

def error : Flaw → FilterError
  | .noWindow => .missingField "window_ms"
  | .noCacheSize => .missingField "max_cache_size"
  | .zeroWindow => .invalidWindow
  | .zeroCacheSize => .invalidCacheSize

/-- Whether settings have the flaw, by the last value of the field that it is about. -/
def isIn (settings : List Setting) : Flaw → Bool
  | .noWindow => last? Setting.windowMs? settings = none
  | .noCacheSize => last? Setting.maxCacheSize? settings = none
  | .zeroWindow => last? Setting.windowMs? settings = some 0
  | .zeroCacheSize => last? Setting.maxCacheSize? settings = some 0

/-- The flaw that is reported. -/
def first? (settings : List Setting) : Option Flaw :=
  order.find? (isIn settings)

theorem first?_eq (settings : List Setting) :
    first? settings =
      match last? Setting.windowMs? settings, last? Setting.maxCacheSize? settings with
      | none, _ => some .noWindow
      | some _, none => some .noCacheSize
      | some w, some m =>
        if w = 0 then some .zeroWindow else if m = 0 then some .zeroCacheSize else none := by
  unfold first? order
  cases hw : last? Setting.windowMs? settings with
  | none => simp [isIn, hw]
  | some w =>
    cases hm : last? Setting.maxCacheSize? settings with
    | none => simp [isIn, hw, hm]
    | some m =>
      by_cases hzero : w = 0
      · simp [isIn, hw, hm, hzero]
      · by_cases hnone : m = 0 <;> simp [isIn, hw, hm, hzero, hnone]

end Flaw

/-! ## The test behind all the ways -/

namespace Config

/-- What the test says of a window and a bound. -/
def verdict (w m : UInt64) : Except FilterError Unit :=
  validate { windowMs := w, maxCacheSize := m }

theorem validate_eq_verdict (c : Config) : c.validate = verdict c.windowMs c.maxCacheSize := rfl

theorem verdict_eq_ok_iff {w m : UInt64} :
    verdict w m = .ok () ↔ 0 < w.toNat ∧ 0 < m.toNat :=
  validate_eq_ok_iff

theorem verdict_of_zero_window {w : UInt64} (hw : w = 0) (m : UInt64) :
    verdict w m = .error .invalidWindow :=
  if_pos hw

theorem verdict_of_zero_cacheSize {w m : UInt64} (hw : w ≠ 0) (hm : m = 0) :
    verdict w m = .error .invalidCacheSize :=
  (if_neg hw).trans (if_pos hm)

theorem verdict_of_ne_zero {w m : UInt64} (hw : w ≠ 0) (hm : m ≠ 0) : verdict w m = .ok () :=
  (if_neg hw).trans (if_neg hm)

theorem create_eq_verdict (w m : UInt64) :
    create w m = (verdict w m).map fun _ => { windowMs := w, maxCacheSize := m } := by
  unfold create
  dsimp only
  rw [validate_eq_verdict]
  cases verdict w m <;> rfl

end Config

theorem Detector.map_config_create (c : Config) (clock : Clock) :
    (create c clock).map config = c.validate.map fun _ => c := by
  unfold create
  split
  next h => exact congrArg (Except.map fun _ => c) h.symm
  next e h => exact congrArg (Except.map fun _ => c) h.symm

open Config (verdict)

namespace Draft

variable {settings : List Setting}

/-- The choices of settings with this window and this bound. -/
def chosen (settings : List Setting) (w m : UInt64) : Config where
  windowMs := w
  maxCacheSize := m
  width := (last? Setting.width? settings).getD .bits64
  policy := (last? Setting.policy? settings).getD .recency
  timeBase := (last? Setting.timeBase? settings).getD .clock

theorem build_of_last {w m : UInt64} (hw : last? Setting.windowMs? settings = some w)
    (hm : last? Setting.maxCacheSize? settings = some m) :
    (settings.foldl set {}).build = (verdict w m).map fun _ => chosen settings w m := by
  rw [foldl_set]
  unfold build ofLast
  rw [hw, hm]
  dsimp only
  rw [Config.validate_eq_verdict]
  cases verdict w m <;> rfl

theorem build_of_first {flaw : Flaw} (h : Flaw.first? settings = some flaw) :
    (settings.foldl set {}).build = .error flaw.error := by
  rw [Flaw.first?_eq] at h
  cases hw : last? Setting.windowMs? settings with
  | none =>
    rw [hw] at h
    cases h
    rw [foldl_set]
    simp only [build, ofLast, hw, Flaw.error]
  | some w =>
    cases hm : last? Setting.maxCacheSize? settings with
    | none =>
      rw [hw, hm] at h
      cases h
      rw [foldl_set]
      simp only [build, ofLast, hw, hm, Flaw.error]
    | some m =>
      rw [hw, hm] at h
      dsimp only at h
      rw [build_of_last hw hm]
      split at h
      next hzero =>
        cases h
        rw [Config.verdict_of_zero_window hzero]
        rfl
      next hzero =>
        split at h
        next hnone =>
          cases h
          rw [Config.verdict_of_zero_cacheSize hzero hnone]
          rfl
        next => cases h

theorem build_of_no_flaw (h : Flaw.first? settings = none) :
    ∃ w m, last? Setting.windowMs? settings = some w ∧
      last? Setting.maxCacheSize? settings = some m ∧
      (settings.foldl set {}).build = .ok (chosen settings w m) := by
  unfold Flaw.first? at h
  rw [List.find?_eq_none] at h
  have hwindow := h .noWindow (by decide)
  have hcache := h .noCacheSize (by decide)
  have hzero := h .zeroWindow (by decide)
  have hnone := h .zeroCacheSize (by decide)
  simp only [Flaw.isIn, decide_eq_true_eq] at hwindow hcache hzero hnone
  obtain ⟨w, hw⟩ := Option.ne_none_iff_exists'.1 hwindow
  obtain ⟨m, hm⟩ := Option.ne_none_iff_exists'.1 hcache
  rw [hw, Option.some.injEq] at hzero
  rw [hm, Option.some.injEq] at hnone
  refine ⟨w, m, hw, hm, ?_⟩
  rw [build_of_last hw hm, Config.verdict_of_ne_zero hzero hnone]
  rfl

end Draft

theorem Settings.filterConfig_eq_verdict (s : Settings) :
    s.filterConfig = ((verdict s.windowMs s.maxCacheSize).map fun _ =>
      ⟨s.windowMs, s.maxCacheSize, s.width, s.policy, .clock⟩).mapError .filter := by
  rw [filterConfig_eq]
  split
  next hzero =>
    rw [Config.verdict_of_zero_window hzero]
    rfl
  next hzero =>
    split
    next hnone =>
      rw [Config.verdict_of_zero_cacheSize hzero hnone]
      rfl
    next hnone =>
      rw [Config.verdict_of_ne_zero hzero hnone]
      rfl

/-- **All ways to a configuration agree.**  Settings given one by one, in any order and as often as
one likes, come to the last value of each field: the first flaw that these values have is the error,
and without one they are the configuration, with the defaults for what is not set.  A length of time
counts its whole milliseconds, at most as many as there is room for, and a configuration's own
window is kept.  For any window and bound there is one verdict, which accepts exactly what is above
zero; a configuration made from the two numbers, one built, one that is validated, from JSON text or
not, a detector and the settings of a process all come to it, and what they accept they take as it
is. -/
theorem Config.all_ways_agree :
    (∀ settings : List Setting,
      (∀ flaw, Flaw.first? settings = some flaw →
        (settings.foldl Draft.set {}).build = .error flaw.error) ∧
      (Flaw.first? settings = none → ∃ w m, last? Setting.windowMs? settings = some w ∧
        last? Setting.maxCacheSize? settings = some m ∧
        (settings.foldl Draft.set {}).build = .ok {
          windowMs := w
          maxCacheSize := m
          width := (last? Setting.width? settings).getD .bits64
          policy := (last? Setting.policy? settings).getD .recency
          timeBase := (last? Setting.timeBase? settings).getD .clock })) ∧
    (∀ len : Duration, ∃ ms, Setting.windowMs? (.window len) = some ms ∧
      ms.toNat = min (len.nanoseconds / 1000000) (2 ^ 64 - 1)) ∧
    (∀ (c : Config) (d : Draft), (d.set (.window c.window)).windowMs = some c.windowMs) ∧
    ∀ w m : UInt64, ∃ verdict : Except FilterError Unit,
      (verdict = .ok () ↔ 0 < w.toNat ∧ 0 < m.toNat) ∧
      (w = 0 → verdict = .error .invalidWindow) ∧
      (w ≠ 0 → m = 0 → verdict = .error .invalidCacheSize) ∧
      create w m = verdict.map (fun _ => ⟨w, m, .bits64, .recency, .clock⟩) ∧
      (∀ settings, last? Setting.windowMs? settings = some w →
        last? Setting.maxCacheSize? settings = some m →
        ∃ width policy timeBase, (settings.foldl Draft.set {}).build =
          verdict.map fun _ => ⟨w, m, width, policy, timeBase⟩) ∧
      (∀ c : Config, c.windowMs = w → c.maxCacheSize = m →
        Json.readText readJson (String.ofList c.toJson) = .ok c ∧ c.validate = verdict ∧
        ∀ clock, (Detector.create c clock).map Detector.config = verdict.map fun _ => c) ∧
      ∀ s : Settings, s.windowMs = w → s.maxCacheSize = m →
        s.filterConfig =
          (verdict.map fun _ => ⟨w, m, s.width, s.policy, .clock⟩).mapError .filter := by
  refine ⟨fun settings => ⟨fun flaw h => Draft.build_of_first h, Draft.build_of_no_flaw⟩,
    Setting.toNat_windowMs?_window, fun c d => congrArg some (saturatedMs_window c), fun w m =>
      ⟨verdict w m, verdict_eq_ok_iff, fun hw => verdict_of_zero_window hw m,
        verdict_of_zero_cacheSize, create_eq_verdict w m, ?_, ?_, ?_⟩⟩
  · intro settings hw hm
    exact ⟨_, _, _, Draft.build_of_last hw hm⟩
  · rintro c rfl rfl
    exact ⟨c.reads_toJson.readText, c.validate_eq_verdict, Detector.map_config_create c⟩
  · rintro s rfl rfl
    exact s.filterConfig_eq_verdict

/-- Settings that take back what they gave: a window of less than a millisecond and one of more than
64 bits, no bound and a bound of three.  Without room for a signature every way refuses. -/
theorem Config.all_ways_agree_zero_bound :
    ([.windowMs 7, .maxCacheSize 0, .window ⟨999999⟩].foldl Draft.set {}).build =
        .error .invalidWindow ∧
      ([.windowMs 7, .maxCacheSize 0, .window ⟨999999⟩, .policy .firstInsertion,
        .window ⟨2 ^ 64 * 1000000 + 5⟩, .maxCacheSize 3].foldl Draft.set {}).build =
          .ok ⟨0xffffffffffffffff, 3, .bits64, .firstInsertion, .clock⟩ ∧
      (∃ width policy timeBase,
        ([.maxCacheSize 0, .windowMs 0, .windowMs 7].foldl Draft.set {}).build =
        (Except.error .invalidCacheSize).map fun _ : Unit => ⟨7, 0, width, policy, timeBase⟩) ∧
      create 7 0 = .error .invalidCacheSize ∧
      Config.validate ⟨7, 0, .bits32, .recency, .frameArrival⟩ = .error .invalidCacheSize ∧
      (Detector.create ⟨7, 0, .bits32, .recency, .frameArrival⟩ ⟨0⟩).map Detector.config =
        .error .invalidCacheSize ∧
      Settings.filterConfig { windowMs := 7, maxCacheSize := 0 } =
        .error (.filter .invalidCacheSize) := by
  obtain ⟨hbuilt, -, -, hways⟩ := all_ways_agree
  obtain ⟨verdict, -, -, hcache, hcreate, hset, hconfig, hsettings⟩ := hways 7 0
  cases hcache (by decide) rfl
  obtain ⟨-, hvalidate, hdetector⟩ := hconfig ⟨7, 0, .bits32, .recency, .frameArrival⟩ rfl rfl
  obtain ⟨w, m, hw, hm, hok⟩ := (hbuilt [.windowMs 7, .maxCacheSize 0, .window ⟨999999⟩,
    .policy .firstInsertion, .window ⟨2 ^ 64 * 1000000 + 5⟩, .maxCacheSize 3]).2 (by decide)
  cases hw
  cases hm
  exact ⟨(hbuilt _).1 .zeroWindow (by decide), hok, hset _ (by decide) (by decide), hcreate,
    hvalidate, hdetector ⟨0⟩, hsettings { windowMs := 7, maxCacheSize := 0 } rfl rfl⟩

end EchoFilter
