import EchoFilter.Proofs.Leniency
import EchoFilter.Proofs.RoundTrips

/-!
# Admission — what JSON text lets in as a frame

A frame is read with the limits of ids and payloads tested on the way, deep inside the text.
`Frame.Raw` is what a text says with no such test.  Whatever is read as a frame is read as its raw
values too (`Frame.extends_raw`), so nothing is masked or cut to make a frame fit.  A text of raw
values, whatever the order of its entries and whatever else they hold, is read as the frame made
from the values, or fails at the first one beyond its limits (`Frame.Raw.Carries.yields_object`,
`Frame.Raw.yields_array`).
-/

namespace EchoFilter

open Json

namespace Frame

/-- The values of a frame that may be beyond its limits. -/
structure Raw where
  id : UInt32
  bytes : List UInt8
  timestamp : UInt64
  interface : String
  deriving DecidableEq, Repr

def raw (f : Frame) : Raw :=
  ⟨f.id.raw, f.payload.bytes, f.timestamp, f.interface⟩

namespace Raw

/-- The frame of the values, if there is one. -/
def toFrame (r : Raw) : Except FrameError Frame :=
  Frame.ofRaw r.id r.bytes r.timestamp r.interface

/-- The values read so far. -/
structure Fields where
  id : Option Nat := none
  bytes : Option (List Nat) := none
  timestamp : Option Nat := none
  interface : Option String := none

/-- The record of a frame with no test of its limits. -/
def record : Json.Record Fields Raw where
  start := {}
  fields := [
    .of "id" (Json.natural UInt32.size) Fields.id fun acc x => { acc with id := some x },
    .of "payload" (Json.array (Json.natural UInt8.size)) Fields.bytes
      fun acc x => { acc with bytes := some x },
    .of "timestamp_ms" (Json.natural UInt64.size) Fields.timestamp
      fun acc x => { acc with timestamp := some x },
    .of "interface" Json.string Fields.interface fun acc x => { acc with interface := some x }]
  finish acc :=
    match acc with
    | ⟨some id, some bytes, some timestamp, some interface⟩ =>
      some {
        id := UInt32.ofNat id
        bytes := bytes.map UInt8.ofNat
        timestamp := UInt64.ofNat timestamp
        interface }
    | _ => none

def readJson : Json.Reader Raw :=
  record.read

end Raw

end Frame

/-! ## What is read is what the text says -/

theorem ArbitrationId.extends_raw :
    Extends (fun id : ArbitrationId => id.raw.toNat) readJson (natural UInt32.size) := by
  intro s id rest h
  obtain ⟨n, hn, hid⟩ := exists_of_checked h
  have hlt : n < UInt32.size := natural_lt hn
  have hback : (UInt32.ofNat n).toNat = n := by
    rw [UInt32.toNat_ofNat']
    exact Nat.mod_eq_of_lt hlt
  dsimp only
  rw [hn, raw_of_ofRaw hid, hback]

theorem Payload.extends_bytes :
    Extends (fun p : Payload => p.bytes.map UInt8.toNat) readJson (array (natural UInt8.size)) := by
  intro s p rest h
  obtain ⟨ns, hns, hp⟩ := exists_of_checked h
  have hlt : ∀ n ∈ ns, n < UInt8.size := forall_mem_of_array (fun _ _ _ => natural_lt) hns
  have hback : (ns.map UInt8.ofNat).map UInt8.toNat = ns := by
    rw [List.map_map]
    refine (List.map_congr_left fun n hn => ?_).trans (List.map_id ns)
    show (UInt8.ofNat n).toNat = n
    rw [UInt8.toNat_ofNat']
    exact Nat.mod_eq_of_lt (hlt n hn)
  dsimp only
  rw [hns, bytes_of_ofBytes hp, hback]

theorem Payload.eq_iff {p q : Payload} : p = q ↔ p.bytes = q.bytes := by
  cases p
  cases q
  rw [Payload.mk.injEq]

namespace Frame

/-- The raw values of the fields of a frame. -/
def Fields.raw (acc : Fields) : Raw.Fields where
  id := acc.id.map fun id => id.raw.toNat
  bytes := acc.payload.map fun p => p.bytes.map UInt8.toNat
  timestamp := acc.timestamp
  interface := acc.interface

theorem finish_raw {acc : Fields} {f : Frame} (h : record.finish acc = some f) :
    Raw.record.finish acc.raw = some f.raw := by
  simp only [record] at h
  split at h
  next id payload timestamp interface =>
    cases h
    show some (Raw.mk _ _ _ _) = some (Raw.mk _ _ _ _)
    rw [UInt32.ofNat_toNat, Bytes.back]
  · cases h

theorem extends_raw : Extends raw readJson Raw.readJson := by
  refine read_extends (φ := Fields.raw) rfl ?_ fun _ _ => finish_raw
  exact .cons (extends_field ArbitrationId.extends_raw _ (fun _ => rfl) fun _ _ => rfl)
    (.cons (extends_field Payload.extends_bytes _ (fun _ => rfl) fun _ _ => rfl)
      (.cons (extends_field_same _ _ (fun _ => rfl) fun _ _ => rfl)
        (.cons (extends_field_same _ _ (fun _ => rfl) fun _ _ => rfl) .nil)))

/-! ## Texts of raw values -/

/-- The values that make up a frame. -/
inductive Part where
  | id
  | payload
  | timestamp
  | interface
  deriving DecidableEq, Repr

namespace Part

/-- The order of declaration. -/
def order : List Part :=
  [.id, .payload, .timestamp, .interface]

def name : Part → String
  | .id => "id"
  | .payload => "payload"
  | .timestamp => "timestamp_ms"
  | .interface => "interface"

/-- The texts of a value: a string in any spelling, an array with any spaces in it, and a number in
the one form that whole numbers have. -/
def Writes (raw : Raw) : Part → List Char → Prop
  | .id, text => text = Write.natural raw.id.toNat
  | .payload, text => ∃ items, text = bracketed items ∧ Bytes items raw.bytes
  | .timestamp, text => text = Write.natural raw.timestamp.toNat
  | .interface, text => ∃ form, text = quoted form ∧ Spells form raw.interface.toList

/-- What is wrong with a value, if anything. -/
def fault? (raw : Raw) : Part → Option FrameError
  | .id =>
    match ArbitrationId.ofRaw raw.id with
    | .error e => some e
    | .ok _ => none
  | .payload =>
    match Payload.ofBytes raw.bytes with
    | .error e => some e
    | .ok _ => none
  | .timestamp | .interface => none

theorem mem_order (p : Part) : p ∈ order := by
  cases p <;> decide

/-- The field that a value is read into. -/
def field : Part → Json.Field Fields
  | .id => .of "id" ArbitrationId.readJson Fields.id fun acc x => { acc with id := some x }
  | .payload => .of "payload" Payload.readJson Fields.payload
      fun acc x => { acc with payload := some x }
  | .timestamp => .of "timestamp_ms" (Json.natural UInt64.size) Fields.timestamp
      fun acc x => { acc with timestamp := some x }
  | .interface => .of "interface" Json.string Fields.interface
      fun acc x => { acc with interface := some x }

theorem fields_record : record.fields = order.map field := rfl

theorem find?_name (p : Part) : (record.fields.find? fun f => f.name = p.name) = some p.field := by
  cases p <;> rfl

theorem find?_other {name : String} (h : ∀ p : Part, name ≠ p.name) :
    (record.fields.find? fun f => f.name = name) = none := by
  rw [fields_record, List.find?_eq_none]
  intro f hf
  obtain ⟨p, -, rfl⟩ := List.mem_map.1 hf
  have hp := h p
  have hname : p.field.name = p.name := by cases p <;> rfl
  rw [hname, decide_eq_true_eq]
  exact hp.symm

end Part

namespace Raw

variable {raw : Raw}

/-- The fields once some of the values are read and found good. -/
def taken (raw : Raw) (seen : List Part) : Frame.Fields where
  id := if .id ∈ seen then (ArbitrationId.ofRaw raw.id).toOption else none
  payload := if .payload ∈ seen then (Payload.ofBytes raw.bytes).toOption else none
  timestamp := if .timestamp ∈ seen then some raw.timestamp.toNat else none
  interface := if .interface ∈ seen then some raw.interface else none

theorem given_taken {p : Part} {seen : List Part} (hp : p ∉ seen) :
    p.field.given (raw.taken seen) = false := by
  cases p <;> simp [Part.field, Field.of, taken, hp]

theorem taken_congr {seen seen' : List Part} (h : ∀ p, p ∈ seen ↔ p ∈ seen') :
    raw.taken seen = raw.taken seen' := by
  simp only [taken, h]

theorem yields_part {p : Part} {text : List Char} (h : p.Writes raw text) (seen : List Part) :
    Yields (p.field.read (raw.taken seen)) text
      (match p.fault? raw with
        | some e => .error (.data (some e))
        | none => .ok (raw.taken (p :: seen))) := by
  cases p with
  | id =>
    cases h
    have hyields := ArbitrationId.yields_raw raw.id
    dsimp only [Part.fault?]
    cases hid : ArbitrationId.ofRaw raw.id with
    | error e =>
      rw [hid] at hyields
      exact yields_field hyields ..
    | ok i =>
      rw [hid] at hyields
      have hnext : { raw.taken seen with id := some i } = raw.taken (.id :: seen) := by
        simp [taken, hid, Except.toOption]
      rw [← hnext]
      exact yields_field hyields ..
  | payload =>
    obtain ⟨items, rfl, hitems⟩ := h
    have hyields := Payload.yields_bytes hitems
    dsimp only [Part.fault?]
    cases hbytes : Payload.ofBytes raw.bytes with
    | error e =>
      rw [hbytes] at hyields
      exact yields_field hyields ..
    | ok p =>
      rw [hbytes] at hyields
      have hnext : { raw.taken seen with payload := some p } = raw.taken (.payload :: seen) := by
        simp [taken, hbytes, Except.toOption]
      rw [← hnext]
      exact yields_field hyields ..
  | timestamp =>
    cases h
    have hnext : { raw.taken seen with timestamp := some raw.timestamp.toNat } =
        raw.taken (.timestamp :: seen) := by
      simp [taken]
    rw [← hnext]
    exact yields_field (reads_natural (Nat.le_refl _) raw.timestamp.toNat_lt) ..
  | interface =>
    obtain ⟨form, rfl, hform⟩ := h
    have hnext : { raw.taken seen with interface := some raw.interface } =
        raw.taken (.interface :: seen) := by
      simp [taken]
    have hstring := reads_quoted hform
    rw [String.ofList_toList] at hstring
    rw [← hnext]
    exact yields_field hstring ..

/-- What reading values one after another comes to, after some others: the fields with all of them,
or the first fault. -/
def gathered (raw : Raw) (seen parts : List Part) : Except Fault Frame.Fields :=
  match parts.findSome? (Part.fault? raw) with
  | some e => .error (.data (some e))
  | none => .ok (raw.taken (parts.reverse ++ seen))

theorem gathered_of_fault {p : Part} {e : FrameError} (h : p.fault? raw = some e)
    (seen parts : List Part) : raw.gathered seen (p :: parts) = .error (.data (some e)) := by
  rw [gathered, List.findSome?_cons, h]

theorem gathered_of_good {p : Part} (h : p.fault? raw = none) (seen parts : List Part) :
    raw.gathered seen (p :: parts) = raw.gathered (p :: seen) parts := by
  rw [gathered, List.findSome?_cons, h, List.reverse_cons, List.append_assoc]
  rfl

/-- The entries of an object that hold the values of some parts, and between them entries under
other names that hold scalars. -/
inductive Carries (raw : Raw) : List (String × List Char) → List Part → Prop where
  | nil : Carries raw [] []
  | part {p : Part} {text : List Char} {es : List (String × List Char)} {parts : List Part}
      (hwrites : p.Writes raw text) (h : Carries raw es parts) :
      Carries raw ((p.name, text) :: es) (p :: parts)
  | other {name : String} {text : List Char} {es : List (String × List Char)} {parts : List Part}
      (hname : ∀ p : Part, name ≠ p.name) (hscalar : Scalar text) (h : Carries raw es parts) :
      Carries raw ((name, text) :: es) parts

theorem Carries.gathers {es : List (String × List Char)} {parts : List Part}
    (h : Carries raw es parts) {seen : List Part} (hnodup : (parts.reverse ++ seen).Nodup) :
    Gathers Frame.record.fields (raw.taken seen) es (raw.gathered seen parts) := by
  induction h generalizing seen with
  | nil => exact .nil _
  | @part p text es parts hwrites _ ih =>
    rw [List.reverse_cons, List.append_assoc] at hnodup
    have hnew : p ∉ seen := (List.nodup_cons.1 hnodup.of_append_right).1
    have hread := yields_part hwrites seen
    cases hfault : p.fault? raw with
    | some e =>
      rw [hfault] at hread
      rw [gathered_of_fault hfault]
      exact .stop _ p.find?_name (given_taken hnew) hread
    | none =>
      rw [hfault] at hread
      rw [gathered_of_good hfault]
      exact .cons _ p.find?_name (given_taken hnew) hread (ih hnodup)
  | other hname hscalar _ ih => exact .skip (Part.find?_other hname) hscalar (ih hnodup)

theorem fills {texts : List (List Char)} {parts : List Part}
    (h : List.Forall₂ (fun text (p : Part) => p.Writes raw text) texts parts) (seen : List Part) :
    Fills (parts.map Part.field) (raw.taken seen) texts (raw.gathered seen parts) := by
  induction h generalizing seen with
  | nil => exact .nil _
  | @cons text p texts parts hwrites _ ih =>
    have hread := yields_part hwrites seen
    cases hfault : p.fault? raw with
    | some e =>
      rw [hfault] at hread
      rw [gathered_of_fault hfault]
      exact .stop hread
    | none =>
      rw [hfault] at hread
      rw [gathered_of_good hfault]
      exact .cons hread (ih _)

/-! ## Whole frames -/

theorem findSome?_order (raw : Raw) :
    Part.order.findSome? (Part.fault? raw) =
      match raw.toFrame with
      | .error e => some e
      | .ok _ => none := by
  unfold toFrame Frame.ofRaw
  cases hid : ArbitrationId.ofRaw raw.id with
  | error e => simp [Part.order, Part.fault?, hid]
  | ok id =>
    cases hbytes : Payload.ofBytes raw.bytes <;> simp [Part.order, Part.fault?, hid, hbytes]

theorem fault?_of_ok {f : Frame} (h : raw.toFrame = .ok f) (p : Part) : p.fault? raw = none := by
  have hnone := raw.findSome?_order
  rw [h, List.findSome?_eq_none_iff] at hnone
  exact hnone p p.mem_order

theorem finish_taken {f : Frame} (h : raw.toFrame = .ok f) :
    Frame.record.finish (raw.taken Part.order) = some f := by
  unfold toFrame Frame.ofRaw at h
  split at h
  · cases h
  next id hid =>
    split at h
    · cases h
    next payload hbytes =>
      cases h
      simp [Frame.record, taken, Part.order, hid, hbytes, Except.toOption]

variable {parts : List Part}

theorem finished_of_ok (hparts : parts.Perm Part.order) {f : Frame} (h : raw.toFrame = .ok f) :
    finished Frame.record (raw.gathered [] parts) = .ok f := by
  have hnone : parts.findSome? (Part.fault? raw) = none :=
    List.findSome?_eq_none_iff.2 fun p _ => fault?_of_ok h p
  have htaken : raw.taken (parts.reverse ++ []) = raw.taken Part.order :=
    taken_congr fun p => by rw [List.append_nil, List.mem_reverse, hparts.mem_iff]
  rw [gathered, hnone, htaken, finished, Except.bind, finish_taken h]

theorem finished_of_fault {e : FrameError} (h : parts.findSome? (Part.fault? raw) = some e) :
    finished Frame.record (raw.gathered [] parts) = .error (.data (some e)) := by
  rw [gathered, h]
  rfl

theorem finished_order (raw : Raw) :
    finished Frame.record (raw.gathered [] Part.order) =
      raw.toFrame.mapError fun e => .data (some e) := by
  have hfirst := raw.findSome?_order
  cases h : raw.toFrame with
  | ok f => exact finished_of_ok (List.Perm.refl _) h
  | error e =>
    rw [h] at hfirst
    exact finished_of_fault hfirst

-- Only two values have limits, and the id comes first in a frame.
theorem exists_fault_of_error (hparts : parts.Perm Part.order) {e : FrameError}
    (h : raw.toFrame = .error e) :
    ∃ e', parts.findSome? (Part.fault? raw) = some e' ∧
      (e' = e ∨ Payload.ofBytes raw.bytes = .error e') := by
  have hsome := raw.findSome?_order
  rw [h] at hsome
  obtain ⟨p, -, hp⟩ := List.exists_of_findSome?_eq_some hsome
  cases hfirst : parts.findSome? (Part.fault? raw) with
  | none =>
    rw [List.findSome?_eq_none_iff] at hfirst
    rw [hfirst p (hparts.mem_iff.2 p.mem_order)] at hp
    cases hp
  | some e' =>
    refine ⟨e', rfl, ?_⟩
    obtain ⟨q, -, hq⟩ := List.exists_of_findSome?_eq_some hfirst
    cases q with
    | id =>
      rw [Part.order, List.findSome?_cons, hq, Option.some.injEq] at hsome
      exact Or.inl hsome
    | payload =>
      cases hbytes : Payload.ofBytes raw.bytes with
      | error e'' =>
        simp only [Part.fault?, hbytes, Option.some.injEq] at hq
        exact Or.inr (congrArg Except.error hq)
      | ok p => simp [Part.fault?, hbytes] at hq
    | timestamp => cases hq
    | interface => cases hq

theorem start_record : Frame.record.start = raw.taken [] := by
  simp [Frame.record, taken]

theorem Carries.yields_object {es : List (String × List Char)} (h : Carries raw es parts)
    (hparts : parts.Perm Part.order) {items : List Char} (hitems : Listed Shows items es) :
    Yields Frame.readJson (braced items) (finished Frame.record (raw.gathered [] parts)) := by
  have hnodup : (parts.reverse ++ []).Nodup := by
    rw [List.append_nil, List.nodup_reverse, hparts.nodup_iff]
    decide
  have hgathers := h.gathers hnodup
  rw [← start_record] at hgathers
  exact Json.yields_object hgathers hitems

theorem yields_array {items : List Char}
    (h : Listed (fun item (p : Part) => p.Writes raw item) items Part.order) :
    Yields Frame.readJson (bracketed items) (raw.toFrame.mapError fun e => .data (some e)) := by
  obtain ⟨texts, htexts, hitems⟩ := h.exists_texts
  have hfills := fills htexts []
  rw [← start_record] at hfills
  rw [← finished_order]
  exact Json.yields_array hfills hitems

end Raw

/-- **No JSON text lets in what is not a frame.**  Whatever text reads as a frame, an id or a
payload, its limits hold, it is what the constructor makes of its values, and they are the values
that the text holds.  Conversely, take any values: the object that gives them in any order, with
entries under other names that hold scalars, and the array that gives them in the order of
declaration, read as the frame that the constructor makes of them.  If it makes none, the text is
refused as data of the wrong kind, with the constructor's reason, or with that of the payload where
an object gives it in front of a wrong id. -/
theorem text_admits_only_frames :
    (∀ text f, readText readJson text = .ok f →
      f.id.raw.toNat ≤ 0x1FFFFFFF ∧ f.payload.bytes.length ≤ 8 ∧
      ofRaw f.id.raw f.payload.bytes f.timestamp f.interface = .ok f ∧
      readText Raw.readJson text = .ok f.raw) ∧
    (∀ text id, readText ArbitrationId.readJson text = .ok id →
      id.raw.toNat ≤ 0x1FFFFFFF ∧ ArbitrationId.ofRaw id.raw = .ok id ∧
      readText (natural UInt32.size) text = .ok id.raw.toNat) ∧
    (∀ text p, readText Payload.readJson text = .ok p →
      p.bytes.length ≤ 8 ∧ Payload.ofBytes p.bytes = .ok p ∧
      readText (array (natural UInt8.size)) text = .ok (p.bytes.map UInt8.toNat)) ∧
    (∀ p q : Payload, p = q ↔ p.bytes = q.bytes) ∧
    (∀ (raw : Raw) (text : String) items es parts, Holds text (braced items) →
      Listed Shows items es → raw.Carries es parts → parts.Perm Part.order →
      (∀ f, raw.toFrame = .ok f → readText readJson text = .ok f) ∧
      (∀ e, raw.toFrame = .error e → ∃ e', readText readJson text = .error (.data (some e')) ∧
        parts.findSome? (Part.fault? raw) = some e' ∧
        (e' = e ∨ Payload.ofBytes raw.bytes = .error e'))) ∧
    (∀ (raw : Raw) (text : String) items, Holds text (bracketed items) →
      Listed (fun item (p : Part) => p.Writes raw item) items Part.order →
      readText readJson text = raw.toFrame.mapError fun e => .data (some e)) ∧
    (∀ (id : UInt32) (text : String), Holds text (Write.natural id.toNat) →
      readText ArbitrationId.readJson text =
        (ArbitrationId.ofRaw id).mapError fun e => .data (some e)) ∧
    (∀ (bytes : List UInt8) (text : String) items, Holds text (bracketed items) →
      Bytes items bytes →
      readText Payload.readJson text =
        (Payload.ofBytes bytes).mapError fun e => .data (some e)) := by
  refine ⟨fun text f h =>
      ⟨f.id.raw_le, f.payload.length_le, ofRaw_fields f, extends_raw.readText h⟩,
    fun text id h => ⟨id.raw_le, id.ofRaw_raw, ArbitrationId.extends_raw.readText h⟩,
    fun text p h => ⟨p.length_le, p.ofBytes_bytes, Payload.extends_bytes.readText h⟩,
    fun p q => Payload.eq_iff, ?_, ?_, ?_, ?_⟩
  · intro raw text items es parts htext hitems hcarries hparts
    have hread := (hcarries.yields_object hparts hitems).readText_of_holds htext
    refine ⟨fun f hf => hread.trans (Raw.finished_of_ok hparts hf), fun e he => ?_⟩
    obtain ⟨e', hfirst, hreason⟩ := Raw.exists_fault_of_error hparts he
    exact ⟨e', hread.trans (Raw.finished_of_fault hfirst), hfirst, hreason⟩
  · intro raw text items htext hitems
    exact (Raw.yields_array hitems).readText_of_holds htext
  · intro id text htext
    exact (ArbitrationId.yields_raw id).readText_of_holds htext
  · intro bytes text items htext hitems
    exact (Payload.yields_bytes hitems).readText_of_holds htext

/-- An object out of order, with an escape in a name, a space and one entry too many; and an array
of values that are both beyond their limits, alone as well. -/
theorem text_admits_only_frames_two_texts :
    (∃ (text : String) (f : Frame), f.raw = ⟨291, [1, 255], 7, "can0"⟩ ∧
      text = "\x7b\"payload\":[1, 255],\"x\":-1.5e+3,\"timestamp_ms\":7,\"\\u0069d\":291,"
        ++ "\"interface\":\"can0\"\x7d" ∧
        readText readJson text = .ok f ∧ readText Raw.readJson text = .ok f.raw) ∧
      readText readJson "[536870912,[1,1,1,1,1,1,1,1,1],0,\"\"]" =
        .error (.data (some (.invalidId 536870912))) ∧
      readText ArbitrationId.readJson "536870912" = .error (.data (some (.invalidId 536870912))) ∧
      readText Payload.readJson "[1,1,1,1,1,1,1,1,1]" =
        .error (.data (some (.payloadTooLong 9 8))) := by
  obtain ⟨hforth, -, -, -, hobject, harray, hid, hbytes⟩ := text_admits_only_frames
  have hdigits {ds : List Char} (hne : ds ≠ []) (h : ds.all Char.isDigit = true) : Digits ds :=
    ⟨hne, List.all_eq_true.1 h⟩
  have hnumber : IsNumber (['1'] ++ (['.', '5'] ++ ['e', '+', '3'])) :=
    .intro ⟨hdigits nofun rfl, nofun⟩ (.digits (hdigits nofun rfl))
      (@Exponent.digits 'e' ['+'] ['3'] (Or.inl rfl) (Or.inr (Or.inl rfl)) (hdigits nofun rfl))
  have hspace : Gap [' '] := by
    intro c hc
    rw [List.mem_singleton.1 hc]
    rfl
  have hpayload : Bytes ['1', ',', ' ', '2', '5', '5'] [1, 255] :=
    ⟨[['1'], [' ', '2', '5', '5']], [], .cons (padded_self (by decide +kernel))
      (.cons ⟨[' '], ['2', '5', '5'], [], hspace, by decide +kernel, gap_nil, rfl⟩ .nil), gap_nil,
      rfl⟩
  have hones : Bytes (Write.separated (List.replicate 9 ['1'])) (List.replicate 9 1) := by
    refine listed_separated ?_
    iterate 9 refine .cons (by decide +kernel) ?_
    exact .nil
  have hescaped : Spells ['\\', 'u', '0', '0', '6', '9', 'd'] ['i', 'd'] :=
    @Spells.number '0' '0' '6' '9' 0x69 ['d'] ['d'] (by decide +kernel) rfl rfl
      (.plain (by decide) (by decide) (by decide) .nil)
  have hid291 : Shows (quoted ['\\', 'u', '0', '0', '6', '9', 'd'] ++ [':', '2', '9', '1'])
      ("id", ['2', '9', '1']) := ⟨_, [], [], hescaped, gap_nil, gap_nil, rfl⟩
  have hcarries : Raw.Carries ⟨291, [1, 255], 7, "can0"⟩
      [("payload", bracketed ['1', ',', ' ', '2', '5', '5']),
        ("x", ['-', '1', '.', '5', 'e', '+', '3']),
        ("timestamp_ms", ['7']), ("id", ['2', '9', '1']), ("interface", Write.string "can0")]
      [.payload, .timestamp, .id, .interface] :=
    .part (p := .payload) ⟨_, rfl, hpayload⟩
      (.other (by intro p; cases p <;> decide) (.negative hnumber)
        (.part (p := .timestamp) (by decide +kernel : ['7'] = Write.natural 7)
          (.part (p := .id) (by decide +kernel : ['2', '9', '1'] = Write.natural 291)
            (.part (p := .interface) ⟨_, rfl, spells_flatMap _⟩ .nil))))
  have hread := (hobject _
    ("\x7b\"payload\":[1, 255],\"x\":-1.5e+3,\"timestamp_ms\":7,\"\\u0069d\":291,"
      ++ "\"interface\":\"can0\"\x7d")
    _ _ _ (padded_self rfl)
    (listed_separated (.cons (shows_entry _) (.cons (shows_entry _) (.cons (shows_entry _)
      (.cons hid291 (.cons (shows_entry _) .nil))))))
    hcarries (by decide)).1 ⟨⟨291, by decide⟩, ⟨[1, 255], by decide⟩, 7, "can0"⟩ (by decide)
  refine ⟨⟨_, _, rfl, rfl, hread, (hforth _ _ hread).2.2.2⟩, ?_, ?_, ?_⟩
  · refine harray ⟨536870912, List.replicate 9 1, 0, ""⟩ _ _ (padded_self rfl)
      (listed_separated (.cons (rfl : Write.natural 536870912 = _)
        (.cons ⟨_, rfl, hones⟩ (.cons (by decide +kernel : ['0'] = Write.natural 0)
          (.cons ⟨[], rfl, .nil⟩ .nil)))))
  · exact hid 536870912 _ (padded_self (by decide +kernel))
  · exact hbytes (List.replicate 9 1) _ _ (padded_self rfl) hones

end Frame

end EchoFilter
