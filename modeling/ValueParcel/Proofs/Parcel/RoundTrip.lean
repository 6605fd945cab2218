import ValueParcel.Parcel.Transfer
import ValueParcel.Proofs.Parcel.Codec

/-!
Values come out of a parcel as they went in. Between two slots the place of the next record is where the bytes of the
slots behind it end, which is the invariant of reading.
-/

namespace ValueParcel

/-! ## Records in a parcel -/

namespace Parcel

/-- A parcel of which `before` has been read and `after` has not. -/
def between (before after : List UInt8) : Parcel := ⟨before ++ after, before.length⟩

variable (before after : List UInt8)

theorem isExhausted_between : (between before after).isExhausted = true ↔ after = [] := by
  simp only [isExhausted, between, decide_eq_true_eq, List.length_append, ← List.length_eq_zero_iff]
  omega

theorem read_of_isExhausted {p : Parcel} (h : p.isExhausted = true) (tag : String) :
    p.read tag = (.error .endOfParcel, p) := by
  have hp : p.position ≥ p.data.length := by simpa [isExhausted] using h
  rw [read, if_pos hp]

/-- The place moves behind the next record, whether it stands under the tag or not. -/
theorem read_between_record {r : Record} (h : r.Fits) (tag : String) :
    (between before (r.encode ++ after)).read tag =
      (if r.tag = tag then .ok r.value else .error (.tagMismatch tag r.tag), between (before ++ r.encode) after) := by
  have hp : ¬ before.length ≥ (before ++ (r.encode ++ after)).length := by
    have := List.length_pos_iff.2 r.encode_ne_nil
    simp only [List.length_append]
    omega
  have hq : (before ++ (r.encode ++ after)).length - after.length = (before ++ r.encode).length := by
    simp only [List.length_append]
    omega
  simp only [read, between, if_neg hp, List.drop_left, Record.decode_encode h, hq, List.append_assoc]
  split <;> rfl

/-- Under its own tag the next record is read, and the place moves behind it. -/
theorem read_between {r : Record} (h : r.Fits) :
    (between before (r.encode ++ after)).read r.tag = (.ok r.value, between (before ++ r.encode) after) := by
  rw [read_between_record before after h, if_pos rfl]

def flagRecord (present : Bool) : Record := ⟨intTag, .int (if present then 0 else 1)⟩

theorem fits_flagRecord (present : Bool) : (flagRecord present).Fits := by
  refine ⟨?_, trivial⟩
  change Bytes.IsCount intTag.toUTF8.size
  decide

theorem readPresence_between (present : Bool) :
    (between before ((flagRecord present).encode ++ after)).readPresence =
      (.ok present, between (before ++ (flagRecord present).encode) after) := by
  have h : (between before ((flagRecord present).encode ++ after)).read intTag = _ :=
    read_between before after (fits_flagRecord present)
  rw [readPresence, readInt, h]
  cases present <;> rfl

end Parcel

/-! ## Slots in a parcel -/

namespace Slot

open Parcel (between)

/-- The records that a slot writes for a value. -/
def records (s : Slot) (v : Value) : List Record :=
  (if s.presenceFlag then [Parcel.flagRecord (!v.isNull)] else []) ++ if s.omits v then [] else [⟨s.tag, v⟩]

def bytes (s : Slot) (v : Value) : List UInt8 := (s.records v).flatMap Record.encode

theorem bytes_ne_nil (s : Slot) (v : Value) : s.bytes v ≠ [] := by
  obtain ⟨r, hr⟩ : ∃ r, r ∈ s.records v := by
    by_cases h : s.presenceFlag = true
    · exact ⟨_, by simp [records, h]; exact .inl rfl⟩
    · exact ⟨⟨s.tag, v⟩, by simp [records, omits, h]⟩
  intro h
  exact r.encode_ne_nil (List.flatMap_eq_nil_iff.1 h r hr)

theorem write_eq (s : Slot) (v : Value) (p : Parcel) : s.write v p = { p with data := p.data ++ s.bytes v } := by
  have hf : s.writeFlag v p = { p with
      data := p.data ++ (if s.presenceFlag then [Parcel.flagRecord (!v.isNull)] else []).flatMap Record.encode } := by
    cases h : s.presenceFlag with
    | false => simp [writeFlag, h]
    | true => simp [writeFlag, h, Parcel.writePresence, Parcel.writeInt, Parcel.write, Parcel.flagRecord]
  cases ho : s.omits v with
  | false => simp [write, ho, hf, Parcel.write, bytes, records]
  | true => simp [write, ho, hf, bytes, records]

theorem fits_tag (s : Slot) : Bytes.IsCount s.tag.toUTF8.size := by
  unfold tag
  cases s.operation <;> decide

theorem eq_null_of_isNull {v : Value} (h : v.isNull = true) : v = .null := by
  cases v <;> first | rfl | cases h

theorem read_between (s : Slot) {v : Value} (h : v.Fits) (before after : List UInt8) :
    s.read (between before (s.bytes v ++ after)) = (.ok v, between (before ++ s.bytes v) after) := by
  have hr : ∀ before : List UInt8, (between before ((Record.mk s.tag v).encode ++ after)).read s.tag =
      (.ok v, between (before ++ (Record.mk s.tag v).encode) after) :=
    fun before => Parcel.read_between before after (r := ⟨s.tag, v⟩) ⟨s.fits_tag, h⟩
  have hp := Parcel.readPresence_between before
  cases hf : s.presenceFlag with
  | false => simp [read, hf, bytes, records, omits, hr]
  | true =>
      cases hn : v.isNull with
      | false => simp [read, hf, bytes, records, omits, hn, hp, hr]
      | true =>
          cases eq_null_of_isNull hn
          simp [read, hf, bytes, records, omits, Value.isNull, hp]

end Slot

/-! ## Layouts in a parcel -/

namespace Layout

open Parcel (between)

def bytes (slots : List Slot) (values : List Value) : List UInt8 := (List.zipWith Slot.bytes slots values).flatten

theorem writeSlots_eq (p : Parcel) (slots : List Slot) (values : List Value) :
    writeSlots p slots values = { p with data := p.data ++ bytes slots values } := by
  induction slots generalizing p values with
  | nil => simp [writeSlots, bytes]
  | cons s slots ih =>
      cases values with
      | nil => simp [writeSlots, bytes]
      | cons v values => simp [writeSlots, ih, s.write_eq, bytes]

theorem bytes_append {slots slots' : List Slot} {values values' : List Value} (h : slots.length = values.length) :
    bytes (slots ++ slots') (values ++ values') = bytes slots values ++ bytes slots' values' := by
  rw [bytes, List.zipWith_append h, List.flatten_append]
  rfl

theorem bytes_eq_nil {slots : List Slot} {values : List Value} (h : slots.length = values.length) :
    bytes slots values = [] ↔ slots = [] := by
  cases slots with
  | nil => simp [bytes]
  | cons s slots =>
      cases values with
      | nil => cases h
      | cons v values => simp [bytes, s.bytes_ne_nil v]

/-- Slots read the values that they have written, and read no further. -/
theorem readSlots_between {slots : List Slot} {values : List Value} (hl : slots.length = values.length)
    (hf : ∀ v ∈ values, v.Fits) (before after : List UInt8) :
    readSlots (between before (bytes slots values ++ after)) slots =
      (.ok values, between (before ++ bytes slots values) after) := by
  induction slots generalizing values before with
  | nil =>
      cases values with
      | nil => simp [readSlots, bytes]
      | cons v values => cases hl
  | cons s slots ih =>
      cases values with
      | nil => cases hl
      | cons v values =>
          rw [List.forall_mem_cons] at hf
          have hs := s.read_between hf.1 before (bytes slots values ++ after)
          have hr := ih (Nat.succ.inj hl) hf.2 (before ++ s.bytes v)
          have hb : bytes (s :: slots) (v :: values) = s.bytes v ++ bytes slots values := rfl
          rw [hb, List.append_assoc, readSlots, hs]
          dsimp only
          rw [hr, List.append_assoc]
          rfl

/-- Part way through, the slots that are left have something to read. -/
theorem readSlots_take (l : Layout) {values : List Value} (hl : values.length = l.slots.length)
    (hf : ∀ v ∈ values, v.Fits) {k : Nat} (hk : k ≤ l.slots.length) :
    ∃ p, readSlots (l.write values {}).rewind (l.slots.take k) = (.ok (values.take k), p) ∧
      (p.isExhausted = true ↔ k = l.slots.length) := by
  have ht : (l.slots.take k).length = (values.take k).length := by simp [hl]
  have hd : (l.slots.drop k).length = (values.drop k).length := by simp [hl]
  have hb : bytes l.slots values =
      bytes (l.slots.take k) (values.take k) ++ bytes (l.slots.drop k) (values.drop k) := by
    rw [← bytes_append ht, List.take_append_drop, List.take_append_drop]
  have hp : (l.write values {}).rewind = between [] (bytes l.slots values) := by
    simp [write, writeSlots_eq, Parcel.rewind, between]
  refine ⟨between (bytes (l.slots.take k) (values.take k)) (bytes (l.slots.drop k) (values.drop k)), ?_, ?_⟩
  · rw [hp, hb]
    exact readSlots_between ht (fun v hv => hf v (List.mem_of_mem_take hv)) [] _
  · rw [Parcel.isExhausted_between, bytes_eq_nil hd, List.drop_eq_nil_iff]
    omega

/-- The values written by a layout are read back by it, and the parcel is exhausted behind the last slot and not
before. -/
theorem read_written (l : Layout) {values : List Value} (hl : values.length = l.slots.length)
    (hf : ∀ v ∈ values, v.Fits) :
    (l.read (l.write values {}).rewind).1 = .ok values ∧
      ∀ k ≤ l.slots.length, ∃ p, readSlots (l.write values {}).rewind (l.slots.take k) = (.ok (values.take k), p) ∧
        (p.isExhausted = true ↔ k = l.slots.length) := by
  refine ⟨?_, fun k hk => l.readSlots_take hl hf hk⟩
  obtain ⟨p, hp, -⟩ := l.readSlots_take hl hf (Nat.le_refl _)
  rw [List.take_length, ← hl, List.take_length] at hp
  rw [read, hp]

/-- A slot behind a flag, one that is nullable without a flag, and one that is neither. -/
def trackLayout : Layout := ⟨"AutoValue_Track", [
  ⟨"title", true, .string, true⟩,
  ⟨"tags", false, .map, true⟩,
  ⟨"gain", false, .double, false⟩]⟩

def trackValues : List Value := [.null, .map [("mood", .list [.text "calm", .null])], .double 0x7ff8000000000001]

theorem read_written_track : trackValues.length = trackLayout.slots.length ∧ (∀ v ∈ trackValues, v.Fits) ∧
    (trackLayout.read (trackLayout.write trackValues {}).rewind).1 = .ok trackValues := by
  have hf : ∀ v ∈ trackValues, v.Fits := by
    simp +decide [trackValues, Value.Fits, Value.FitsItems, Value.FitsEntries]
  exact ⟨rfl, hf, (read_written trackLayout rfl hf).1⟩

end Layout

end ValueParcel
