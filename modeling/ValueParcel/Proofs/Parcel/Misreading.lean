import Mathlib.Data.List.Forall2
import ValueParcel.Proofs.Parcel.RoundTrip

/-!
Values that are read by another layout than the one they were written by. Up to the first slot in which the two differ,
the reader stands where the writer stood; there it meets a record under another tag, or the end of the parcel, or it
stops while there is something left.
-/

namespace ValueParcel

open Parcel (Fault between intTag)

/-! ## Tags -/

namespace Operation

theorem find?_name (o : Operation) : all.find? (fun p => p.name = o.name) = some o := by cases o <;> rfl

theorem name_injective {o p : Operation} (h : o.name = p.name) : o = p := by
  have ho := o.find?_name
  rw [h, p.find?_name] at ho
  exact (Option.some.inj ho).symm

end Operation

/-! ## Records under another tag -/

namespace Parcel

variable {r : Record} (before after : List UInt8)

theorem read_of_tag_ne (h : r.Fits) {tag : String} (hne : r.tag ≠ tag) :
    (between before (r.encode ++ after)).read tag =
      (.error (.tagMismatch tag r.tag), between (before ++ r.encode) after) := by
  rw [read_between_record before after h, if_neg hne]

theorem readPresence_of_tag_ne (h : r.Fits) (hne : r.tag ≠ intTag) :
    (between before (r.encode ++ after)).readPresence =
      (.error (.tagMismatch intTag r.tag), between (before ++ r.encode) after) := by
  rw [readPresence, readInt, read_of_tag_ne before after h hne]

end Parcel

/-! ## Slots -/

namespace Slot

variable {s s' : Slot} {v : Value}

/-- What a slot looks like in a parcel. -/
def shape (s : Slot) : Bool × Operation := (s.presenceFlag, s.operation)

/-- The value can stand in the slot, and is there if there is a flag to tell. -/
def IsFilledBy (s : Slot) (v : Value) : Prop := v.Fits ∧ (s.presenceFlag = true → v.isNull = false)

theorem tag_ne_intTag (s : Slot) : s.tag ≠ intTag := by
  unfold tag
  cases s.operation <;> decide

theorem read_congr (h : s.shape = s'.shape) (p : Parcel) : s.read p = s'.read p := by
  obtain ⟨hf, ho⟩ := Prod.mk.inj h
  rw [read, read, tag, tag, hf, ho]

/-- A value that is there stands behind its flag, if the slot has one. -/
theorem bytes_of_isFilledBy (h : s.IsFilledBy v) :
    s.bytes v =
      (if s.presenceFlag then (Parcel.flagRecord true).encode else []) ++ (Record.mk s.tag v).encode := by
  cases hf : s.presenceFlag with
  | true => simp [bytes, records, omits, hf, h.2 hf]
  | false => simp [bytes, records, omits, hf]

theorem read_of_isExhausted {p : Parcel} (h : p.isExhausted = true) (s : Slot) :
    s.read p = (.error .endOfParcel, p) := by
  have ht := Parcel.read_of_isExhausted h
  cases hf : s.presenceFlag with
  | true => simp [read, hf, Parcel.readPresence, Parcel.readInt, ht]
  | false => simp [read, hf, ht]

theorem tag_ne_of_shape_ne (hne : s.shape ≠ s'.shape) (hf : s.presenceFlag = s'.presenceFlag) : s.tag ≠ s'.tag := by
  intro ht
  apply hne
  rw [shape, shape, hf, Operation.name_injective ht]

/-- A slot of another shape finds a record that it did not look for. -/
theorem read_of_shape_ne (h : s.IsFilledBy v) (hne : s.shape ≠ s'.shape) (before after : List UInt8) :
    ∃ e, (s'.read (between before (s.bytes v ++ after))).1 = .error e := by
  have hfit : (Record.mk s.tag v).Fits := ⟨s.fits_tag, h.1⟩
  cases hf : s.presenceFlag with
  | true =>
      have hb : s.bytes v ++ after =
          (Parcel.flagRecord true).encode ++ ((Record.mk s.tag v).encode ++ after) := by
        simp [bytes_of_isFilledBy h, hf]
      cases hf' : s'.presenceFlag with
      | true =>
          -- the flag is as expected, and the value behind it is another operation's
          have ht : s.tag ≠ s'.tag := tag_ne_of_shape_ne hne (hf.trans hf'.symm)
          have hp := Parcel.readPresence_between before ((Record.mk s.tag v).encode ++ after) true
          have hr := Parcel.read_of_tag_ne (before ++ (Parcel.flagRecord true).encode) after hfit ht
          refine ⟨.tagMismatch s'.tag s.tag, ?_⟩
          rw [read, hf', if_pos rfl, hb, hp]
          exact congrArg Prod.fst hr
      | false =>
          -- the flag stands in the place of a value
          have hr := Parcel.read_of_tag_ne before ((Record.mk s.tag v).encode ++ after)
            (Parcel.fits_flagRecord true) (Ne.symm s'.tag_ne_intTag)
          refine ⟨.tagMismatch s'.tag intTag, ?_⟩
          rw [read, hf', if_neg Bool.false_ne_true, hb]
          exact congrArg Prod.fst hr
  | false =>
      have hb : s.bytes v ++ after = (Record.mk s.tag v).encode ++ after := by
        simp [bytes_of_isFilledBy h, hf]
      cases hf' : s'.presenceFlag with
      | true =>
          -- a value stands in the place of the flag
          have hp := Parcel.readPresence_of_tag_ne before after hfit s.tag_ne_intTag
          refine ⟨.tagMismatch intTag s.tag, ?_⟩
          rw [read, hf', if_pos rfl, hb, hp]
      | false =>
          have ht : s.tag ≠ s'.tag := tag_ne_of_shape_ne hne (hf.trans hf'.symm)
          have hr := Parcel.read_of_tag_ne before after hfit ht
          refine ⟨.tagMismatch s'.tag s.tag, ?_⟩
          rw [read, hf', if_neg Bool.false_ne_true, hb]
          exact congrArg Prod.fst hr

end Slot

/-! ## Layouts -/

namespace Layout

variable {slots slots' : List Slot} {values : List Value}

def shape (l : Layout) : List (Bool × Operation) := l.slots.map (·.shape)

/-- A reader notices that what it reads is not what was written: there is a fault, or something is left. -/
def IsNoticed (result : Except Fault (List Value) × Parcel) : Prop :=
  (∃ e, result.1 = .error e) ∨ result.2.isExhausted = false

theorem readSlots_congr (h : slots.map (·.shape) = slots'.map (·.shape)) (p : Parcel) :
    readSlots p slots = readSlots p slots' := by
  induction slots generalizing slots' p with
  | nil => rw [List.map_eq_nil_iff.1 h.symm]
  | cons s slots ih =>
      cases slots' with
      | nil => cases h
      | cons s' slots' =>
          obtain ⟨hs, hr⟩ := List.cons.inj h
          rw [readSlots, readSlots, Slot.read_congr hs]
          rcases s'.read p with ⟨_ | v, q⟩
          · rfl
          · simp only [ih hr]

theorem isNoticed_cons {s : Slot} {p q : Parcel} {v : Value} (hr : s.read p = (.ok v, q))
    (h : IsNoticed (readSlots q slots)) : IsNoticed (readSlots p (s :: slots)) := by
  rw [readSlots, hr]
  rcases h with ⟨e, he⟩ | he
  · refine .inl ⟨e, ?_⟩
    dsimp only
    rw [he]
    rfl
  · exact .inr he

/-- The invariant is that so far the reader has kept step with the writer, and so stands in front of the first slot
that is left. -/
theorem isNoticed_of_shape_ne (h : List.Forall₂ Slot.IsFilledBy slots values)
    (hne : slots.map (·.shape) ≠ slots'.map (·.shape)) (before : List UInt8) :
    IsNoticed (readSlots (between before (bytes slots values)) slots') := by
  induction h generalizing slots' before with
  | nil =>
      cases slots' with
      | nil => exact absurd rfl hne
      | cons s' slots' =>
          have he : (between before (bytes [] [])).isExhausted = true :=
            (Parcel.isExhausted_between before _).2 rfl
          refine .inl ⟨.endOfParcel, ?_⟩
          rw [readSlots, Slot.read_of_isExhausted he]
  | @cons s v slots values hs _ ih =>
      have hb : bytes (s :: slots) (v :: values) = s.bytes v ++ bytes slots values := rfl
      cases slots' with
      | nil =>
          right
          rw [readSlots, Bool.eq_false_iff, ne_eq, Parcel.isExhausted_between, hb, List.append_eq_nil_iff]
          exact fun he => s.bytes_ne_nil v he.1
      | cons s' slots' =>
          by_cases hsh : s.shape = s'.shape
          · have hr : s'.read (between before (bytes (s :: slots) (v :: values))) =
                (.ok v, between (before ++ s.bytes v) (bytes slots values)) := by
              rw [← Slot.read_congr hsh, hb, s.read_between hs.1]
            refine isNoticed_cons hr (ih ?_ _)
            intro he
            apply hne
            rw [List.map_cons, List.map_cons, hsh, he]
          · obtain ⟨e, he⟩ := Slot.read_of_shape_ne hs hsh before (bytes slots values)
            refine .inl ⟨e, ?_⟩
            rw [hb, readSlots]
            rcases hr : s'.read (between before (s.bytes v ++ bytes slots values)) with ⟨result, p⟩
            rw [hr] at he
            cases he
            rfl

/-- Values that are read by a layout of another shape are not taken for what they are not: the reader comes to a fault,
or does not come to the end. By a layout of the same shape they are read through. -/
theorem misreading_isNoticed_iff (l m : Layout) {values : List Value}
    (h : List.Forall₂ Slot.IsFilledBy l.slots values) :
    IsNoticed (m.read (l.write values {}).rewind) ↔ l.shape ≠ m.shape := by
  have hp : (l.write values {}).rewind = between [] (bytes l.slots values) := by
    simp [write, writeSlots_eq, Parcel.rewind, between]
  constructor
  · intro hn hs
    have hf : ∀ v ∈ values, v.Fits := by
      intro v hv
      obtain ⟨i, hi, rfl⟩ := List.getElem_of_mem hv
      exact (h.get (h.length_eq ▸ hi) hi).1
    have hr := readSlots_between h.length_eq hf [] []
    rw [List.append_nil, ← hp, readSlots_congr hs] at hr
    have he := (Parcel.isExhausted_between ([] ++ bytes l.slots values) []).2 rfl
    rw [read, hr] at hn
    rcases hn with ⟨e, hn⟩ | hn
    · cases hn
    · cases he.symm.trans hn
  · intro hs
    rw [read, hp]
    exact isNoticed_of_shape_ne h hs []

/-- The slots of a track without the flag of its title. -/
def unflaggedLayout : Layout := ⟨"AutoValue_Track", [
  ⟨"title", false, .string, true⟩,
  ⟨"tags", false, .map, true⟩,
  ⟨"gain", false, .double, false⟩]⟩

def titledValues : List Value := [.text "Sonata", .null, .double 0]

theorem misreading_isNoticed_track : List.Forall₂ Slot.IsFilledBy trackLayout.slots titledValues ∧
    trackLayout.shape ≠ unflaggedLayout.shape ∧
    IsNoticed (unflaggedLayout.read (trackLayout.write titledValues {}).rewind) := by
  have hf : List.Forall₂ Slot.IsFilledBy trackLayout.slots titledValues := by
    simp +decide [trackLayout, titledValues, Slot.IsFilledBy, Value.Fits]
  have hs : trackLayout.shape ≠ unflaggedLayout.shape := by decide
  exact ⟨hf, hs, (misreading_isNoticed_iff trackLayout unflaggedLayout hf).2 hs⟩

end Layout

end ValueParcel
