import ValueParcel.Text.Cut

/-!
Where a text can be cut. The parts before and behind a place are there together or not at all, and they make up the text
again.
-/

namespace ValueParcel.Text

variable {text front back : String} {bytes : Nat}

theorem pos?_eq_some_iff {place : text.Pos} : text.pos? ⟨bytes⟩ = some place ↔ place.offset = ⟨bytes⟩ := by
  have hv : String.Pos.Raw.isValidForSlice text.toSlice ⟨bytes⟩ = true ↔ (⟨bytes⟩ : String.Pos.Raw).IsValid text := by
    rw [String.Pos.Raw.isValidForSlice_eq_true_iff, String.Pos.Raw.isValidForSlice_toSlice_iff]
  rw [String.pos?, String.Slice.pos?]
  split
  · rw [Option.map_some, Option.some_inj, String.Pos.ext_iff]
    exact eq_comm
  · rename_i h
    exact iff_of_false (by simp) fun hp => h (hv.2 (hp ▸ place.isValid))

/-- A text is cut in two parts at a place if and only if it is made of them and the first has the bytes before the place. -/
theorem exists_pos?_iff :
    (∃ place, text.pos? ⟨bytes⟩ = some place ∧ (text.sliceTo place).copy = front ∧ (text.sliceFrom place).copy = back) ↔
      text = front ++ back ∧ front.utf8ByteSize = bytes := by
  constructor
  · rintro ⟨place, hp, rfl, rfl⟩
    have hs := place.splits
    rw [pos?_eq_some_iff, hs.offset_eq_rawEndPos, String.Pos.Raw.ext_iff] at hp
    exact ⟨hs.eq_append, hp⟩
  · rintro ⟨rfl, rfl⟩
    have hv : front.rawEndPos.IsValid (front ++ back) := String.Pos.Raw.isValid_iff_exists_append.2 ⟨front, back, rfl, rfl⟩
    have hs : String.Pos.Splits ⟨front.rawEndPos, hv⟩ front back := ⟨rfl, rfl⟩
    obtain ⟨hf, hb⟩ := (String.Pos.splits _).eq hs
    exact ⟨_, pos?_eq_some_iff.2 rfl, hf, hb⟩

theorem upTo?_eq_some_iff :
    upTo? text bytes = some front ↔ ∃ back, text = front ++ back ∧ front.utf8ByteSize = bytes := by
  simp only [upTo?, Option.map_eq_some_iff, ← exists_pos?_iff]
  exact ⟨fun ⟨place, hp, hf⟩ => ⟨_, place, hp, hf, rfl⟩, fun ⟨_, place, hp, hf, _⟩ => ⟨place, hp, hf⟩⟩

theorem behind?_eq_some_iff :
    behind? text bytes = some back ↔ ∃ front, text = front ++ back ∧ front.utf8ByteSize = bytes := by
  simp only [behind?, Option.map_eq_some_iff, ← exists_pos?_iff]
  exact ⟨fun ⟨place, hp, hb⟩ => ⟨_, place, hp, rfl, hb⟩, fun ⟨_, place, hp, _, hb⟩ => ⟨place, hp, hb⟩⟩

theorem isValid_of_behind? (h : behind? text bytes = some back) : String.Pos.Raw.IsValid text ⟨bytes⟩ := by
  obtain ⟨front, rfl, rfl⟩ := behind?_eq_some_iff.1 h
  exact String.Pos.Raw.isValid_iff_exists_append.2 ⟨front, back, rfl, rfl⟩

/-- The byte behind a text is the first byte of what follows it. -/
theorem getElem?_toByteArray_append (front : String) {middle : String} (back : String)
    (h : 0 < middle.toByteArray.size) :
    (front ++ middle ++ back).toByteArray[front.utf8ByteSize]? = some middle.toByteArray[0] := by
  have hle : front.toByteArray.size ≤ front.utf8ByteSize := Nat.le_refl _
  have hf : front.utf8ByteSize < (front.toByteArray ++ middle.toByteArray).size := by
    rw [ByteArray.size_append]
    exact Nat.lt_add_of_pos_right h
  have hb : front.utf8ByteSize < (front.toByteArray ++ middle.toByteArray ++ back.toByteArray).size := by
    rw [ByteArray.size_append]
    exact Nat.lt_add_right _ hf
  rw [String.toByteArray_append, String.toByteArray_append,
    getElem?_pos (front.toByteArray ++ middle.toByteArray ++ back.toByteArray) _ hb, ByteArray.getElem_append_left hf]
  simp only [ByteArray.getElem_append_right hle, String.size_toByteArray, Nat.sub_self]

end ValueParcel.Text
