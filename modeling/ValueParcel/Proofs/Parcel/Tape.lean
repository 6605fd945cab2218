import ValueParcel.Proofs.Parcel.RoundTrip

/-!
A parcel is a tape of records with a cursor. Its bytes are those of the records, and the place of the next byte is where
the records in front of the cursor end; every operation keeps it there, whether it succeeds or not. So the answers of a
parcel are those of its tape.
-/

namespace ValueParcel

open Parcel (Fault intTag)

/-! ## Tapes -/

/-- Records in the order in which they were written, of which those in front of the cursor have been read. -/
structure Tape where
  records : List Record := []
  cursor : Nat := 0

/-- An integer is the only value that stands for one. -/
def Value.asInt : Value → Except Fault Int32
  | int v => .ok v
  | v => .error (.tagMismatch intTag v.display)

/-- 0 says that a value follows, 1 that it is absent, and no other number says anything. -/
def Parcel.asPresence (flag : Int32) : Except Fault Bool :=
  if flag = 0 then .ok true else if flag = 1 then .ok false else .error (.invalidFlag flag)

namespace Tape

def write (t : Tape) (tag : String) (v : Value) : Tape := { t with records := t.records ++ [⟨tag, v⟩] }

def rewind (t : Tape) : Tape := { t with cursor := 0 }

def isAtEnd (t : Tape) : Prop := t.cursor = t.records.length

/-- The cursor moves over the next record, whether it has the tag or not. -/
def read (t : Tape) (tag : String) : Except Fault Value × Tape :=
  match t.records[t.cursor]? with
  | none => (.error .endOfParcel, t)
  | some r =>
    (if r.tag = tag then .ok r.value else .error (.tagMismatch tag r.tag), { t with cursor := t.cursor + 1 })

def readInt (t : Tape) : Except Fault Int32 × Tape :=
  let (v, t) := t.read intTag
  (v.bind Value.asInt, t)

def readPresence (t : Tape) : Except Fault Bool × Tape :=
  let (v, t) := t.read intTag
  ((v.bind Value.asInt).bind Parcel.asPresence, t)

end Tape

/-! ## Runs -/

namespace Parcel

/-- What is asked of a parcel. -/
inductive Request
  | write (tag : String) (v : Value)
  | writeInt (v : Int32)
  | writePresence (present : Bool)
  | rewind
  | read (tag : String)
  | readInt
  | readPresence

inductive Answer
  | done
  | value (v : Except Fault Value)
  | int (v : Except Fault Int32)
  | presence (v : Except Fault Bool)

/-- What is to be written can be encoded. -/
def Request.Fits : Request → Prop
  | write tag v => Record.Fits ⟨tag, v⟩
  | _ => True

def perform (p : Parcel) : Request → Answer × Parcel
  | .write tag v => (.done, p.write tag v)
  | .writeInt v => (.done, p.writeInt v)
  | .writePresence present => (.done, p.writePresence present)
  | .rewind => (.done, p.rewind)
  | .read tag => let (v, p) := p.read tag; (.value v, p)
  | .readInt => let (v, p) := p.readInt; (.int v, p)
  | .readPresence => let (v, p) := p.readPresence; (.presence v, p)

def performAll (p : Parcel) : List Request → List Answer × Parcel
  | [] => ([], p)
  | r :: rest =>
    let (answer, p) := p.perform r
    let (answers, p) := p.performAll rest
    (answer :: answers, p)

end Parcel

namespace Tape

open Parcel (Request Answer)

def perform (t : Tape) : Request → Answer × Tape
  | .write tag v => (.done, t.write tag v)
  | .writeInt v => (.done, t.write intTag (.int v))
  | .writePresence present => (.done, t.write intTag (.int (if present then 0 else 1)))
  | .rewind => (.done, t.rewind)
  | .read tag => let (v, t) := t.read tag; (.value v, t)
  | .readInt => let (v, t) := t.readInt; (.int v, t)
  | .readPresence => let (v, t) := t.readPresence; (.presence v, t)

def performAll (t : Tape) : List Request → List Answer × Tape
  | [] => ([], t)
  | r :: rest =>
    let (answer, t) := t.perform r
    let (answers, t) := t.performAll rest
    (answer :: answers, t)

/-! ## Tapes as bytes -/

def bytes (records : List Record) : List UInt8 := records.flatMap Record.encode

theorem bytes_eq_nil {records : List Record} : bytes records = [] ↔ records = [] := by
  cases records with
  | nil => simp [bytes]
  | cons r rest => simp [bytes, r.encode_ne_nil]

theorem bytes_append (records records' : List Record) :
    bytes (records ++ records') = bytes records ++ bytes records' := List.flatMap_append

/-- The cursor divides the bytes into those that have been read and those that have not. -/
theorem bytes_take_append_drop (t : Tape) :
    bytes (t.records.take t.cursor) ++ bytes (t.records.drop t.cursor) = bytes t.records := by
  rw [← bytes_append, List.take_append_drop]

/-- The bytes of the parcel are those of the records, and it has been read up to the record at the cursor. -/
structure Represents (t : Tape) (p : Parcel) : Prop where
  data : p.data = bytes t.records
  position : p.position = (bytes (t.records.take t.cursor)).length
  cursor_le : t.cursor ≤ t.records.length
  fits : ∀ r ∈ t.records, r.Fits

namespace Represents

variable {t : Tape} {p : Parcel}

theorem start : Represents {} {} := by
  constructor
  case data => rfl
  case position => rfl
  case cursor_le => exact Nat.le_refl 0
  case fits => intro r hr; cases hr

theorem eq_between (h : t.Represents p) :
    p = Parcel.between (bytes (t.records.take t.cursor)) (bytes (t.records.drop t.cursor)) := by
  cases p
  simp only [Parcel.between, Parcel.mk.injEq, t.bytes_take_append_drop]
  exact ⟨h.data, h.position⟩

theorem isExhausted_iff (h : t.Represents p) : p.isExhausted = true ↔ t.isAtEnd := by
  have hle := h.cursor_le
  rw [h.eq_between, Parcel.isExhausted_between, bytes_eq_nil, List.drop_eq_nil_iff, isAtEnd]
  omega

theorem write (h : t.Represents p) {tag : String} {v : Value} (hv : Record.Fits ⟨tag, v⟩) :
    (t.write tag v).Represents (p.write tag v) := by
  constructor
  case data => simp [Parcel.write, Tape.write, h.data, bytes]
  case position =>
    -- what is written stands behind the cursor
    have ht : (t.records ++ [Record.mk tag v]).take t.cursor = t.records.take t.cursor :=
      List.take_append_of_le_length h.cursor_le
    simp only [Parcel.write, Tape.write, ht, h.position]
  case cursor_le =>
    have := h.cursor_le
    simp only [Tape.write, List.length_append]
    omega
  case fits =>
    intro r hr
    rcases List.mem_append.1 hr with hr | hr
    · exact h.fits r hr
    · cases List.mem_singleton.1 hr
      exact hv

theorem rewind (h : t.Represents p) : t.rewind.Represents p.rewind := by
  constructor
  case data => exact h.data
  case position => rfl
  case cursor_le => exact Nat.zero_le _
  case fits => exact h.fits

/-- Reading takes one record off the bytes that are left, or finds none left. -/
theorem read (h : t.Represents p) (tag : String) :
    (p.read tag).1 = (t.read tag).1 ∧ (t.read tag).2.Represents (p.read tag).2 := by
  cases hr : t.records[t.cursor]? with
  | none =>
      have he : p.isExhausted = true := by
        rw [h.isExhausted_iff, isAtEnd]
        have := List.getElem?_eq_none_iff.1 hr
        have := h.cursor_le
        omega
      simp only [Tape.read, hr, Parcel.read_of_isExhausted he]
      exact ⟨trivial, h⟩
  | some r =>
      obtain ⟨hlt, hget⟩ := List.getElem?_eq_some_iff.1 hr
      have hfit : r.Fits := h.fits r (List.mem_of_getElem? hr)
      have hdrop : bytes (t.records.drop t.cursor) = r.encode ++ bytes (t.records.drop (t.cursor + 1)) := by
        rw [List.drop_eq_getElem_cons hlt, hget]
        rfl
      have htake : bytes (t.records.take (t.cursor + 1)) = bytes (t.records.take t.cursor) ++ r.encode := by
        rw [List.take_succ_eq_append_getElem hlt, hget, bytes_append]
        simp [bytes]
      have hread := Parcel.read_between_record (bytes (t.records.take t.cursor))
        (bytes (t.records.drop (t.cursor + 1))) hfit tag
      rw [← hdrop, ← h.eq_between] at hread
      simp only [Tape.read, hr, hread]
      refine ⟨trivial, ?_⟩
      constructor
      case data =>
        simp only [Parcel.between, List.append_assoc, ← hdrop, t.bytes_take_append_drop]
      case position => simp only [Parcel.between, htake]
      case cursor_le => exact hlt
      case fits => exact h.fits

theorem readInt (h : t.Represents p) :
    p.readInt.1 = t.readInt.1 ∧ t.readInt.2.Represents p.readInt.2 := by
  obtain ⟨hv, ht⟩ := h.read intTag
  rcases hr : p.read intTag with ⟨v, q⟩
  rw [hr] at hv ht
  simp only [Parcel.readInt, hr, Tape.readInt, ← hv]
  cases v with
  | error e => exact ⟨rfl, ht⟩
  | ok v => cases v <;> exact ⟨rfl, ht⟩

theorem readPresence (h : t.Represents p) :
    p.readPresence.1 = t.readPresence.1 ∧ t.readPresence.2.Represents p.readPresence.2 := by
  obtain ⟨hv, ht⟩ := h.readInt
  rcases hr : p.readInt with ⟨v, q⟩
  rw [hr] at hv ht
  have hb : t.readPresence = (t.readInt.1.bind Parcel.asPresence, t.readInt.2) := rfl
  simp only [Parcel.readPresence, hr, hb, ← hv]
  cases v <;> exact ⟨rfl, ht⟩

/-- A parcel and its tape give the same answer, and the tape is the parcel's again. -/
theorem perform (h : t.Represents p) {r : Request} (hr : r.Fits) :
    (p.perform r).1 = (t.perform r).1 ∧ (t.perform r).2.Represents (p.perform r).2 := by
  have hi : ∀ v : Int32, Record.Fits ⟨intTag, .int v⟩ := fun v => ⟨(Parcel.fits_flagRecord true).1, trivial⟩
  cases r with
  | write tag v => exact ⟨rfl, h.write hr⟩
  | writeInt v => exact ⟨rfl, h.write (hi v)⟩
  | writePresence present => exact ⟨rfl, h.write (hi _)⟩
  | rewind => exact ⟨rfl, h.rewind⟩
  | read tag => exact ⟨congrArg Answer.value (h.read tag).1, (h.read tag).2⟩
  | readInt => exact ⟨congrArg Answer.int h.readInt.1, h.readInt.2⟩
  | readPresence => exact ⟨congrArg Answer.presence h.readPresence.1, h.readPresence.2⟩

theorem performAll (h : t.Represents p) {requests : List Request} (hr : ∀ r ∈ requests, r.Fits) :
    (p.performAll requests).1 = (t.performAll requests).1 ∧
      (t.performAll requests).2.Represents (p.performAll requests).2 := by
  induction requests generalizing t p with
  | nil => exact ⟨rfl, h⟩
  | cons r rest ih =>
      rw [List.forall_mem_cons] at hr
      obtain ⟨ha, ht⟩ := h.perform hr.1
      obtain ⟨has, hts⟩ := ih ht hr.2
      rw [Parcel.performAll, Tape.performAll]
      refine ⟨?_, hts⟩
      dsimp only
      rw [ha, has]

end Represents

/-- Whatever is asked of an empty parcel, in any order, it answers as a tape of records does; its bytes stay those of
the records, and it is exhausted when the cursor is at the end. -/
theorem parcel_answers_as_tape {requests : List Request} (h : ∀ r ∈ requests, r.Fits) :
    let parcel := ({} : Parcel).performAll requests
    let tape := ({} : Tape).performAll requests
    parcel.1 = tape.1 ∧ tape.2.Represents parcel.2 ∧ (parcel.2.isExhausted = true ↔ tape.2.isAtEnd) := by
  intro parcel tape
  obtain ⟨ha, ht⟩ := Represents.start.performAll h
  exact ⟨ha, ht, ht.isExhausted_iff⟩

/-- Reads that fail between writes and behind the last record, and again from the start. -/
def mixedRequests : List Request := [
  .write "writeString" (.text "a"), .writePresence false, .read "writeLong", .write "int" .null, .readPresence, .readInt,
  .read "writeLong", .rewind, .read "writeString", .writeInt 7, .readInt]

theorem parcel_answers_as_tape_mixed : (∀ r ∈ mixedRequests, r.Fits) ∧
    (({} : Parcel).performAll mixedRequests).1 = [
      .done, .done, .value (.error (.tagMismatch "writeLong" "writeString")), .done, .presence (.ok false),
      .int (.error (.tagMismatch "int" "Null")), .value (.error .endOfParcel), .done, .value (.ok (.text "a")), .done,
      .int (.ok 1)] := by
  have hf : ∀ r ∈ mixedRequests, r.Fits := by
    simp +decide [mixedRequests, Request.Fits, Record.Fits, Value.Fits]
  refine ⟨hf, ?_⟩
  rw [(parcel_answers_as_tape hf).1]
  rfl

end Tape

end ValueParcel
