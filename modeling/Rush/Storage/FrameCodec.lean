import Rush.Storage.Journal

/-! The frames of an export, written one after the other and read back. The length of
an event is narrowed to 32 bits when it is written. -/

namespace Rush.Storage

open Rush.Library

/-- An output. A write call takes its outcome from the front of `faults`: none, or an
error after a part of the bytes. -/
structure Writer where
  written : Bytes
  faults : List (Option (Nat × String))
  deriving DecidableEq, Repr

namespace Writer

def empty : Writer := { written := [], faults := [] }

def writeAll (writer : Writer) (bytes : Bytes) : Except String Unit × Writer :=
  match writer.faults with
  | [] => (.ok (), { writer with written := writer.written ++ bytes })
  | none :: rest => (.ok (), { written := writer.written ++ bytes, faults := rest })
  | some (part, text) :: rest =>
      (.error text, { written := writer.written ++ bytes.take part, faults := rest })

/-- `write_u32` of a length: a longer one loses its high bits in the cast. -/
def writeU32 (writer : Writer) (length : Nat) : Except String Unit × Writer :=
  writer.writeAll (Framing.bigEndian BaseJournal.lengthWidth length)

def writeData (writer : Writer) (data : Bytes) : Except String Unit × Writer :=
  match writer.writeU32 data.length with
  | (.error text, after) => (.error text, after)
  | (.ok (), after) => after.writeAll data

/-- One `write_data` after the other, as long as they return `Ok`. -/
def writeEach (writer : Writer) : List Bytes → Except String Unit × Writer
  | [] => (.ok (), writer)
  | data :: datas =>
    match writer.writeData data with
    | (.error text, after) => (.error text, after)
    | (.ok (), after) => writeEach after datas

theorem writeAll_ok {writer after : Writer} {bytes : Bytes}
    (done : writer.writeAll bytes = (.ok (), after)) :
    after.written = writer.written ++ bytes := by
  rw [writeAll] at done
  split at done <;> cases done <;> rfl

theorem writeData_ok {writer after : Writer} {data : Bytes}
    (done : writer.writeData data = (.ok (), after)) :
    after.written = writer.written ++ BaseJournal.writeData data := by
  rw [writeData] at done
  split at done
  case h_1 => cases done
  case h_2 between header =>
    rw [writeAll_ok done, writeAll_ok header, List.append_assoc]
    rfl

theorem writeEach_ok {writer after : Writer} {datas : List Bytes}
    (done : writer.writeEach datas = (.ok (), after)) :
    after.written = writer.written ++ datas.flatMap BaseJournal.writeData := by
  induction datas generalizing writer with
  | nil =>
      cases done
      exact (List.append_nil _).symm
  | cons data datas ih =>
      rw [writeEach] at done
      split at done
      case h_1 => cases done
      case h_2 between first => rw [ih done, writeData_ok first, List.flatMap_cons, List.append_assoc]

/-- Written events are read back, in order and up to the end of the stream, exactly if
each is shorter than `2 ^ 32` bytes. -/
theorem frames_read_back {writer after : Writer} {datas : List Bytes}
    (fresh : writer.written = []) (done : writer.writeEach datas = (.ok (), after)) :
    Framing.Reads BaseJournal.lengthWidth after.written datas [] ↔
      ∀ data ∈ datas, data.length < 2 ^ 32 := by
  have size : 256 ^ BaseJournal.lengthWidth = 2 ^ 32 := by decide
  rw [writeEach_ok done, fresh, List.nil_append, ← size]
  exact Framing.reads_flatMap_iff (by decide) datas

theorem two_frames_read_back :
    Framing.Reads BaseJournal.lengthWidth [0, 0, 0, 2, 7, 8, 0, 0, 0, 0] [[7, 8], []] [] :=
  (@frames_read_back empty { written := [0, 0, 0, 2, 7, 8, 0, 0, 0, 0], faults := [] } [[7, 8], []]
    rfl (by decide)).mpr (by decide)

theorem writeEach_faultless {writer : Writer} (faultless : writer.faults = []) (datas : List Bytes) :
    ∃ after, writer.writeEach datas = (.ok (), after) := by
  induction datas generalizing writer with
  | nil => exact ⟨writer, rfl⟩
  | cons data datas ih =>
      obtain ⟨written, faults⟩ := writer
      cases faultless
      exact @ih ⟨written ++ Framing.bigEndian BaseJournal.lengthWidth data.length ++ data, []⟩ rfl

/-- An event of `2 ^ 32` bytes is announced as empty. -/
theorem long_event_lost :
    ¬ ∀ (writer after : Writer) (datas : List Bytes), writer.written = [] →
      writer.writeEach datas = (.ok (), after) →
        Framing.Reads BaseJournal.lengthWidth after.written datas [] := by
  intro claimed
  obtain ⟨datas, data, member, long⟩ : ∃ datas : List Bytes, ∃ data ∈ datas, data.length = 2 ^ 32 :=
    ⟨[List.replicate (2 ^ 32) 0], _, List.mem_singleton_self _, List.length_replicate⟩
  obtain ⟨after, done⟩ := @writeEach_faultless empty rfl datas
  have reads := claimed empty after datas rfl done
  rw [writeEach_ok done] at reads
  have short := (Framing.reads_flatMap_iff (by decide) datas).mp reads data member
  have size : 256 ^ BaseJournal.lengthWidth = 2 ^ 32 := by decide
  rw [long, size] at short
  exact absurd short (Nat.lt_irrefl _)

end Writer

end Rush.Storage
