import Mathlib

/-! Byte strings framed by a big-endian length, and the reading of a byte string
as the longest run of whole frames it starts with. -/

namespace Rush.Library.Framing

/-- The low `width` bytes of a number, most significant first. -/
def bigEndian : Nat → Nat → List UInt8
  | 0, _ => []
  | width + 1, n => UInt8.ofNat (n / 256 ^ width) :: bigEndian width n

def fromBigEndian : List UInt8 → Nat
  | [] => 0
  | b :: bytes => b.toNat * 256 ^ bytes.length + fromBigEndian bytes

theorem bigEndian_length (width n : Nat) : (bigEndian width n).length = width := by
  induction width with
  | zero => rfl
  | succ width ih => rw [bigEndian, List.length_cons, ih]

theorem fromBigEndian_bigEndian (width n : Nat) :
    fromBigEndian (bigEndian width n) = n % 256 ^ width := by
  induction width with
  | zero => rw [bigEndian, fromBigEndian, pow_zero, Nat.mod_one]
  | succ width ih =>
      have leading : (UInt8.ofNat (n / 256 ^ width)).toNat = n / 256 ^ width % 256 := rfl
      rw [bigEndian, fromBigEndian, ih, bigEndian_length, leading, pow_succ, Nat.mod_mul]
      ring

/-- A length in `width` bytes and then the data. A longer length loses its high
bytes, as a cast to a fixed-width integer does. -/
def frame (width : Nat) (data : List UInt8) : List UInt8 := bigEndian width data.length ++ data

/-- One frame off the front: `none` where the length or the data is cut short. -/
def unframe (width : Nat) (bytes : List UInt8) : Option (List UInt8 × List UInt8) :=
  if bytes.length < width then none
  else
    let size := fromBigEndian (bytes.take width)
    let body := bytes.drop width
    if body.length < size then none else some (body.take size, body.drop size)

def framesUpTo (width : Nat) : Nat → List UInt8 → List (List UInt8)
  | 0, _ => []
  | limit + 1, bytes =>
    match unframe width bytes with
    | none => []
    | some (data, rest) => data :: framesUpTo width limit rest

def frames (width : Nat) (bytes : List UInt8) : List (List UInt8) :=
  framesUpTo width bytes.length bytes

variable {width : Nat}

theorem unframe_frame (data rest : List UInt8) (short : data.length < 256 ^ width) :
    unframe width (frame width data ++ rest) = some (data, rest) := by
  have header : (frame width data ++ rest).take width = bigEndian width data.length := by
    rw [frame, List.append_assoc, List.take_left' (bigEndian_length _ _)]
  have body : (frame width data ++ rest).drop width = data ++ rest := by
    rw [frame, List.append_assoc, List.drop_left' (bigEndian_length _ _)]
  have enough : ¬ (frame width data ++ rest).length < width := by
    rw [frame, List.length_append, List.length_append, bigEndian_length]
    omega
  rw [unframe, if_neg enough, header, body, fromBigEndian_bigEndian, Nat.mod_eq_of_lt short]
  simp

theorem unframe_some {bytes data rest : List UInt8}
    (read : unframe width bytes = some (data, rest)) :
    bytes.length = width + data.length + rest.length ∧
      data.length = fromBigEndian (bytes.take width) := by
  unfold unframe at read
  by_cases short : bytes.length < width
  · rw [if_pos short] at read
    cases read
  · rw [if_neg short] at read
    dsimp only at read
    split at read
    · cases read
    · next enough =>
        cases read
        have body : (bytes.drop width).length = bytes.length - width := List.length_drop
        simp only [List.length_take, List.length_drop]
        omega

theorem unframe_none {bytes : List UInt8}
    (missing : bytes.length < width + fromBigEndian (bytes.take width)) :
    unframe width bytes = none := by
  unfold unframe
  by_cases short : bytes.length < width
  · rw [if_pos short]
  · have cut : (bytes.drop width).length < fromBigEndian (bytes.take width) := by
      rw [List.length_drop]
      omega
    rw [if_neg short]
    exact if_pos cut

theorem unframe_enough {bytes : List UInt8}
    (enough : width + fromBigEndian (bytes.take width) ≤ bytes.length) :
    ∃ data rest, unframe width bytes = some (data, rest) := by
  have header : ¬ bytes.length < width := by omega
  have body : ¬ (bytes.drop width).length < fromBigEndian (bytes.take width) := by
    rw [List.length_drop]
    omega
  unfold unframe
  rw [if_neg header]
  dsimp only
  rw [if_neg body]
  exact ⟨_, _, rfl⟩

theorem framesUpTo_enough (positive : 0 < width) (limit : Nat) (bytes : List UInt8)
    (room : bytes.length ≤ limit) :
    framesUpTo width limit bytes = framesUpTo width bytes.length bytes := by
  induction limit using Nat.strongRecOn generalizing bytes with
  | ind limit ih =>
      cases limit with
      | zero =>
          rw [Nat.le_zero.mp room]
      | succ limit =>
          cases read : unframe width bytes with
          | none => cases bytes.length <;> simp [framesUpTo, read]
          | some pair =>
              rcases pair with ⟨data, rest⟩
              have sizes := (unframe_some read).1
              rcases Nat.exists_eq_succ_of_ne_zero (show bytes.length ≠ 0 by omega) with ⟨size, total⟩
              rw [total]
              simp only [framesUpTo, read]
              rw [ih limit (by omega) rest (by omega), ih size (by omega) rest (by omega)]

theorem frames_eq (positive : 0 < width) (bytes : List UInt8) :
    frames width bytes = match unframe width bytes with
      | none => []
      | some (data, rest) => data :: frames width rest := by
  have room := framesUpTo_enough positive (bytes.length + 1) bytes (by omega)
  unfold frames
  rw [← room, framesUpTo]
  cases read : unframe width bytes with
  | none => rfl
  | some pair =>
      rcases pair with ⟨data, rest⟩
      have sizes := (unframe_some read).1
      dsimp only
      rw [framesUpTo_enough positive bytes.length rest (by omega)]

theorem frames_flatMap (positive : 0 < width) (datas : List (List UInt8))
    (short : ∀ data ∈ datas, data.length < 256 ^ width) :
    frames width (datas.flatMap (frame width)) = datas := by
  induction datas with
  | nil =>
      rw [frames_eq positive, List.flatMap_nil]
      have empty : unframe width [] = none := by
        unfold unframe
        exact if_pos positive
      rw [empty]
  | cons data datas ih =>
      rw [frames_eq positive, List.flatMap_cons,
        unframe_frame data _ (short data List.mem_cons_self)]
      dsimp only
      rw [ih fun other member => short other (List.mem_cons_of_mem data member)]

theorem frames_length_le (positive : 0 < width) (bytes : List UInt8) :
    (frames width bytes).length ≤ bytes.length := by
  induction bytes using (measure List.length).wf.induction with
  | h bytes ih =>
      rw [frames_eq positive]
      cases read : unframe width bytes with
      | none => exact Nat.zero_le _
      | some pair =>
          rcases pair with ⟨data, rest⟩
          have sizes := (unframe_some read).1
          have smaller : rest.length < bytes.length := by omega
          have tail := ih rest smaller
          dsimp only
          rw [List.length_cons]
          omega

/-- Frame after frame is read off the front, until no more can be. -/
inductive Reads (width : Nat) : List UInt8 → List (List UInt8) → List UInt8 → Prop
  | stop {bytes : List UInt8} (failed : unframe width bytes = none) : Reads width bytes [] bytes
  | next {bytes data rest left : List UInt8} {datas : List (List UInt8)}
      (read : unframe width bytes = some (data, rest)) (later : Reads width rest datas left) :
      Reads width bytes (data :: datas) left

theorem reads_flatMap_iff (positive : 0 < width) (datas : List (List UInt8)) :
    Reads width (datas.flatMap (frame width)) datas [] ↔
      ∀ data ∈ datas, data.length < 256 ^ width := by
  induction datas with
  | nil =>
      have empty : unframe width [] = none := if_pos positive
      exact ⟨fun _ => nofun, fun _ => .stop empty⟩
  | cons data datas ih =>
      rw [List.flatMap_cons, List.forall_mem_cons]
      constructor
      · intro reads
        cases reads with
        | @next _ _ rest _ _ read later =>
            have header : (frame width data ++ datas.flatMap (frame width)).take width =
                bigEndian width data.length := by
              rw [frame, List.append_assoc, List.take_left' (bigEndian_length _ _)]
            have length := (unframe_some read).2
            rw [header, fromBigEndian_bigEndian] at length
            have short : data.length < 256 ^ width := by
              rw [length]
              exact Nat.mod_lt _ (Nat.pow_pos (by decide))
            rw [unframe_frame data _ short] at read
            cases read
            exact ⟨short, ih.mp later⟩
      · rintro ⟨short, others⟩
        exact .next (unframe_frame data _ short) (ih.mpr others)

end Rush.Library.Framing
