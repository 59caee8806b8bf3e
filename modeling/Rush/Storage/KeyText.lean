import Rush.Library.Decimal
import Rush.Library.Segments
import Rush.Storage.Stores

/-! The key text `prefix:number` of both back ends, and the parsing of its last
part. -/

namespace Rush.Storage

open Std Rush.Library

/-- The bytes of a text, as `as_bytes` gives them. -/
def utf8 (text : String) : Bytes := text.toUTF8.data.toList

theorem utf8_append (front back : String) : utf8 (front ++ back) = utf8 front ++ utf8 back := by
  simp [utf8]

theorem utf8_inj {left right : String} : utf8 left = utf8 right ↔ left = right := by
  constructor
  · intro same
    exact String.toByteArray_inj.mp (ByteArray.ext (Array.toList_inj.mp same))
  · rintro rfl
    rfl

def paddedText (width n : Nat) : String :=
  String.ofList ((Decimal.padded width n).map fun b => Char.ofNat b.toNat)

theorem utf8EncodeChar_digit (b : UInt8) (digit : 48 ≤ b.toNat ∧ b.toNat ≤ 57) :
    String.utf8EncodeChar (Char.ofNat b.toNat) = [b] := by
  have valid : b.toNat.isValidChar := by
    left
    omega
  have code : (Char.ofNat b.toNat).val.toNat = b.toNat := by
    simp only [Char.ofNat, dif_pos valid]
    exact Char.toNat_ofNatAux valid
  simp only [String.utf8EncodeChar, code]
  rw [if_pos (by omega), UInt8.ofNat_toNat]

theorem utf8_ofList (text : List Char) :
    utf8 (String.ofList text) = text.flatMap String.utf8EncodeChar := by
  simp [utf8, List.utf8Encode]

theorem paddedText_toList (width n : Nat) : (paddedText width n).toList =
    List.replicate (width - (Nat.toDigits 10 n).length) '0' ++ Nat.toDigits 10 n := by
  rw [paddedText, String.toList_ofList, Decimal.padded_chars]

theorem utf8_paddedText (width n : Nat) : utf8 (paddedText width n) = Decimal.padded width n := by
  have encode (text : List UInt8) (digits : ∀ b ∈ text, 48 ≤ b.toNat ∧ b.toNat ≤ 57) :
      (text.map fun b => Char.ofNat b.toNat).flatMap String.utf8EncodeChar = text := by
    induction text with
    | nil => rfl
    | cons b rest ih =>
        simp only [List.map_cons, List.flatMap_cons]
        rw [utf8EncodeChar_digit b (digits b List.mem_cons_self),
          ih fun c member => digits c (List.mem_cons_of_mem b member)]
        rfl
  rw [paddedText, utf8_ofList]
  exact encode _ fun b member => Decimal.padded_mem_range width n b member

/-- `format!("\x7b\x7d:\x7b:014\x7d", prefix, key)` -/
def keyString (keyPrefix : String) (key : UInt64) : String :=
  keyPrefix ++ ":" ++ paddedText 14 key.toNat

def keyBytes (keyPrefix : String) (key : UInt64) : Bytes := utf8 (keyString keyPrefix key)

def lastPart (text : Bytes) : Bytes := text.rtakeWhile fun b => b != 58

def unsigned : Bytes → Bytes
  | 43 :: rest => rest
  | text => text

/-- `str::parse::<u64>`: an optional plus sign, then at least one digit, and no
overflow. -/
def parseU64 (text : Bytes) : Option UInt64 :=
  if unsigned text = [] then none
  else (Decimal.value (unsigned text)).bind fun n =>
    if n < UInt64.size then some (UInt64.ofNat n) else none

theorem keyString_toList (keyPrefix : String) (key : UInt64) : (keyString keyPrefix key).toList =
    keyPrefix.toList ++ ':' :: (List.replicate (14 - (Nat.toDigits 10 key.toNat).length) '0' ++
      Nat.toDigits 10 key.toNat) := by
  have colon : ":".toList = [':'] := rfl
  rw [keyString, String.toList_append, String.toList_append, paddedText_toList, colon,
    List.append_assoc, List.singleton_append]

theorem keyBytes_eq (keyPrefix : String) (key : UInt64) :
    keyBytes keyPrefix key = utf8 keyPrefix ++ 58 :: Decimal.padded 14 key.toNat := by
  have colon : utf8 ":" = [58] := by decide
  rw [keyBytes, keyString, utf8_append, utf8_append, utf8_paddedText, colon]
  simp

theorem padded_no_colon (width n : Nat) : 58 ∉ Decimal.padded width n := by
  intro colon
  have digit := Decimal.padded_mem_range width n 58 colon
  exact absurd digit.2 (by decide)

theorem next_back_split (text : Bytes) : (text.splitOn 58).getLast? = some (lastPart text) :=
  Segments.getLast?_splitOn text

theorem lastPart_keyBytes (keyPrefix : String) (key : UInt64) :
    lastPart (keyBytes keyPrefix key) = Decimal.padded 14 key.toNat := by
  rw [keyBytes_eq, lastPart, Segments.rtakeWhile_separator _ (padded_no_colon 14 key.toNat)]

theorem unsigned_padded (width n : Nat) :
    unsigned (Decimal.padded width n) = Decimal.padded width n := by
  have digits := Decimal.padded_mem_range width n
  unfold unsigned
  split
  · next rest shape =>
      have plus := digits 43 (by rw [shape]; exact List.mem_cons_self)
      exact absurd plus.1 (by decide)
  · rfl

theorem parseU64_padded (width : Nat) (key : UInt64) :
    parseU64 (Decimal.padded width key.toNat) = some key := by
  have present := Decimal.padded_ne_nil width key.toNat
  have bound : key.toNat < UInt64.size := key.toNat_lt
  rw [parseU64, unsigned_padded, if_neg present, Decimal.value_padded, Option.bind_some,
    if_pos bound, UInt64.ofNat_toNat]

theorem parseU64_keyBytes (keyPrefix : String) (key : UInt64) :
    parseU64 (lastPart (keyBytes keyPrefix key)) = some key := by
  rw [lastPart_keyBytes, parseU64_padded]

theorem keyBytes_inj {left right : String} {key other : UInt64} :
    keyBytes left key = keyBytes right other ↔ left = right ∧ key = other := by
  constructor
  · intro same
    have parsed := parseU64_keyBytes left key
    rw [same, parseU64_keyBytes] at parsed
    obtain rfl := Option.some.inj parsed
    rw [keyBytes_eq, keyBytes_eq] at same
    exact ⟨utf8_inj.mp (List.append_cancel_right same), rfl⟩
  · rintro ⟨rfl, rfl⟩
    rfl

theorem keyString_inj {left right : String} {key other : UInt64} :
    keyString left key = keyString right other ↔ left = right ∧ key = other :=
  utf8_inj.symm.trans keyBytes_inj

theorem keyBytes_injective (keyPrefix : String) (left right : UInt64)
    (same : keyBytes keyPrefix left = keyBytes keyPrefix right) : left = right :=
  (keyBytes_inj.mp same).2

def keyWidth (key : UInt64) : Nat := max 14 (Decimal.digitCount key.toNat)

/-- A smaller key comes first in text order exactly when it is at most the front
of the greater key's digits, cut to its own width. -/
theorem compare_keyBytes (keyPrefix : String) {left right : UInt64} (less : left < right) :
    compare (keyBytes keyPrefix left) (keyBytes keyPrefix right) = .lt ↔
      left.toNat ≤ right.toNat / 10 ^ (keyWidth right - keyWidth left) := by
  -- the texts differ first at a digit, or where the shorter one ends
  rw [keyBytes_eq, keyBytes_eq, Decimal.compare_append_left, List.compare_cons_cons,
    ReflOrd.compare_self]
  exact Decimal.compare_padded (UInt64.lt_iff_toNat_lt.mp less)

theorem keyWidth_narrow {key : UInt64} (narrow : key.toNat < 10 ^ 14) : keyWidth key = 14 :=
  max_eq_left (Decimal.digitCount_le (by decide) narrow)

end Rush.Storage
