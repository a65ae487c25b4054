import Conditions.Json.Error
import Mathlib.Data.List.DropRight

set_option autoImplicit false

namespace Conditions

namespace Text

def bytes (t : String) : List UInt8 :=
  t.toUTF8.data.toList

theorem bytes_eq_flatMap (t : String) : bytes t = t.toList.flatMap String.utf8EncodeChar := by
  have h : t.toUTF8 = t.toList.utf8Encode := String.utf8Encode_toList.symm
  rw [bytes, h, List.utf8Encode, List.toList_data_toByteArray]

theorem length_flatMap_utf8EncodeChar (cs : List Char) :
    (cs.flatMap String.utf8EncodeChar).length = byteCount cs := by
  induction cs with
  | nil => rfl
  | cons c cs ih =>
    rw [List.flatMap_cons, List.length_append, String.length_utf8EncodeChar, ih, byteCount_cons]

theorem length_bytes (t : String) : (bytes t).length = byteCount t.toList := by
  rw [bytes_eq_flatMap, length_flatMap_utf8EncodeChar]

theorem byteCount_toList (t : String) : byteCount t.toList = t.utf8ByteSize := by
  rw [← length_bytes]
  rfl

end Text

namespace Json

def lineFeed : UInt8 := 10

def lineStart (bytes : List UInt8) : Nat :=
  (bytes.rdropWhile (· ≠ lineFeed)).length

def Position.behind (bytes : List UInt8) : Position :=
  ⟨1 + bytes.count lineFeed, bytes.length - lineStart bytes⟩

def Position.next (p : Position) (byte : UInt8) : Position :=
  if byte = lineFeed then ⟨p.line + 1, 0⟩ else ⟨p.line, p.column + 1⟩

theorem lineStart_le (bytes : List UInt8) : lineStart bytes ≤ bytes.length :=
  (List.rdropWhile_prefix _ bytes).length_le

theorem Position.behind_concat (bytes : List UInt8) (byte : UInt8) :
    behind (bytes ++ [byte]) = (behind bytes).next byte := by
  have hle := lineStart_le bytes
  by_cases h : byte = lineFeed
  · simp [behind, next, lineStart, h, List.rdropWhile_concat_neg, Nat.add_assoc]
  · have hstart : lineStart (bytes ++ [byte]) = lineStart bytes := by
      simp [lineStart, h, List.rdropWhile_concat_pos]
    have hcount : (bytes ++ [byte]).count lineFeed = bytes.count lineFeed := by simp [h]
    rw [next, if_neg h, behind, hstart, hcount, List.length_append, List.length_singleton]
    simp only [behind]
    rw [Nat.sub_add_comm hle]

theorem Position.foldl_next (bytes : List UInt8) :
    bytes.foldl next ⟨1, 0⟩ = behind bytes := by
  induction bytes using List.reverseRecOn with
  | nil => rfl
  | append_singleton bytes byte ih => rw [List.foldl_concat, ih, behind_concat]

theorem Position.foldl_next_of_not_mem {bytes : List UInt8} (h : lineFeed ∉ bytes) (p : Position) :
    bytes.foldl next p = ⟨p.line, p.column + bytes.length⟩ := by
  induction bytes generalizing p with
  | nil => rfl
  | cons byte bytes ih =>
    rw [List.mem_cons, not_or] at h
    rw [List.foldl_cons, ih h.2, next, if_neg (Ne.symm h.1), List.length_cons]
    simp only [Nat.add_right_comm, Nat.add_assoc]

theorem toNat_of_mem_utf8EncodeChar {c : Char} {byte : UInt8} (h : byte ∈ String.utf8EncodeChar c) :
    byte.toNat = c.toNat ∨ 128 ≤ byte.toNat := by
  unfold String.utf8EncodeChar at h
  simp only at h
  split at h
  · rename_i hsmall
    rw [List.mem_singleton.1 h, UInt8.toNat_ofNat', Nat.mod_eq_of_lt (by omega)]
    exact .inl rfl
  · right
    split at h
    · simp only [List.mem_cons, List.not_mem_nil, or_false] at h
      rcases h with rfl | rfl <;> rw [UInt8.toNat_ofNat'] <;> omega
    · split at h
      · simp only [List.mem_cons, List.not_mem_nil, or_false] at h
        rcases h with rfl | rfl | rfl <;> rw [UInt8.toNat_ofNat'] <;> omega
      · simp only [List.mem_cons, List.not_mem_nil, or_false] at h
        rcases h with rfl | rfl | rfl | rfl <;> rw [UInt8.toNat_ofNat'] <;> omega

theorem lineFeed_not_mem_utf8EncodeChar {c : Char} (h : c ≠ '\n') :
    lineFeed ∉ String.utf8EncodeChar c := by
  intro hmem
  rcases toNat_of_mem_utf8EncodeChar hmem with hc | hc
  · exact h (Char.toNat_inj.1 hc.symm)
  · exact absurd hc (by decide)

theorem utf8EncodeChar_lineFeed : String.utf8EncodeChar '\n' = [lineFeed] := by
  decide

theorem Position.advance_eq (start : Position) (cs : List Char) (index : Nat) :
    start.advance cs index = ((cs.flatMap String.utf8EncodeChar).take index).foldl next start := by
  induction cs generalizing start index with
  | nil => rw [advance, List.flatMap_nil, List.take_nil, List.foldl_nil]
  | cons c cs ih =>
    have hlength := String.length_utf8EncodeChar c
    rw [advance, List.flatMap_cons, List.take_append, List.foldl_append, hlength]
    split
    · rename_i hlt
      -- The place is inside the character or in front of it, so no line feed is passed.
      have hnone : lineFeed ∉ (String.utf8EncodeChar c).take index := by
        by_cases hc : c = '\n'
        · have hzero : index = 0 := by
            rw [hc] at hlt
            exact Nat.lt_one_iff.1 hlt
          simp [hzero]
        · exact fun h => lineFeed_not_mem_utf8EncodeChar hc (List.mem_of_mem_take h)
      rw [foldl_next_of_not_mem hnone, List.length_take, hlength, Nat.sub_eq_zero_of_le hlt.le,
        List.take_zero, List.foldl_nil, Nat.min_eq_left hlt.le]
    · rename_i hlt
      rw [List.take_of_length_le (by omega)]
      split
      · rename_i hc
        rw [ih, hc, utf8EncodeChar_lineFeed]
        rfl
      · rename_i hc
        rw [ih, foldl_next_of_not_mem (lineFeed_not_mem_utf8EncodeChar hc), hlength]

/-- A position is that behind the bytes in front of it. -/
theorem Position.ofIndex_eq (t : String) (index : Nat) :
    ofIndex t.toList index = behind ((Text.bytes t).take index) := by
  rw [ofIndex, advance_eq, foldl_next, Text.bytes_eq_flatMap]

theorem Fault.locate_before {t : String} {front rest : List Char} (h : t.toList = front ++ rest)
    (cause : Cause) :
    (Fault.before cause rest).locate t.toList =
      ⟨cause, some (.behind (Text.bytes (String.ofList front)))⟩ := by
  have index : (Fault.before cause rest).index t.toList = Text.byteCount front := by
    rw [Fault.index, before, h, Text.byteCount_append, Nat.add_zero, Nat.add_sub_cancel]
  have taken : (Text.bytes t).take (Text.byteCount front) = Text.bytes (String.ofList front) := by
    rw [Text.bytes_eq_flatMap, Text.bytes_eq_flatMap, h, List.flatMap_append, String.toList_ofList,
      List.take_left' (Text.length_flatMap_utf8EncodeChar front)]
  rw [locate, index, Position.ofIndex_eq, taken]
  rfl

end Json

end Conditions
