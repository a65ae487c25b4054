import Conditions.Proofs.Json.Lines
import Mathlib.Data.List.Lex

set_option autoImplicit false

namespace Conditions.Text

theorem lex_ofNat_cons {m n : Nat} {u v : List UInt8} (hle : m ≤ n) (hn : n < 256)
    (h : m = n → List.Lex (· < ·) u v) :
    List.Lex (· < ·) (UInt8.ofNat m :: u) (UInt8.ofNat n :: v) := by
  rcases hle.lt_or_eq with hlt | heq
  · apply List.Lex.rel
    rw [UInt8.lt_iff_toNat_lt, UInt8.toNat_ofNat', UInt8.toNat_ofNat']
    omega
  · rw [heq]
    exact .cons (h heq)

/-- Two characters differ in a byte of both, so that it does not matter what follows them. -/
theorem lex_utf8EncodeChar {c d : Char} (h : c < d) (u v : List UInt8) :
    List.Lex (· < ·) (String.utf8EncodeChar c ++ u) (String.utf8EncodeChar d ++ v) := by
  have hlt : c.val.toNat < d.val.toNat := UInt32.lt_iff_toNat_lt.1 (Char.lt_def.1 h)
  have hd : d.val.toNat < 1114112 := by
    rcases d.valid with hsmall | hlarge
    · exact hsmall.trans (by decide)
    · exact hlarge.2
  unfold String.utf8EncodeChar
  generalize c.val.toNat = m at hlt
  generalize d.val.toNat = n at hlt hd
  simp only
  -- Of numbers with equally many bytes the first are compared, and so on; else the first bytes decide.
  split_ifs
  all_goals
    repeat refine lex_ofNat_cons (by omega) (by omega) fun _ => ?_
    omega

theorem lex_flatMap_utf8EncodeChar {cs ds : List Char} (h : List.Lex (· < ·) cs ds) :
    List.Lex (· < ·) (cs.flatMap String.utf8EncodeChar) (ds.flatMap String.utf8EncodeChar) := by
  induction h with
  | @nil d ds =>
    rw [List.flatMap_cons]
    cases hbytes : String.utf8EncodeChar d with
    | nil =>
      have hlength := String.length_utf8EncodeChar d
      rw [hbytes] at hlength
      exact absurd hlength d.utf8Size_pos.ne
    | cons byte bytes => exact .nil
  | cons _ ih =>
    rw [List.flatMap_cons, List.flatMap_cons]
    exact .append_left _ ih _
  | rel hlt =>
    rw [List.flatMap_cons, List.flatMap_cons]
    exact lex_utf8EncodeChar hlt _ _

theorem lt_iff_lex_bytes (a b : String) : a < b ↔ List.Lex (· < ·) (bytes a) (bytes b) := by
  have keeps {a b : String} (h : a < b) : List.Lex (· < ·) (bytes a) (bytes b) := by
    rw [bytes_eq_flatMap, bytes_eq_flatMap]
    exact lex_flatMap_utf8EncodeChar ((List.lt_iff_lex_lt _ _).1 (String.lt_iff.1 h))
  constructor
  · exact keeps
  · intro h
    by_contra hlt
    by_cases hgt : b < a
    · exact Std.Asymm.asymm _ _ h (keeps hgt)
    · have heq : a = b := String.le_antisymm (String.not_lt.1 hgt) (String.not_lt.1 hlt)
      rw [heq] at h
      exact Std.Irrefl.irrefl _ h

end Conditions.Text
