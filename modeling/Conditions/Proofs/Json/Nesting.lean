import Conditions.Json.Value
import Mathlib.Order.Bounds.Basic

set_option autoImplicit false

namespace Conditions.Json

mutual

def arrayDepth : Json → Nat
  | .array vs => 1 + greatestItemDepth vs
  | .object ms => greatestMemberDepth ms
  | .null | .boolean _ | .number _ | .string _ => 0

def greatestItemDepth : List Json → Nat
  | [] => 0
  | v :: vs => max v.arrayDepth (greatestItemDepth vs)

def greatestMemberDepth : List (String × Json) → Nat
  | [] => 0
  | (_, v) :: ms => max v.arrayDepth (greatestMemberDepth ms)

end

/-- Whether a scan is in a string literal, and there behind a backslash. -/
inductive Scan where
  | outside
  | inside
  | escaped
deriving DecidableEq

namespace Scan

def next : Scan → Char → Scan
  | .outside, c => if c = '"' then .inside else .outside
  | .inside, c => if c = '"' then .outside else if c = '\\' then .escaped else .inside
  | .escaped, _ => .inside

/-- Opening brackets count up and closing ones down, but not in string literals. -/
def weight : Scan → Char → Int
  | .outside, c => if c = '[' then 1 else if c = ']' then -1 else 0
  | _, _ => 0

def behind (s : Scan) (w : List Char) : Scan := w.foldl next s

def balance : Scan → List Char → Int
  | _, [] => 0
  | s, c :: w => s.weight c + (s.next c).balance w

/-- The greatest balance on the way through a text. -/
def peak : Scan → List Char → Int
  | _, [] => 0
  | s, c :: w => max 0 (s.weight c + (s.next c).peak w)

theorem balance_append (s : Scan) (w u : List Char) :
    s.balance (w ++ u) = s.balance w + (s.behind w).balance u := by
  induction w generalizing s with
  | nil => simp [balance, behind]
  | cons c w ih =>
    rw [List.cons_append, balance, balance, ih, Int.add_assoc]
    rfl

theorem peak_nonneg (s : Scan) (w : List Char) : 0 ≤ s.peak w := by
  cases w with
  | nil => exact Int.le_refl 0
  | cons c w => exact Int.le_max_left 0 _

theorem peak_append (s : Scan) (w u : List Char) :
    s.peak (w ++ u) = max (s.peak w) (s.balance w + (s.behind w).peak u) := by
  induction w generalizing s with
  | nil =>
    have hu := peak_nonneg s u
    simp only [List.nil_append, peak, balance, behind, List.foldl_nil]
    omega
  | cons c w ih =>
    have step : s.behind (c :: w) = (s.next c).behind w := rfl
    rw [List.cons_append, peak, ih, peak, balance, step]
    omega

theorem isGreatest_peak (s : Scan) (t : List Char) :
    IsGreatest {n | ∃ w, w <+: t ∧ s.balance w = n} (s.peak t) := by
  induction t generalizing s with
  | nil =>
    refine ⟨⟨[], List.prefix_refl _, rfl⟩, ?_⟩
    rintro n ⟨w, hw, rfl⟩
    rw [List.prefix_nil.1 hw]
    rfl
  | cons c t ih =>
    obtain ⟨⟨w, hw, hpeak⟩, hbound⟩ := ih (s.next c)
    constructor
    · -- The empty front has balance zero, which is the greatest if all others lie below.
      by_cases h : 0 ≤ s.weight c + (s.next c).peak t
      · refine ⟨c :: w, List.cons_prefix_cons.2 ⟨rfl, hw⟩, ?_⟩
        rw [balance, hpeak, peak]
        omega
      · refine ⟨[], List.nil_prefix, ?_⟩
        rw [balance, peak]
        omega
    · rintro n ⟨u, hu, rfl⟩
      cases u with
      | nil => exact peak_nonneg s (c :: t)
      | cons d u =>
        obtain ⟨rfl, htail⟩ := List.cons_prefix_cons.1 hu
        have hle : (s.next d).balance u ≤ (s.next d).peak t := hbound ⟨u, htail, rfl⟩
        rw [balance, peak]
        omega

end Scan

/-- Scanned from `s`, the text leads to `e` with this balance, and on the way to this peak. -/
structure Scanned (s : Scan) (w : List Char) (e : Scan) (balance peak : Int) : Prop where
  behind : s.behind w = e
  balance : s.balance w = balance
  peak : s.peak w = peak

namespace Scanned

variable {s e f : Scan} {w u : List Char} {b k b' k' : Int}

theorem nil (s : Scan) : Scanned s [] s 0 0 := ⟨rfl, rfl, rfl⟩

theorem char (s : Scan) (c : Char) :
    Scanned s [c] (s.next c) (s.weight c) (max 0 (s.weight c)) := by
  refine ⟨rfl, ?_, ?_⟩ <;> simp [Scan.balance, Scan.peak]

theorem append (h : Scanned s w e b k) (h' : Scanned e u f b' k') :
    Scanned s (w ++ u) f (b + b') (max k (b + k')) := by
  obtain ⟨rfl, rfl, rfl⟩ := h
  obtain ⟨rfl, rfl, rfl⟩ := h'
  exact ⟨List.foldl_append .., Scan.balance_append s w u, Scan.peak_append s w u⟩

theorem cons (c : Char) (h : Scanned (s.next c) w e b k) :
    Scanned s (c :: w) e (s.weight c + b) (max 0 (s.weight c + k)) := by
  obtain ⟨rfl, rfl, rfl⟩ := h
  exact ⟨rfl, rfl, rfl⟩

theorem append_level (h : Scanned s w e 0 0) (h' : Scanned e u f b' k') (hk : 0 ≤ k') :
    Scanned s (w ++ u) f b' k' := by
  have joined := h.append h'
  rwa [Int.zero_add, Int.zero_add, max_eq_right hk] at joined

end Scanned

theorem digitChar_plain {n : Nat} (h : n < 16) :
    Nat.digitChar n ≠ '"' ∧ Nat.digitChar n ≠ '\\' := by
  have table : ∀ m < 16, Nat.digitChar m ≠ '"' ∧ Nat.digitChar m ≠ '\\' := by decide
  exact table n h

theorem Scan.next_inside {c : Char} (h : c ≠ '"' ∧ c ≠ '\\') : Scan.inside.next c = .inside := by
  simp [Scan.next, h.1, h.2]

theorem scanned_escapeChar (c : Char) : Scanned .inside (escapeChar c) .inside 0 0 := by
  unfold escapeChar
  split
  case h_8 hquote hbackslash _ _ _ _ _ =>
    split
    · rename_i hsmall
      have high := Scan.next_inside (digitChar_plain (n := c.toNat / 16) (by omega))
      have low := Scan.next_inside (digitChar_plain (n := c.toNat % 16) (by omega))
      have digits : Scanned .inside [Nat.digitChar (c.toNat / 16), Nat.digitChar (c.toNat % 16)]
          .inside 0 0 := by
        refine ⟨?_, ?_, ?_⟩
        · rw [Scan.behind, List.foldl_cons, high, List.foldl_cons, low, List.foldl_nil]
        · simp [Scan.balance, Scan.weight, high]
        · simp [Scan.peak, Scan.weight, high]
      have front : Scanned .inside ['\\', 'u', '0', '0'] .inside 0 0 := by
        constructor <;> decide
      exact front.append_level digits (Int.le_refl 0)
    · have plain := Scanned.char .inside c
      rwa [Scan.next_inside ⟨hquote, hbackslash⟩] at plain
  all_goals constructor <;> decide

theorem scanned_renderString (s : String) : Scanned .outside (renderString s) .outside 0 0 := by
  have body : ∀ cs : List Char, Scanned .inside (cs.flatMap escapeChar) .inside 0 0 := by
    intro cs
    induction cs with
    | nil => exact .nil .inside
    | cons c cs ih => exact (scanned_escapeChar c).append_level ih (Int.le_refl 0)
  have quote : Scanned .inside ['"'] .outside 0 0 := .char .inside '"'
  have closed := (body s.toList).append_level quote (Int.le_refl 0)
  exact Scanned.cons (s := .outside) '"' closed

def ShowsDepth (v : Json) : Prop :=
  Scanned .outside (render v) .outside 0 v.arrayDepth

theorem showsDepth_null : ShowsDepth .null := by
  constructor <;> decide

theorem showsDepth_string (s : String) : ShowsDepth (.string s) :=
  scanned_renderString s

theorem scanned_renderItems {vs : List Json} (h : ∀ v ∈ vs, ShowsDepth v) :
    Scanned .outside (renderItems vs) .outside (-1) (greatestItemDepth vs) := by
  induction vs with
  | nil => constructor <;> decide
  | cons v vs ih =>
    obtain ⟨hv, hvs⟩ := List.forall_mem_cons.1 h
    obtain ⟨behind, balance, peak⟩ := Scanned.cons (s := .outside) ',' (hv.append (ih hvs))
    rw [renderItems, greatestItemDepth]
    refine ⟨behind, balance, peak.trans ?_⟩
    have comma : Scan.outside.weight ',' = 0 := rfl
    omega

theorem showsDepth_array {v : Json} {vs : List Json} (h : ∀ u ∈ v :: vs, ShowsDepth u) :
    ShowsDepth (.array (v :: vs)) := by
  obtain ⟨hv, hvs⟩ := List.forall_mem_cons.1 h
  obtain ⟨behind, balance, peak⟩ :=
    Scanned.cons (s := .outside) '[' (hv.append (scanned_renderItems hvs))
  have opening : Scan.outside.weight '[' = 1 := rfl
  rw [ShowsDepth, render, arrayDepth, greatestItemDepth]
  refine ⟨behind, balance, peak.trans ?_⟩
  omega

end Conditions.Json
