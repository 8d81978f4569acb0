import Mathlib.Data.String.Basic
import Mathlib.Tactic.IntervalCases

set_option autoImplicit false

namespace RecordRules.Text.Utf8

def bytes (text : String) : List UInt8 := text.toByteArray.data.toList

theorem bytes_encoded (text : String) : bytes text = text.toList.flatMap String.utf8EncodeChar := by
  rw [bytes, ← String.utf8Encode_toList, List.utf8Encode, List.data_toByteArray]

theorem bytes_injective (a b : String) : bytes a = bytes b ↔ a = b := by
  rw [bytes, bytes, ← String.toByteArray_inj, ByteArray.ext_iff, Array.toList_inj]

def digits (mark : Nat) : Nat → Nat → List UInt8
  | 0, number => [UInt8.ofNat (number + mark)]
  | behind + 1, number => digits mark behind (number / 64) ++ [UInt8.ofNat (number % 64 + 128)]

theorem lead_lt {a b : Nat} (less : a < b) (small : b < 256) (after behind : List UInt8) :
    UInt8.ofNat a :: after < UInt8.ofNat b :: behind := by
  refine List.cons_lt_cons_iff.mpr (.inl ?_)
  rw [UInt8.lt_iff_toNat_lt, UInt8.toNat_ofNat', UInt8.toNat_ofNat']
  omega

theorem digits_lt (mark room : Nat) (fits : mark + room ≤ 256) (count v w : Nat) (less : v < w)
    (small : w < room * 64 ^ count) (after behind : List UInt8) :
    digits mark count v ++ after < digits mark count w ++ behind := by
  induction count generalizing v w after behind with
  | zero => exact lead_lt (by omega) (by omega) after behind
  | succ count ih =>
      rw [digits, digits, List.append_assoc, List.append_assoc]
      by_cases same : v / 64 = w / 64
      · rw [same]
        exact List.append_left_lt (lead_lt (by omega) (by omega) after behind)
      · refine ih (v / 64) (w / 64) (by omega) ?_ _ _
        rw [Nat.pow_succ, ← Nat.mul_assoc] at small
        omega

theorem digits_lead (mark count v : Nat) :
    ∃ rest, digits mark count v = UInt8.ofNat (v / 64 ^ count + mark) :: rest := by
  induction count generalizing v with
  | zero => exact ⟨[], by rw [digits, Nat.pow_zero, Nat.div_one]⟩
  | succ count ih =>
      obtain ⟨rest, same⟩ := ih (v / 64)
      refine ⟨rest ++ [UInt8.ofNat (v % 64 + 128)], ?_⟩
      rw [digits, same, Nat.pow_succ', Nat.div_div_eq_div_mul, List.cons_append]

def trail (v : Nat) : Nat := if v < 0x80 then 0 else if v < 0x800 then 1 else if v < 0x10000 then 2 else 3

def mark : Nat → Nat
  | 0 => 0
  | 1 => 0xC0
  | 2 => 0xE0
  | _ => 0xF0

def room : Nat → Nat
  | 0 => 128
  | 1 => 32
  | 2 => 16
  | _ => 8

theorem code_lt (c : Char) : c.val.toNat < 0x110000 := by
  rcases c.valid with low | high <;> omega

theorem encoded_digits (c : Char) :
    String.utf8EncodeChar c = digits (mark (trail c.val.toNat)) (trail c.val.toNat) c.val.toNat := by
  have bound := code_lt c
  rw [String.utf8EncodeChar, trail]
  generalize c.val.toNat = v at bound ⊢
  split_ifs <;> try omega
  · rfl
  · simp only [digits, mark, List.nil_append, List.cons_append]
    rw [Nat.mod_eq_of_lt (by omega : v / 64 < 32)]
  · simp only [digits, mark, List.nil_append, List.cons_append]
    rw [Nat.div_div_eq_div_mul, Nat.mod_eq_of_lt (by omega : v / 4096 < 16)]
  · simp only [digits, mark, List.nil_append, List.cons_append, Nat.div_div_eq_div_mul]
    rw [Nat.mod_eq_of_lt (by omega : v / 262144 < 8)]

theorem trail_le_three (v : Nat) : trail v ≤ 3 := by
  rw [trail]
  split_ifs <;> omega

theorem trail_le {v w : Nat} (less : v ≤ w) : trail v ≤ trail w := by
  rw [trail, trail]
  split_ifs <;> omega

theorem trail_room {v : Nat} (bound : v < 0x110000) : v < room (trail v) * 64 ^ trail v := by
  rw [trail]
  split_ifs <;> simp only [room] <;> omega

theorem lead_room {v : Nat} (bound : v < 0x110000) : v / 64 ^ trail v < room (trail v) :=
  Nat.div_lt_of_lt_mul (Nat.mul_comm _ _ ▸ trail_room bound)

theorem marks_apart (short long : Nat) (less : short < long) (most : long ≤ 3) :
    mark short + room short ≤ mark long := by
  interval_cases long <;> interval_cases short <;> decide

theorem mark_fits (count : Nat) (most : count ≤ 3) : mark count + room count ≤ 256 := by
  interval_cases count <;> decide

theorem encoded_lt (c d : Char) (less : c < d) (after behind : List UInt8) :
    String.utf8EncodeChar c ++ after < String.utf8EncodeChar d ++ behind := by
  have order : c.val.toNat < d.val.toNat := less
  have fits := mark_fits _ (trail_le_three d.val.toNat)
  rw [encoded_digits, encoded_digits]
  rcases Nat.lt_or_eq_of_le (trail_le (Nat.le_of_lt order)) with shorter | same
  · obtain ⟨ownRest, own⟩ := digits_lead (mark (trail c.val.toNat)) (trail c.val.toNat) c.val.toNat
    obtain ⟨rest, other⟩ := digits_lead (mark (trail d.val.toNat)) (trail d.val.toNat) d.val.toNat
    have ownLead := lead_room (code_lt c)
    have lead := lead_room (code_lt d)
    have apart := marks_apart _ _ shorter (trail_le_three _)
    have before : c.val.toNat / 64 ^ trail c.val.toNat + mark (trail c.val.toNat) <
        mark (trail d.val.toNat) := by omega
    rw [own, other]
    exact lead_lt (Nat.lt_of_lt_of_le before (Nat.le_add_left _ _)) (by omega) _ _
  · rw [same]
    exact digits_lt _ _ fits _ _ _ order (trail_room (code_lt d)) after behind

theorem encoded_texts_lt (a b : List Char) (less : a < b) :
    a.flatMap String.utf8EncodeChar < b.flatMap String.utf8EncodeChar := by
  induction a generalizing b with
  | nil =>
      cases b with
      | nil => exact absurd less (List.lt_irrefl [])
      | cons d rest =>
          obtain ⟨behind, first⟩ := digits_lead (mark (trail d.val.toNat)) (trail d.val.toNat) d.val.toNat
          rw [List.flatMap_cons, encoded_digits, first]
          exact List.nil_lt_cons _ _
  | cons c front ih =>
      cases b with
      | nil => exact absurd less (List.not_lt_nil _)
      | cons d rest =>
          rw [List.flatMap_cons, List.flatMap_cons]
          rcases List.cons_lt_cons_iff.mp less with first | ⟨rfl, later⟩
          · exact encoded_lt c d first _ _
          · exact List.append_left_lt (ih rest later)

theorem lt_iff_bytes_lt (a b : String) : a < b ↔ bytes a < bytes b := by
  have forward (a b : String) (less : a < b) : bytes a < bytes b := by
    rw [bytes_encoded, bytes_encoded]
    exact encoded_texts_lt _ _ (String.lt_iff_toList_lt.mp less)
  refine ⟨forward a b, fun less => ?_⟩
  rcases lt_trichotomy a b with before | rfl | behind
  · exact before
  · exact absurd less (List.lt_irrefl _)
  · exact absurd less (List.lt_asymm (forward b a behind))

end RecordRules.Text.Utf8
