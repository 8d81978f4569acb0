import Mathlib.Algebra.Order.Field.Power
import Mathlib.Algebra.Order.Field.Rat
import RecordRules.Numeric.Number
import RecordRules.Proofs.Rows

set_option autoImplicit false

namespace RecordRules

open Text

namespace Decimal

theorem of_digits_chars (places : List Char) : ofDigits places = Nat.ofDigitChars 10 places 0 :=
  Nat.ofDigitChars_eq_foldl.symm

theorem digit_solid {c : Char} (digit : c.isDigit = true) :
    isBlank c = false ∧ c ≠ '-' ∧ c ≠ '+' ∧ c ≠ '.' := by
  obtain ⟨least, most⟩ := Char.isDigit_iff_toNat.mp digit
  have low : 48 ≤ c.toNat := least
  have high : c.toNat ≤ 57 := most
  refine ⟨?_, ?_, ?_, ?_⟩
  · simp only [isBlank, Bool.or_eq_false_iff, Bool.and_eq_false_iff, decide_eq_false_iff_not]
    omega
  all_goals
    rintro rfl
    revert low
    decide

inductive IsSign : List Char → Bool → Prop where
  | none : IsSign [] false
  | plus : IsSign ['+'] false
  | minus : IsSign ['-'] true

def signed (negative : Bool) (size : Nat) : Int := if negative then -(size : Int) else size

theorem read_sign {mark : List Char} {negative : Bool} (sign : IsSign mark negative) {rest : List Char}
    (unsigned : ∀ c ∈ rest.head?, c ≠ '-' ∧ c ≠ '+') : readSign (mark ++ rest) = (negative, rest) := by
  cases sign with
  | plus => rfl
  | minus => rfl
  | none =>
      cases rest with
      | nil => rfl
      | cons c others =>
          obtain ⟨noMinus, noPlus⟩ := unsigned c rfl
          rw [List.nil_append, readSign]
          · rintro tail same
            exact noMinus (List.cons.inj same).1
          · rintro tail same
            exact noPlus (List.cons.inj same).1

theorem sign_read (text : List Char) :
    ∃ mark, IsSign mark (readSign text).1 ∧ text = mark ++ (readSign text).2 := by
  fun_cases readSign text
  case case1 rest => exact ⟨['-'], .minus, rfl⟩
  case case2 rest => exact ⟨['+'], .plus, rfl⟩
  case case3 => exact ⟨[], .none, rfl⟩

theorem read_int_iff (text : List Char) (value : Int) :
    readInt? text = some value ↔ ∃ mark negative places, IsSign mark negative ∧ text = mark ++ places ∧
      places ≠ [] ∧ (∀ c ∈ places, c.isDigit = true) ∧ value = signed negative (Nat.ofDigitChars 10 places 0) := by
  constructor
  · intro read
    obtain ⟨mark, sign, parts⟩ := sign_read text
    rw [readInt?] at read
    generalize readSign text = splitText at read sign parts
    obtain ⟨negative, places⟩ := splitText
    dsimp only at read
    split at read
    case isTrue => cases read
    case isFalse formed =>
      simp only [Bool.or_eq_true, not_or, List.isEmpty_iff, Bool.not_eq_true, Bool.not_eq_false',
        List.all_eq_true] at formed
      exact ⟨mark, _, _, sign, parts, formed.1, formed.2, (Option.some.inj read).symm⟩
  · rintro ⟨mark, negative, places, sign, rfl, filled, digits, rfl⟩
    have unsigned : ∀ c ∈ places.head?, c ≠ '-' ∧ c ≠ '+' := fun c first =>
      have solid := digit_solid (digits c (List.mem_of_mem_head? first))
      ⟨solid.2.1, solid.2.2.1⟩
    have formed : (places.isEmpty || !places.all Char.isDigit) = false := by
      simp only [Bool.or_eq_false_iff, List.isEmpty_eq_false_iff, Bool.not_eq_false', List.all_eq_true]
      exact ⟨filled, digits⟩
    rw [readInt?, read_sign sign unsigned]
    simp only [formed, Bool.false_eq_true, if_false, of_digits_chars, signed]

def size (d : Decimal) : ℚ := d.coefficient * 10 ^ d.exponent

theorem of_digits_append (front back : List Char) :
    ofDigits (front ++ back) = 10 ^ back.length * ofDigits front + ofDigits back := by
  rw [of_digits_chars, Nat.ofDigitChars_append, Nat.ofDigitChars_eq_ofDigitChars_zero, ← of_digits_chars,
    ← of_digits_chars]

theorem of_digits_digits (value : Nat) : ofDigits (digits value) = value := by
  rw [of_digits_chars, digits, Nat.ofDigitChars_ten_toDigits]

theorem of_digits_zeros (count : Nat) : ofDigits (zeros count) = 0 := by
  rw [of_digits_chars, zeros, Nat.ofDigitChars_replicate_zero, Nat.mul_zero]

theorem digits_digit (value : Nat) : ∀ c ∈ digits value, c.isDigit = true :=
  fun _ member => Nat.isDigit_of_mem_toDigits (by decide) (by decide) member

theorem zeros_digit (count : Nat) : ∀ c ∈ zeros count, c.isDigit = true := by
  intro c member
  rw [(List.mem_replicate.mp member).2]
  rfl

theorem digits_filled (value : Nat) : digits value ≠ [] := Nat.toDigits_ne_nil

theorem sign_mark (negative : Bool) : IsSign (sign negative) negative := by
  cases negative with
  | true => exact .minus
  | false => exact .none

theorem read_places {negative : Bool} (whole : List Char) (filled : whole ≠ [])
    (wholeDigits : ∀ c ∈ whole, c.isDigit = true) :
    read? (sign negative ++ whole) = some ⟨negative, ofDigits whole, 0⟩ ∧
      ∀ places, (∀ c ∈ places, c.isDigit = true) →
        read? (sign negative ++ (whole ++ '.' :: places)) =
          some ⟨negative, ofDigits (whole ++ places), -places.length⟩ := by
  have unsigned (rest : List Char) : ∀ c ∈ (whole ++ rest).head?, c ≠ '-' ∧ c ≠ '+' := by
    obtain ⟨first, others, rfl⟩ := List.exists_cons_of_ne_nil filled
    rintro c ⟨rfl⟩
    have solid := digit_solid (wholeDigits first List.mem_cons_self)
    exact ⟨solid.2.1, solid.2.2.1⟩
  have somePlaces : whole.isEmpty = false := List.isEmpty_eq_false_iff.mpr filled
  constructor
  · have front : whole.takeWhile Char.isDigit = whole := List.takeWhile_eq_self_iff.mpr wholeDigits
    have back : whole.dropWhile Char.isDigit = [] := List.dropWhile_eq_nil_iff.mpr wholeDigits
    have plain := unsigned []
    rw [List.append_nil] at plain
    rw [read?, read_sign (sign_mark negative) plain]
    simp [front, back, somePlaces, readExponent?]
  · intro places placesDigits
    have front : (whole ++ '.' :: places).takeWhile Char.isDigit = whole := by
      rw [List.takeWhile_append_of_pos wholeDigits]
      exact List.append_nil whole
    have back : (whole ++ '.' :: places).dropWhile Char.isDigit = '.' :: places :=
      List.dropWhile_append_of_pos wholeDigits
    have taken : places.takeWhile Char.isDigit = places := List.takeWhile_eq_self_iff.mpr placesDigits
    have dropped : places.dropWhile Char.isDigit = [] := List.dropWhile_eq_nil_iff.mpr placesDigits
    rw [read?, read_sign (sign_mark negative) (unsigned _)]
    simp [front, back, taken, dropped, somePlaces, readExponent?]

theorem read_positional (d : Decimal) :
    ∃ back, read? d.positional = some back ∧ back.negative = d.negative ∧ back.size = d.size := by
  have someDigits := digits_digit d.coefficient
  rw [positional]
  dsimp only
  by_cases whole : 0 ≤ d.exponent
  · obtain ⟨count, exponent⟩ := Int.eq_ofNat_of_zero_le whole
    have allDigits : ∀ c ∈ digits d.coefficient ++ zeros d.exponent.toNat, c.isDigit = true :=
      fun c member => (List.mem_append.mp member).elim (someDigits c) (zeros_digit _ c)
    rw [if_pos whole]
    refine ⟨_, (read_places _ (List.append_ne_nil_of_left_ne_nil (digits_filled _) _) allDigits).1, rfl, ?_⟩
    rw [size, size, of_digits_append, of_digits_digits, of_digits_zeros, zeros, List.length_replicate, exponent]
    simp [mul_comm]
  · obtain ⟨after, exponent⟩ : ∃ after : Nat, d.exponent = -(after : Int) := ⟨(-d.exponent).toNat, by omega⟩
    rw [if_neg whole, show (-d.exponent).toNat = after by omega]
    by_cases short : after < (digits d.coefficient).length
    · have front : (digits d.coefficient).take ((digits d.coefficient).length - after) ≠ [] := by
        rw [Ne, List.take_eq_nil_iff, not_or]
        exact ⟨by omega, digits_filled _⟩
      rw [if_pos short]
      refine ⟨_, (read_places _ front fun c member => someDigits c (List.mem_of_mem_take member)).2 _
        fun c member => someDigits c (List.mem_of_mem_drop member), rfl, ?_⟩
      rw [size, size, List.take_append_drop, of_digits_digits, List.length_drop, exponent,
        Nat.sub_sub_self (Nat.le_of_lt short)]
    · have backDigits : ∀ c ∈ zeros (after - (digits d.coefficient).length) ++ digits d.coefficient,
          c.isDigit = true := fun c member => (List.mem_append.mp member).elim (zeros_digit _ c) (someDigits c)
      rw [if_neg short, show '0' :: '.' :: zeros (after - (digits d.coefficient).length) ++ digits d.coefficient =
        ['0'] ++ '.' :: (zeros (after - (digits d.coefficient).length) ++ digits d.coefficient) from rfl]
      refine ⟨_, (read_places ['0'] (List.cons_ne_nil _ _) (zeros_digit 1)).2 _ backDigits, rfl, ?_⟩
      rw [size, size, of_digits_append, of_digits_append, of_digits_digits, of_digits_zeros, List.length_append,
        zeros, List.length_replicate, exponent, show ofDigits ['0'] = 0 from of_digits_zeros 1,
        Nat.sub_add_cancel (Nat.le_of_not_lt short), Nat.mul_zero, Nat.mul_zero, Nat.zero_add, Nat.zero_add]

theorem digits_tenfold {coefficient : Nat} (filled : coefficient ≠ 0) (count : Nat) :
    digits (coefficient * 10 ^ count) = digits coefficient ++ zeros count := by
  induction count with
  | zero => simp [zeros]
  | succ count ih =>
      have next : coefficient * 10 ^ (count + 1) = coefficient * 10 ^ count * 10 := (Nat.mul_assoc _ _ _).symm
      have positive : 0 < coefficient * 10 ^ count :=
        Nat.mul_pos (Nat.pos_of_ne_zero filled) (Nat.pow_pos (by decide))
      rw [next, digits, Nat.toDigits_of_base_le (by decide) (by omega), Nat.mul_div_cancel _ (by decide),
        Nat.mul_mod_left, ← digits, ih, zeros, zeros, List.replicate_succ', List.append_assoc]
      rfl

theorem int_text (value : Int) : toString value = String.ofList (sign (value < 0) ++ digits value.natAbs) := by
  cases value with
  | ofNat size => exact Nat.toString_eq_ofList_toDigits
  | negSucc size =>
      have text : toString (Int.negSucc size) = "-" ++ toString (size + 1) := rfl
      rw [text, Nat.toString_eq_ofList_toDigits, decide_eq_true (Int.negSucc_lt_zero size),
        String.ofList_append]
      rfl

theorem int_text_read (value : Int) : readInt? (toString value).toList = some value := by
  rw [int_text, String.toList_ofList, read_int_iff]
  refine ⟨sign (value < 0), decide (value < 0), digits value.natAbs, sign_mark _, rfl, digits_filled _,
    digits_digit _, ?_⟩
  rw [← of_digits_chars, of_digits_digits, signed]
  simp only [decide_eq_true_eq]
  split <;> omega

theorem int_text_iff (first second : Int) : toString first = toString second ↔ first = second := by
  refine ⟨fun same => Option.some.inj ?_, congrArg _⟩
  rw [← int_text_read first, ← int_text_read second, same]

end Decimal

def IsIntegerText (text : String) (value : Int) : Prop :=
  ∃ front mark places back negative, text.toList = front ++ (mark ++ places) ++ back ∧
    (∀ c ∈ front, isBlank c = true) ∧ (∀ c ∈ back, isBlank c = true) ∧ Decimal.IsSign mark negative ∧
    places ≠ [] ∧ (∀ c ∈ places, c.isDigit = true) ∧
    value = Decimal.signed negative (Nat.ofDigitChars 10 places 0)

def Number.InRange (value : Int) : Prop := -2 ^ 127 ≤ value ∧ value < 2 ^ 127

theorem integer_trimmed (text : String) (value : Int) :
    IsIntegerText text value ↔ Decimal.readInt? (trim text.toList) = some value := by
  rw [Decimal.read_int_iff]
  constructor
  · rintro ⟨front, mark, places, back, negative, parts, frontBlank, backBlank, sign, filled, digits, rfl⟩
    have solid : ∀ c ∈ mark ++ places, isBlank c = false := by
      intro c member
      rcases List.mem_append.mp member with inMark | inPlaces
      · cases sign with
        | none => cases inMark
        | plus => exact List.mem_singleton.mp inMark ▸ rfl
        | minus => exact List.mem_singleton.mp inMark ▸ rfl
      · exact (Decimal.digit_solid (digits c inPlaces)).1
    refine ⟨mark, negative, places, sign, ?_, filled, digits, rfl⟩
    rw [parts, trim_behind _ back backBlank, trim_ahead front _ frontBlank, trim_blankless _ solid]
  · rintro ⟨mark, negative, places, sign, trimmed, filled, digits, rfl⟩
    obtain ⟨front, back, parts, frontBlank, backBlank⟩ := trim_parts text.toList
    rw [trimmed] at parts
    exact ⟨front, mark, places, back, negative, parts, frontBlank, backBlank, sign, filled, digits, rfl⟩

theorem read_integer_iff (text : String) (value : Int) :
    Number.read? text.toList = some (.integer value) ↔ IsIntegerText text value ∧ Number.InRange value := by
  have fits (k : Int) : (-Number.limit ≤ k && k < Number.limit) = true ↔ Number.InRange k := by
    rw [Bool.and_eq_true, decide_eq_true_iff, decide_eq_true_iff, show Number.limit = 2 ^ 127 by decide]
    rfl
  rw [integer_trimmed, Number.read?]
  constructor
  · intro read
    cases whole : (Decimal.readInt? (trim text.toList)).filter
      (fun k => -Number.limit ≤ k && k < Number.limit) with
    | none =>
        simp only [whole] at read
        obtain ⟨_, _, same⟩ := Option.map_eq_some_iff.mp read
        cases same
    | some k =>
        simp only [whole] at read
        cases read
        obtain ⟨spelled, within⟩ := Option.filter_eq_some_iff.mp whole
        exact ⟨spelled, (fits value).mp within⟩
  · rintro ⟨spelled, within⟩
    have whole : (Decimal.readInt? (trim text.toList)).filter (fun k => -Number.limit ≤ k && k < Number.limit) =
        some value := Option.filter_eq_some_iff.mpr ⟨spelled, (fits value).mpr within⟩
    simp only [whole]

end RecordRules
