import RecordRules.Proofs.ForeignDigits
import RecordRules.Proofs.TextFormats

set_option autoImplicit false

namespace RecordRules.Format

open Text Pattern

theorem mem_digit (text : List Char) : text ∈ digit.language ↔ ∃ c, isDecimal c = true ∧ text = [c] := Iff.rfl

theorem contains_chars (first last c : Char) :
    (Charset.chars first last).contains c = true ↔ first.toNat ≤ c.toNat ∧ c.toNat ≤ last.toNat := by
  simp only [Charset.chars, Charset.contains, Charset.containsPoint, Bool.and_eq_true, decide_eq_true_eq]

theorem digit_iff (c : Char) : c.isDigit = true ↔ 48 ≤ c.toNat ∧ c.toNat ≤ 57 := Char.isDigit_iff_toNat

theorem most_digit {c : Char} (digit : c.isDigit = true) : mostOf c = valueOf c := if_neg (by simp [digit_own digit])

theorem digit_of_most {c : Char} (decimal : isDecimal c = true) (small : mostOf c < 9) : c.isDigit = true := by
  rcases (foreign_cases c).mp decimal with digit | foreign
  · exact digit
  · rw [mostOf, if_pos foreign] at small
    omega

theorem most_le {c : Char} (decimal : isDecimal c = true) : mostOf c ≤ 9 := by
  have nines : Transliterates (rewrite '9') := rewrite_transliterates rfl
  rw [← (value_most nines decimal).2]
  exact Nat.le_of_lt_succ (digit_value ((change_digit nines c).mpr decimal)).1

theorem eq_of_value {c d : Char} (digit : c.isDigit = true) (other : d.isDigit = true)
    (same : valueOf c = valueOf d) : c = d := by
  rw [← (digit_value digit).2, ← (digit_value other).2, same]

theorem eq_of_most {c d : Char} (decimal : isDecimal c = true) (other : d.isDigit = true) (small : valueOf d < 9)
    (same : mostOf c = valueOf d) : c = d := by
  have digit := digit_of_most decimal (by omega)
  exact eq_of_value digit other (most_digit digit ▸ same)

-- A range of digits that stops short of nine reads what stays in the range with a nine for a foreign digit.
theorem low_digits {last : Char} (ascii : last.isDigit = true) (small : valueOf last < 9) (c : Char) :
    (Charset.chars '0' last).contains c = true ↔ isDecimal c = true ∧ mostOf c ≤ valueOf last := by
  have bounds := (digit_iff last).mp ascii
  rw [contains_chars, show Char.toNat '0' = 48 from rfl]
  constructor
  · rintro ⟨above, below⟩
    have digit : c.isDigit = true := (digit_iff c).mpr ⟨above, by omega⟩
    rw [most_digit digit, valueOf, valueOf]
    exact ⟨digit_decimal digit, by omega⟩
  · rintro ⟨decimal, below⟩
    have digit := digit_of_most decimal (by omega)
    have above := ((digit_iff c).mp digit).1
    rw [most_digit digit, valueOf, valueOf] at below
    omega

theorem head_digits {last : Char} (ascii : last.isDigit = true) (c : Char) :
    (Charset.chars '1' last).contains c = true ↔ Heads c ∧ valueOf c ≤ valueOf last := by
  have bounds := (digit_iff last).mp ascii
  rw [contains_chars, show Char.toNat '1' = 49 from rfl]
  constructor
  · rintro ⟨above, below⟩
    have digit : c.isDigit = true := (digit_iff c).mpr (by omega)
    have noZero : c ≠ '0' := by
      rintro rfl
      revert above
      decide
    rw [valueOf, valueOf]
    exact ⟨⟨digit, noZero⟩, by omega⟩
  · rintro ⟨heads, below⟩
    have positive := heads_positive heads
    rw [valueOf] at positive
    rw [valueOf, valueOf] at below
    omega

section

variable {text : List Char}

def short : Pattern := sequence [optional (between '1' '9'), digit]

theorem mem_short : text ∈ short.language ↔ (∃ a, isDecimal a = true ∧ text = [a]) ∨
    ∃ a b, Heads a ∧ isDecimal b = true ∧ text = [a, b] := by
  have heads (c : Char) : (Charset.chars '1' '9').contains c = true ↔ Heads c := by
    rw [head_digits rfl, and_iff_left_iff_imp]
    exact fun heads => Nat.le_of_lt_succ (digit_value heads.1).1
  rw [short, mem_maybe, mem_alone, mem_digit, between, mem_step]
  simp only [heads, mem_alone, mem_digit]
  refine or_congr_right ⟨?_, ?_⟩
  · rintro ⟨a, first, _, ⟨b, second, rfl⟩, rfl⟩
    exact ⟨a, b, first, second, rfl⟩
  · rintro ⟨a, b, first, second, rfl⟩
    exact ⟨a, first, _, ⟨b, second, rfl⟩, rfl⟩

theorem channel_language {limit : Nat} (large : 99 ≤ limit) (small : limit < 1000) (branches : List Pattern)
    (long : ∀ text, (∃ branch ∈ branches, text ∈ branch.language) ↔
      ∃ a b c, Heads a ∧ isDecimal b = true ∧ isDecimal c = true ∧
        100 * valueOf a + 10 * mostOf b + mostOf c ≤ limit ∧ text = [a, b, c]) :
    (choice (branches ++ [short])).language = inAscii (numerals limit) := by
  ext text
  rw [mem_ascii_numerals large small, ← or_assoc, ← mem_short, ← long, mem_choice]
  simp only [List.mem_append, List.mem_singleton, or_and_right, exists_or, exists_eq_left]
  exact or_comm

theorem byte_language : byte.language = inAscii (numerals 255) := by
  refine channel_language (by decide) (by decide) [sequence [literal "25", between '0' '5'],
    sequence [literal "2", between '0' '4', digit], sequence [literal "1", digit, digit]] fun text => ?_
  simp only [List.mem_cons, List.not_mem_nil, or_false, exists_eq_or_imp, exists_eq_left, mem_lead, mem_alone, between,
    digit, mem_step, mem_char]
  have values : valueOf '1' = 1 ∧ valueOf '2' = 2 ∧ valueOf '4' = 4 ∧ valueOf '5' = 5 ∧ mostOf '5' = 5 := by decide
  have toFour := low_digits (show Char.isDigit '4' = true from rfl) (by decide)
  have toFive := low_digits (show Char.isDigit '5' = true from rfl) (by decide)
  constructor
  · rintro (⟨_, ⟨c, low, rfl⟩, rfl⟩ | ⟨_, ⟨b, low, _, ⟨c, last, rfl⟩, rfl⟩, rfl⟩ |
      ⟨_, ⟨b, middle, _, ⟨c, last, rfl⟩, rfl⟩, rfl⟩)
    · obtain ⟨last, bounded⟩ := (toFive c).mp low
      exact ⟨'2', '5', c, ⟨rfl, by decide⟩, by decide, last, by omega, rfl⟩
    · obtain ⟨middle, bounded⟩ := (toFour b).mp low
      have most := most_le last
      exact ⟨'2', b, c, ⟨rfl, by decide⟩, middle, last, by omega, rfl⟩
    · have most := most_le middle
      have mostLast := most_le last
      exact ⟨'1', b, c, ⟨rfl, by decide⟩, middle, last, by omega, rfl⟩
  · rintro ⟨a, b, c, heads, middle, last, bounded, rfl⟩
    have positive := heads_positive heads
    -- One branch for each way to stay within 255 when foreign digits count as nines.
    have parts : valueOf a = valueOf '1' ∨ valueOf a = valueOf '2' ∧ mostOf b ≤ valueOf '4' ∨
        valueOf a = valueOf '2' ∧ mostOf b = valueOf '5' ∧ mostOf c ≤ valueOf '5' := by
      omega
    rcases parts with first | ⟨first, second⟩ | ⟨first, second, third⟩
    · obtain rfl := eq_of_value heads.1 rfl first
      exact .inr (.inr ⟨_, ⟨b, middle, _, ⟨c, last, rfl⟩, rfl⟩, rfl⟩)
    · obtain rfl := eq_of_value heads.1 rfl first
      exact .inr (.inl ⟨_, ⟨b, (toFour b).mpr ⟨middle, second⟩, _, ⟨c, last, rfl⟩, rfl⟩, rfl⟩)
    · obtain rfl := eq_of_value heads.1 rfl first
      obtain rfl := eq_of_most middle rfl (by decide) second
      exact .inl ⟨_, ⟨c, (toFive c).mpr ⟨last, third⟩, rfl⟩, rfl⟩

theorem hue_language : hue.language = inAscii (numerals 360) := by
  refine channel_language (by decide) (by decide) [literal "360", sequence [literal "3", between '0' '5', digit],
    sequence [between '1' '2', digit, digit]] fun text => ?_
  simp only [List.mem_cons, List.not_mem_nil, or_false, exists_eq_or_imp, exists_eq_left, mem_lead, mem_alone, between,
    digit, mem_step, mem_char, mem_literal]
  have values : valueOf '2' = 2 ∧ valueOf '3' = 3 ∧ valueOf '5' = 5 ∧ valueOf '6' = 6 ∧ valueOf '0' = 0 ∧
      mostOf '6' = 6 ∧ mostOf '0' = 0 := by
    decide
  have toFive := low_digits (show Char.isDigit '5' = true from rfl) (by decide)
  have toTwo := head_digits (show Char.isDigit '2' = true from rfl)
  constructor
  · rintro (rfl | ⟨_, ⟨b, low, _, ⟨c, last, rfl⟩, rfl⟩, rfl⟩ | ⟨a, low, _, ⟨b, middle, _, ⟨c, last, rfl⟩, rfl⟩, rfl⟩)
    · exact ⟨'3', '6', '0', ⟨rfl, by decide⟩, by decide, by decide, by omega, rfl⟩
    · obtain ⟨middle, bounded⟩ := (toFive b).mp low
      have most := most_le last
      exact ⟨'3', b, c, ⟨rfl, by decide⟩, middle, last, by omega, rfl⟩
    · obtain ⟨heads, bounded⟩ := (toTwo a).mp low
      have most := most_le middle
      have mostLast := most_le last
      exact ⟨a, b, c, heads, middle, last, by omega, rfl⟩
  · rintro ⟨a, b, c, heads, middle, last, bounded, rfl⟩
    have positive := heads_positive heads
    have parts : valueOf a ≤ valueOf '2' ∨ valueOf a = valueOf '3' ∧ mostOf b ≤ valueOf '5' ∨
        valueOf a = valueOf '3' ∧ mostOf b = valueOf '6' ∧ mostOf c = valueOf '0' := by
      omega
    rcases parts with first | ⟨first, second⟩ | ⟨first, second, third⟩
    · exact .inr (.inr ⟨a, (toTwo a).mpr ⟨heads, first⟩, _, ⟨b, middle, _, ⟨c, last, rfl⟩, rfl⟩, rfl⟩)
    · obtain rfl := eq_of_value heads.1 rfl first
      exact .inr (.inl ⟨_, ⟨b, (toFive b).mpr ⟨middle, second⟩, _, ⟨c, last, rfl⟩, rfl⟩, rfl⟩)
    · obtain rfl := eq_of_value heads.1 rfl first
      obtain rfl := eq_of_most middle rfl (by decide) second
      obtain rfl := eq_of_most last rfl (by decide) third
      exact .inl rfl

theorem hundred_language : (choice [literal "100", short]).language = inAscii (numerals 100) := by
  refine channel_language (by decide) (by decide) [literal "100"] fun text => ?_
  simp only [List.mem_singleton, exists_eq_left, mem_literal]
  have values : valueOf '1' = 1 ∧ valueOf '0' = 0 ∧ mostOf '0' = 0 := by decide
  constructor
  · rintro rfl
    exact ⟨'1', '0', '0', ⟨rfl, by decide⟩, by decide, by decide, by omega, rfl⟩
  · rintro ⟨a, b, c, heads, middle, last, bounded, rfl⟩
    -- Nothing but 100 itself has three digits and stays within 100, so no digit of it is a foreign one.
    have positive := heads_positive heads
    obtain rfl : a = '1' := eq_of_value heads.1 rfl (by omega)
    obtain rfl : b = '0' := eq_of_most middle rfl (by decide) (by omega)
    obtain rfl : c = '0' := eq_of_most last rfl (by decide) (by omega)
    rfl

end

def percentages : Language Char := numerals 100 * {['%']}

def zeros : Language Char := {text | text ≠ [] ∧ ∀ c ∈ text, c = '0'}

def opacities : Language Char :=
  ({['0']} + {['1']}) * (1 + {['.']} * zeros) + (1 + {['0']}) * ({['.']} * places)

theorem percent_language : percent.language = inAscii percentages := by
  rw [percentages, in_ascii_behind (by decide), ← hundred_language, percent, ← short, language_sequence,
    List.map_cons, List.map_singleton, List.prod_cons, List.prod_singleton, language_literal]
  rfl

theorem language_repeated {a b : Pattern} (same : a.language = b.language) (min : Nat) (max : Option Nat) :
    (repeated a min max).language = (repeated b min max).language := by
  rw [language, language, same]

theorem language_zeros : (many1 (literal "0")).language = zeros := by
  have single : (literal "0").language = (char (.single '0')).language := by
    ext text
    simp only [mem_literal, mem_char, contains_single, exists_eq_left]
    rfl
  rw [many1, language_repeated single]
  ext text
  rw [← many1, mem_many1]
  simp only [contains_single]
  rfl

theorem opacity_language : opacity.language = inAscii opacities := by
  have zero : Spells {['0']} {['0']} := .word (by decide)
  have wholeOne : Spells {['1']} {['1']} := .word (by decide)
  have point : Spells {['.']} {['.']} := .word (by decide)
  have onlyZeros : Spells zeros zeros := .fixed fun _ member c there => member.2 c there ▸ by decide
  have spelled := ((zero.add wholeOne).mul (Spells.one.add (point.mul onlyZeros))).add
    ((Spells.one.add zero).mul (point.mul places_spelled))
  rw [opacities, spelled.in_ascii, opacity]
  simp only [choice, language, language_sequence, List.map_cons, List.map_nil, List.prod_cons, List.prod_nil, mul_one,
    language_optional, language_literal, language_zeros]
  rfl

end RecordRules.Format
