import Mathlib.Data.List.Basic
import RecordRules.Check.Format
import RecordRules.Proofs.Languages
import RecordRules.Proofs.Numerals

set_option autoImplicit false

namespace RecordRules.Format

open Text Pattern

def isDecimal (c : Char) : Bool := Charset.digit.contains c

def isForeign (c : Char) : Bool := isDecimal c && !c.isDigit

theorem digit_decimal {c : Char} (digit : c.isDigit = true) : isDecimal c = true := by
  obtain ⟨least, most⟩ := Char.isDigit_iff_toNat.mp digit
  refine List.any_eq_true.mpr ⟨⟨0x30, 0x39, 1⟩, by decide, ?_⟩
  simp only [Unicode.Stretch.contains, Nat.mod_one, Bool.and_eq_true, decide_eq_true_eq, and_true]
  exact ⟨least, most⟩

theorem decimal_stretches : ∀ stretch ∈ Unicode.decimalNumber,
    stretch = ⟨0x30, 0x39, 1⟩ ∨ 0x660 ≤ stretch.first := by
  decide

theorem foreign_far {c : Char} (foreign : isForeign c = true) : 0x660 ≤ c.toNat := by
  obtain ⟨decimal, noDigit⟩ := Bool.and_eq_true_iff.mp foreign
  obtain ⟨stretch, listed, within⟩ := List.any_eq_true.mp decimal
  simp only [Unicode.Stretch.contains, Bool.and_eq_true, decide_eq_true_eq] at within
  rcases decimal_stretches stretch listed with rfl | far
  · have digit : c.isDigit = true := Char.isDigit_iff_toNat.mpr within.1
    rw [digit] at noDigit
    cases noDigit
  · exact Nat.le_trans far within.1.1

def isSign (c : Char) : Bool := !c.isDigit && decide (c.toNat < 128)

theorem low_own {c : Char} (low : c.toNat < 0x660) : isForeign c = false :=
  Bool.eq_false_iff.mpr fun foreign => Nat.not_lt.mpr (foreign_far foreign) low

theorem sign_parts {c : Char} (sign : isSign c = true) : c.isDigit = false ∧ isForeign c = false := by
  simp only [isSign, Bool.and_eq_true, Bool.not_eq_true', decide_eq_true_eq] at sign
  exact ⟨sign.1, low_own (by omega)⟩

theorem blank_points : ∀ point ∈ [0x1680, 0x2028, 0x2029, 0x202F, 0x205F, 0x3000] ++ List.range' 0x2000 11,
    Charset.digit.containsPoint point = false := by
  decide

theorem foreign_solid {c : Char} (foreign : isForeign c = true) : isBlank c = false := by
  have far := foreign_far foreign
  have decimal := (Bool.and_eq_true_iff.mp foreign).1
  apply Bool.eq_false_iff.mpr
  intro blank
  have listed : c.toNat ∈ [0x1680, 0x2028, 0x2029, 0x202F, 0x205F, 0x3000] ++ List.range' 0x2000 11 := by
    simp only [isBlank, Bool.or_eq_true, Bool.and_eq_true, decide_eq_true_eq] at blank
    simp only [List.mem_append, List.mem_cons, List.mem_range'_1, List.not_mem_nil, or_false]
    omega
  have outside := blank_points c.toNat listed
  rw [isDecimal, Charset.contains, outside] at decimal
  cases decimal

theorem foreign_cases (c : Char) : isDecimal c = true ↔ c.isDigit = true ∨ isForeign c = true := by
  rw [isForeign, Bool.and_eq_true, Bool.not_eq_true']
  constructor
  · intro decimal
    by_cases digit : c.isDigit = true
    · exact .inl digit
    · exact .inr ⟨decimal, Bool.eq_false_iff.mpr digit⟩
  · rintro (digit | ⟨decimal, _⟩)
    · exact digit_decimal digit
    · exact decimal

-- Writes an ASCII digit for every foreign one and keeps all else.
structure Transliterates (change : Char → Char) : Prop where
  kept : ∀ c, isForeign c = false → change c = c
  written : ∀ c, isForeign c = true → (change c).isDigit = true

def rewrite (digit c : Char) : Char := if isForeign c then digit else c

theorem rewrite_transliterates {digit : Char} (ascii : digit.isDigit = true) : Transliterates (rewrite digit) where
  kept := fun c own => by rw [rewrite, if_neg (by simp [own])]
  written := fun c foreign => by rwa [rewrite, if_pos foreign]

-- A text is accepted where it is so in every transliteration, that is, whichever ASCII digits are
-- written for its foreign ones.
def inAscii (language : Language Char) : Language Char :=
  {text | ∀ change, Transliterates change → text.map change ∈ language}

section Transliterated

variable {change : Char → Char} (transliterates : Transliterates change)
include transliterates

theorem change_digit (c : Char) : (change c).isDigit = true ↔ isDecimal c = true := by
  rw [foreign_cases]
  by_cases foreign : isForeign c = true
  · simp [foreign, transliterates.written c foreign]
  · rw [transliterates.kept c (Bool.eq_false_iff.mpr foreign)]
    simp [foreign]

theorem change_eq_iff {fixed : Char} (sign : isSign fixed = true) (c : Char) : change c = fixed ↔ c = fixed := by
  obtain ⟨noDigit, own⟩ := sign_parts sign
  by_cases foreign : isForeign c = true
  · constructor
    · intro same
      have digit := transliterates.written c foreign
      rw [same, noDigit] at digit
      cases digit
    · rintro rfl
      rw [own] at foreign
      cases foreign
  · rw [transliterates.kept c (Bool.eq_false_iff.mpr foreign)]

theorem change_blank (c : Char) : isBlank (change c) = isBlank c := by
  by_cases foreign : isForeign c = true
  · rw [foreign_solid foreign]
    exact (Decimal.digit_solid (transliterates.written c foreign)).1
  · rw [transliterates.kept c (Bool.eq_false_iff.mpr foreign)]

theorem trim_change (text : List Char) : trim (text.map change) = (trim text).map change := by
  have blanks : isBlank ∘ change = isBlank := funext (change_blank transliterates)
  simp only [trim, List.dropWhile_map, ← List.map_reverse, blanks]

theorem map_plain {text : List Char} (plain : ∀ c ∈ text, isForeign c = false) : text.map change = text := by
  rw [List.map_congr_left fun c member => transliterates.kept c (plain c member), List.map_id']

theorem map_eq_iff {fixed : List Char} (signs : fixed.all isSign = true) (text : List Char) :
    text.map change = fixed ↔ text = fixed := by
  induction fixed generalizing text with
  | nil => simp
  | cons first rest ih =>
      obtain ⟨sign, signs⟩ := Bool.and_eq_true_iff.mp signs
      cases text with
      | nil => simp
      | cons c others =>
          rw [List.map_cons, List.cons.injEq, List.cons.injEq, change_eq_iff transliterates sign, ih signs]

theorem pieces_change {separator : Char} (sign : isSign separator = true) (text : List Char) :
    pieces separator (text.map change) = (pieces separator text).map (List.map change) := by
  induction text with
  | nil => rfl
  | cons c rest ih =>
      by_cases same : c = separator
      · subst same
        have start (behind : List Char) : pieces c (c :: behind) = [] :: pieces c behind := pieces_append c [] behind
        rw [List.map_cons, transliterates.kept c (sign_parts sign).2, start, start, ih]
        rfl
      · have apart : change c ≠ separator := fun met => same ((change_eq_iff transliterates sign c).mp met)
        rw [List.map_cons, pieces_cons _ _ _ apart, pieces_cons _ _ _ same, ih]
        cases pieces separator rest <;> rfl

end Transliterated

theorem in_ascii_plain {language : Language Char} {text : List Char} (plain : ∀ c ∈ text, isForeign c = false) :
    text ∈ inAscii language ↔ text ∈ language := by
  constructor
  · intro written
    have one := written _ (rewrite_transliterates (show Char.isDigit '0' = true from rfl))
    rwa [map_plain (rewrite_transliterates rfl) plain] at one
  · intro member change transliterates
    rwa [map_plain transliterates plain]

theorem in_ascii_behind {word : List Char} (signs : word.all isSign = true) (language : Language Char) :
    inAscii (language * {word}) = inAscii language * {word} := by
  ext text
  constructor
  · intro every
    have someChange := rewrite_transliterates (show Char.isDigit '0' = true from rfl)
    obtain ⟨_, _, _, rfl, same⟩ := every _ someChange
    obtain ⟨front, back, rfl, _, closing⟩ := List.map_eq_append_iff.mp same.symm
    obtain rfl := (map_eq_iff someChange signs back).mp closing
    refine Language.append_mem_mul (fun change transliterates => ?_) rfl
    obtain ⟨_, member, _, rfl, same⟩ := every change transliterates
    rw [List.map_append, (map_eq_iff transliterates signs _).mpr rfl] at same
    rwa [← List.append_cancel_right same]
  · rintro ⟨front, every, _, rfl, rfl⟩ change transliterates
    rw [List.map_append, (map_eq_iff transliterates signs _).mpr rfl]
    exact Language.append_mem_mul (every change transliterates) rfl

theorem in_ascii_add {one other : Language Char} {mark : Char} (sign : isSign mark = true)
    (without : ∀ text ∈ one, mark ∉ text) (within : ∀ text ∈ other, mark ∈ text) :
    inAscii (one + other) = inAscii one + inAscii other := by
  have kept {change : Char → Char} (transliterates : Transliterates change) (text : List Char) :
      mark ∈ text.map change ↔ mark ∈ text := by
    simp only [List.mem_map, change_eq_iff transliterates sign, exists_eq_right]
  ext text
  constructor
  · intro every
    by_cases marked : mark ∈ text
    · refine .inr fun change transliterates => (every change transliterates).resolve_left fun member => ?_
      exact without _ member ((kept transliterates text).mpr marked)
    · refine .inl fun change transliterates => (every change transliterates).resolve_right fun member => ?_
      exact marked ((kept transliterates text).mp (within _ member))
  · rintro (every | every) change transliterates
    · exact .inl (every change transliterates)
    · exact .inr (every change transliterates)

structure Spells (ascii all : Language Char) : Prop where
  written : ∀ text ∈ all, ∀ change, Transliterates change → text.map change ∈ ascii
  read : ∀ text, text.map (rewrite '9') ∈ ascii → text ∈ all

namespace Spells

theorem in_ascii {ascii all : Language Char} (spells : Spells ascii all) : inAscii ascii = all :=
  Language.ext fun text => ⟨fun member => spells.read text (member _ (rewrite_transliterates rfl)), spells.written text⟩

theorem one : Spells 1 1 where
  written := by
    rintro _ rfl change _
    exact Language.nil_mem_one
  read := fun text member => List.map_eq_nil_iff.mp member

variable {ascii all ascii' all' : Language Char}

theorem add (first : Spells ascii all) (second : Spells ascii' all') : Spells (ascii + ascii') (all + all') where
  written := fun text member change transliterates =>
    member.imp (first.written text · change transliterates) (second.written text · change transliterates)
  read := fun text member => member.imp (first.read text) (second.read text)

theorem mul (first : Spells ascii all) (second : Spells ascii' all') : Spells (ascii * ascii') (all * all') where
  written := by
    rintro _ ⟨front, one, back, other, rfl⟩ change transliterates
    rw [List.map_append]
    exact Language.append_mem_mul (first.written front one change transliterates)
      (second.written back other change transliterates)
  read := by
    rintro text ⟨front, one, back, other, same⟩
    obtain ⟨start, rest, rfl, rfl, rfl⟩ := List.map_eq_append_iff.mp same.symm
    exact Language.append_mem_mul (first.read start one) (second.read rest other)

-- Where nines are written for foreign digits, what has no nines has had no foreign digits.
theorem fixed {language : Language Char} (own : ∀ word ∈ language, ∀ c ∈ word, isForeign c = false ∧ c ≠ '9') :
    Spells language language where
  written := fun word member change transliterates => by
    rwa [map_plain transliterates fun c there => (own word member c there).1]
  read := fun text member => by
    have plain : ∀ c ∈ text, isForeign c = false := by
      intro c there
      apply Bool.eq_false_iff.mpr
      intro foreign
      have nine : '9' ∈ text.map (rewrite '9') := List.mem_map.mpr ⟨c, there, if_pos foreign⟩
      exact (own _ member '9' nine).2 rfl
    rwa [map_plain (rewrite_transliterates rfl) plain] at member

theorem word {word : List Char} (low : word.all (·.toNat < 57) = true) : Spells {word} {word} := by
  refine fixed ?_
  rintro _ rfl c there
  have below : c.toNat < 57 := by simpa using List.all_eq_true.mp low c there
  refine ⟨low_own (by omega), ?_⟩
  rintro rfl
  exact Nat.lt_irrefl _ below

end Spells

def places : Language Char := {text | text ≠ [] ∧ ∀ c ∈ text, c.isDigit = true}

theorem places_spelled : Spells places (many1 digit).language where
  written := by
    intro text member change transliterates
    obtain ⟨filled, decimals⟩ := mem_many1.mp member
    refine ⟨by simpa using filled, fun c there => ?_⟩
    obtain ⟨own, known, rfl⟩ := List.mem_map.mp there
    exact (change_digit transliterates own).mpr (decimals own known)
  read := by
    rintro text ⟨filled, digits⟩
    refine mem_many1.mpr ⟨by simpa using filled, fun c there => ?_⟩
    exact (change_digit (rewrite_transliterates rfl) c).mp (digits _ (List.mem_map_of_mem there))

def numerals (limit : Nat) : Language Char := {text | ∃ value ≤ limit, text = Nat.toDigits 10 value}

def valueOf (c : Char) : Nat := c.toNat - 48

theorem digit_value {c : Char} (digit : c.isDigit = true) : valueOf c < 10 ∧ Nat.digitChar (valueOf c) = c := by
  obtain ⟨least, most⟩ := Char.isDigit_iff_toNat.mp digit
  have low : 48 ≤ c.toNat := least
  have high : c.toNat ≤ 57 := most
  have small : valueOf c < 10 := by
    rw [valueOf]
    omega
  refine ⟨small, Char.toNat_inj.mp ?_⟩
  rw [Nat.toNat_digitChar_of_lt_ten small, valueOf]
  omega

theorem value_digit {value : Nat} (small : value < 10) :
    (Nat.digitChar value).isDigit = true ∧ valueOf (Nat.digitChar value) = value := by
  refine ⟨by simpa [Nat.isDigit_digitChar] using small, ?_⟩
  rw [valueOf, Nat.toNat_digitChar_of_lt_ten small]
  omega

def Heads (c : Char) : Prop := c.isDigit = true ∧ c ≠ '0'

theorem heads_positive {c : Char} (heads : Heads c) : 0 < valueOf c := by
  obtain ⟨digit, noZero⟩ := heads
  apply Nat.pos_of_ne_zero
  intro zero
  have back := (digit_value digit).2
  rw [zero] at back
  exact noZero back.symm

theorem heads_digit {value : Nat} (positive : 0 < value) (small : value < 10) : Heads (Nat.digitChar value) := by
  refine ⟨(value_digit small).1, ?_⟩
  rw [Ne, Nat.digitChar_eq_zero]
  omega

theorem digits_single {digit : Char} (ascii : digit.isDigit = true) : Nat.toDigits 10 (valueOf digit) = [digit] := by
  obtain ⟨small, back⟩ := digit_value ascii
  rw [Nat.toDigits_of_lt_base small, back]

theorem digits_longer {value : Nat} {digit : Char} (positive : 0 < value) (ascii : digit.isDigit = true) :
    Nat.toDigits 10 (10 * value + valueOf digit) = Nat.toDigits 10 value ++ [digit] := by
  rw [← Nat.toDigits_append_toDigits (by decide) positive (digit_value ascii).1, digits_single ascii]

theorem mem_numerals {limit : Nat} (small : limit < 1000) (text : List Char) : text ∈ numerals limit ↔
    (∃ a, a.isDigit = true ∧ valueOf a ≤ limit ∧ text = [a]) ∨
    (∃ a b, Heads a ∧ b.isDigit = true ∧ 10 * valueOf a + valueOf b ≤ limit ∧ text = [a, b]) ∨
    ∃ a b c, Heads a ∧ b.isDigit = true ∧ c.isDigit = true ∧
      100 * valueOf a + 10 * valueOf b + valueOf c ≤ limit ∧ text = [a, b, c] := by
  constructor
  · rintro ⟨value, bounded, rfl⟩
    have unit : value % 10 < 10 := Nat.mod_lt value (by decide)
    by_cases one : value < 10
    · obtain ⟨digit, same⟩ := value_digit one
      exact .inl ⟨_, digit, by omega, Nat.toDigits_of_lt_base one⟩
    by_cases two : value < 100
    · have ten : value / 10 < 10 := by omega
      have spelled : Nat.toDigits 10 value = [Nat.digitChar (value / 10), Nat.digitChar (value % 10)] := by
        rw [Nat.toDigits_of_base_le (by decide) (by omega), Nat.toDigits_of_lt_base ten, List.singleton_append]
      refine .inr (.inl ⟨_, _, heads_digit (by omega) ten, (value_digit unit).1, ?_, spelled⟩)
      rw [(value_digit ten).2, (value_digit unit).2]
      omega
    · have hundred : value / 10 / 10 < 10 := by omega
      have ten : value / 10 % 10 < 10 := Nat.mod_lt _ (by decide)
      have spelled : Nat.toDigits 10 value =
          [Nat.digitChar (value / 10 / 10), Nat.digitChar (value / 10 % 10), Nat.digitChar (value % 10)] := by
        rw [Nat.toDigits_of_base_le (by decide) (by omega), Nat.toDigits_of_base_le (by decide) (by omega),
          Nat.toDigits_of_lt_base hundred]
        rfl
      refine .inr (.inr ⟨_, _, _, heads_digit (by omega) hundred, (value_digit ten).1, (value_digit unit).1, ?_,
        spelled⟩)
      rw [(value_digit hundred).2, (value_digit ten).2, (value_digit unit).2]
      omega
  · rintro (⟨a, digit, bounded, rfl⟩ | ⟨a, b, heads, digit, bounded, rfl⟩ |
      ⟨a, b, c, heads, digit, last, bounded, rfl⟩)
    · exact ⟨valueOf a, bounded, (digits_single digit).symm⟩
    · refine ⟨_, bounded, ?_⟩
      rw [digits_longer (heads_positive heads) digit, digits_single heads.1, List.singleton_append]
    · have positive := heads_positive heads
      refine ⟨10 * (10 * valueOf a + valueOf b) + valueOf c, by omega, ?_⟩
      rw [digits_longer (by omega) last, digits_longer positive digit, digits_single heads.1]
      rfl

def mostOf (c : Char) : Nat := if isForeign c then 9 else valueOf c

theorem value_most {change : Char → Char} (transliterates : Transliterates change) {c : Char}
    (decimal : isDecimal c = true) : valueOf (change c) ≤ mostOf c ∧ valueOf (rewrite '9' c) = mostOf c := by
  have digit := digit_value ((change_digit transliterates c).mpr decimal)
  by_cases foreign : isForeign c = true
  · rw [mostOf, if_pos foreign, rewrite, if_pos foreign]
    exact ⟨Nat.le_of_lt_succ digit.1, rfl⟩
  · rw [mostOf, if_neg foreign, rewrite, if_neg foreign, transliterates.kept c (Bool.eq_false_iff.mpr foreign)]
    exact ⟨Nat.le_refl _, rfl⟩

theorem digit_own {c : Char} (digit : c.isDigit = true) : isForeign c = false := by
  rw [isForeign, digit, Bool.not_true, Bool.and_false]

theorem heads_of_zeros {limit : Nat} (small : limit < 1000) {a b : Char} {rest : List Char}
    (zeros : (a :: b :: rest).map (rewrite '0') ∈ numerals limit) : Heads a := by
  have own (first : Char) (heads : Heads first) (same : rewrite '0' a = first) : Heads a := by
    by_cases foreign : isForeign a = true
    · rw [rewrite, if_pos foreign] at same
      exact absurd same.symm heads.2
    · rw [rewrite, if_neg foreign] at same
      exact same ▸ heads
  rw [mem_numerals small] at zeros
  rcases zeros with ⟨_, _, _, same⟩ | ⟨first, _, heads, _, _, same⟩ | ⟨first, _, _, heads, _, _, _, same⟩
  · cases (List.cons.inj same).2
  · exact own first heads (List.cons.inj same).1
  · exact own first heads (List.cons.inj same).1

-- A foreign digit stands in a numeral where it may be a nine, but not at the start of several digits, where it
-- may be a zero.
theorem mem_ascii_numerals {limit : Nat} (large : 99 ≤ limit) (small : limit < 1000) (text : List Char) :
    text ∈ inAscii (numerals limit) ↔
      (∃ a, isDecimal a = true ∧ text = [a]) ∨
      (∃ a b, Heads a ∧ isDecimal b = true ∧ text = [a, b]) ∨
      ∃ a b c, Heads a ∧ isDecimal b = true ∧ isDecimal c = true ∧
        100 * valueOf a + 10 * mostOf b + mostOf c ≤ limit ∧ text = [a, b, c] := by
  constructor
  · intro every
    have nines : Transliterates (rewrite '9') := rewrite_transliterates rfl
    have zeros := every _ (rewrite_transliterates (show Char.isDigit '0' = true from rfl))
    have decimal {c : Char} (digit : (rewrite '9' c).isDigit = true) : isDecimal c = true :=
      (change_digit nines c).mp digit
    rcases (mem_numerals small _).mp (every _ nines) with
      ⟨x, digit, _, spelled⟩ | ⟨x, y, _, digit, _, spelled⟩ | ⟨x, y, z, _, digit, last, bounded, spelled⟩
    · obtain ⟨a, rfl, rfl⟩ := List.map_eq_singleton_iff.mp spelled
      exact .inl ⟨a, decimal digit, rfl⟩
    · obtain ⟨a, _, rfl, rfl, more⟩ := List.map_eq_cons_iff.mp spelled
      obtain ⟨b, rfl, rfl⟩ := List.map_eq_singleton_iff.mp more
      exact .inr (.inl ⟨a, b, heads_of_zeros small zeros, decimal digit, rfl⟩)
    · obtain ⟨a, others, rfl, rfl, more⟩ := List.map_eq_cons_iff.mp spelled
      obtain ⟨b, rest, rfl, rfl, lastOne⟩ := List.map_eq_cons_iff.mp more
      obtain ⟨c, rfl, rfl⟩ := List.map_eq_singleton_iff.mp lastOne
      have heads := heads_of_zeros small zeros
      rw [nines.kept a (digit_own heads.1), (value_most nines (decimal digit)).2,
        (value_most nines (decimal last)).2] at bounded
      exact .inr (.inr ⟨a, b, c, heads, decimal digit, decimal last, bounded, rfl⟩)
  · intro forms change transliterates
    have digit {c : Char} (decimal : isDecimal c = true) : (change c).isDigit = true :=
      (change_digit transliterates c).mpr decimal
    rw [mem_numerals small]
    rcases forms with ⟨a, decimal, rfl⟩ | ⟨a, b, heads, decimal, rfl⟩ |
      ⟨a, b, c, heads, decimal, last, bounded, rfl⟩
    · have low := (digit_value (digit decimal)).1
      exact .inl ⟨_, digit decimal, by omega, rfl⟩
    · have first := (digit_value heads.1).1
      have low := (digit_value (digit decimal)).1
      refine .inr (.inl ⟨a, _, heads, digit decimal, by omega, ?_⟩)
      rw [List.map_cons, transliterates.kept a (digit_own heads.1)]
      rfl
    · have middle := (value_most transliterates decimal).1
      have low := (value_most transliterates last).1
      refine .inr (.inr ⟨a, _, _, heads, digit decimal, digit last, by omega, ?_⟩)
      rw [List.map_cons, transliterates.kept a (digit_own heads.1)]
      rfl

end RecordRules.Format
