import RecordRules.Proofs.Arguments
import RecordRules.Proofs.Channels

set_option autoImplicit false

namespace RecordRules.Format

open Text Pattern

variable {n : Nat}

def numbers : Language Char := (1 + ({['+']} + {['-']})) * (places * (1 + {['.']} * places))

def grammars : List (String × Language Char) := [
  ("numeric", numbers),
  ("rgb", calls "rgb" [numerals 255, numerals 255, numerals 255] +
    calls "rgb" [percentages, percentages, percentages]),
  ("rgba", calls "rgba" [numerals 255, numerals 255, numerals 255, opacities] +
    calls "rgba" [percentages, percentages, percentages, opacities]),
  ("hsl", calls "hsl" [numerals 360, percentages, percentages]),
  ("hsla", calls "hsla" [numerals 360, percentages, percentages, opacities])]

def Figures (signs : List Char) (language : Language Char) : Prop :=
  ∀ word ∈ language, ∀ c ∈ word, c.isDigit = true ∨ c ∈ signs

section

variable {signs : List Char} {one other : Language Char}

theorem figures_add (first : Figures signs one) (second : Figures signs other) : Figures signs (one + other) :=
  fun word member => member.elim (first word) (second word)

theorem figures_mul (first : Figures signs one) (second : Figures signs other) : Figures signs (one * other) := by
  rintro _ ⟨front, own, back, behind, rfl⟩ c there
  exact (List.mem_append.mp there).elim (first front own c) (second back behind c)

theorem figures_word {word : List Char} (figures : ∀ c ∈ word, c.isDigit = true ∨ c ∈ signs) :
    Figures signs {word} := by
  rintro _ rfl
  exact figures

theorem figures_one : Figures signs 1 := figures_word nofun

theorem figures_sign {sign : Char} (known : sign ∈ signs) : Figures signs {[sign]} :=
  figures_word (List.forall_mem_singleton.mpr (.inr known))

theorem figures_places : Figures signs places := fun _ member c there => .inl (member.2 c there)

theorem figures_numerals (limit : Nat) : Figures signs (numerals limit) := by
  rintro _ ⟨value, _, rfl⟩ c there
  exact .inl (Nat.isDigit_of_mem_toDigits (by decide) (by decide) there)

theorem figures_percentages (sign : '%' ∈ signs) : Figures signs percentages :=
  figures_mul (figures_numerals 100) (figures_sign sign)

theorem figures_opacities (point : '.' ∈ signs) : Figures signs opacities := by
  have dot : Figures signs {['.']} := figures_sign point
  have zero : Figures signs {['0']} := figures_word (by simp)
  have wholeOne : Figures signs {['1']} := figures_word (by simp)
  have allZeros : Figures signs zeros := fun _ member c there => .inl (member.2 c there ▸ rfl)
  exact figures_add (figures_mul (figures_add zero wholeOne) (figures_add figures_one (figures_mul dot allZeros)))
    (figures_mul (figures_add figures_one zero) (figures_mul dot figures_places))

theorem figures_mono {more : List Char} (figures : Figures signs one) (included : signs ⊆ more) : Figures more one :=
  fun word member c there => (figures word member c there).imp_right fun known => included known

theorem figures_own (figures : Figures signs one) (ascii : signs.all isSign = true) :
    ∀ word ∈ one, ∀ c ∈ word, isForeign c = false := by
  intro word member c there
  rcases figures word member c there with digit | known
  · exact digit_own digit
  · exact (sign_parts (List.all_eq_true.mp ascii c known)).2

theorem solid_in_ascii (figures : Figures signs one) (apart : ∀ c ∈ signs, isBlank c = false ∧ c ≠ ',') :
    Solid (inAscii one) := by
  intro word every c there
  have nines : Transliterates (rewrite '9') := rewrite_transliterates rfl
  have solid : isBlank (rewrite '9' c) = false ∧ rewrite '9' c ≠ ',' := by
    rcases figures _ (every _ nines) _ (List.mem_map_of_mem there) with digit | sign
    · refine ⟨(Decimal.digit_solid digit).1, fun comma => ?_⟩
      rw [comma] at digit
      cases digit
    · exact apart _ sign
  rw [change_blank nines] at solid
  exact ⟨solid.1, fun comma => solid.2 ((change_eq_iff nines rfl c).mpr comma)⟩

end

theorem numeric_iff (text : String) : numeric.isMatch text = true ↔ text.toList ∈ inAscii numbers := by
  have signs : (char (Charset.oneOf "-+")).language = {['+']} + {['-']} := by
    ext text
    simp only [mem_char, contains_one_of]
    constructor
    · rintro ⟨c, member, rfl⟩
      rcases List.mem_pair.mp member with rfl | rfl
      · exact .inr rfl
      · exact .inl rfl
    · rintro (rfl | rfl)
      · exact ⟨'+', by decide, rfl⟩
      · exact ⟨'-', by decide, rfl⟩
  have plus : Spells {['+']} {['+']} := .word (by decide)
  have minus : Spells {['-']} {['-']} := .word (by decide)
  have point : Spells {['.']} {['.']} := .word (by decide)
  have spelled := (Spells.one.add (plus.add minus)).mul
    (places_spelled.mul (Spells.one.add (point.mul places_spelled)))
  rw [numbers, spelled.in_ascii, numeric, whole_iff rfl]
  simp only [language_sequence, List.map_cons, List.map_nil, List.prod_cons, List.prod_nil, mul_one,
    language_optional, language_literal, signs]
  rfl

theorem numbers_own : ∀ text ∈ numbers, ∀ c ∈ text, isForeign c = false := by
  have point : Figures ['+', '-', '.'] {['.']} := figures_sign (by decide)
  have sign : Figures ['+', '-', '.'] ({['+']} + {['-']}) :=
    figures_add (figures_sign (by decide)) (figures_sign (by decide))
  exact figures_own (figures_mul (figures_add figures_one sign)
    (figures_mul figures_places (figures_add figures_one (figures_mul point figures_places)))) (by decide)

theorem percent_inside {name : String} (rest : List (Language Char)) {text : List Char}
    (member : text ∈ calls name (percentages :: rest)) : '%' ∈ text := by
  obtain ⟨inner, rfl, pairs⟩ := member
  obtain ⟨part, parts, own, _, cut⟩ := List.forall₂_cons_left_iff.mp pairs
  obtain ⟨front, _, back, rfl, spelled⟩ := own
  have trimmed : '%' ∈ trim part := by
    rw [← spelled]
    exact List.mem_append_right front List.mem_cons_self
  have piece : part ∈ pieces ',' inner := cut ▸ List.mem_cons_self
  have held : '%' ∈ inner := (mem_pieces piece).2.mem ((mem_trim part '%' rfl).mp trimmed)
  simp [called, held]

section Colours

variable {name : String} (signs : name.toList.all isSign = true)
  {one other : List (Language Char)}
include signs

theorem calls_own (figures : ∀ argument ∈ one, Figures ['.', '%'] argument) :
    ∀ text ∈ calls name one, ∀ c ∈ text, isForeign c = false := by
  intro text member c there
  have around : "(),".toList.all isSign = true := rfl
  rcases calls_char member there with named | sign | blank | ⟨argument, known, word, own, held⟩
  · exact (sign_parts (List.all_eq_true.mp signs c named)).2
  · exact (sign_parts (List.all_eq_true.mp around c sign)).2
  · apply Bool.eq_false_iff.mpr
    intro foreign
    rw [foreign_solid foreign] at blank
    cases blank
  · exact figures_own (figures argument known) (by decide) word own c held

theorem calls_foreign (figures : ∀ argument ∈ one, Figures ['.', '%'] argument) (text : List Char) :
    text ∈ inAscii (calls name one) ↔ ∃ inner ∈ row (one.map inAscii), text = called name inner := by
  rw [in_ascii_calls signs]
  refine mem_calls (fun argument known => ?_) text
  obtain ⟨ascii, listed, rfl⟩ := List.mem_map.mp known
  exact solid_in_ascii (figures ascii listed) (by simp [isBlank])

theorem call_single {pattern : Pattern} (free : pattern.isFree = true)
    (figures : ∀ argument ∈ one, Figures ['.', '%'] argument)
    (read : padded pattern.language = row (one.map inAscii)) (text : String) :
    (call name pattern).isMatch text = true ↔ text.toList ∈ inAscii (calls name one) := by
  rw [call_iff free, read, calls_foreign signs figures]

-- Percent signs tell whether all channels are numbers or all are percentages.
theorem call_either {pattern : Pattern} (free : pattern.isFree = true) (unsigned : '%' ∉ name.toList)
    (figures : ∀ argument ∈ one, Figures ['.'] argument)
    (otherFigures : ∀ argument ∈ percentages :: other, Figures ['.', '%'] argument)
    (read : padded pattern.language = row (one.map inAscii) + row ((percentages :: other).map inAscii))
    (text : String) : (call name pattern).isMatch text = true ↔
      text.toList ∈ inAscii (calls name one + calls name (percentages :: other)) := by
  have without : ∀ text ∈ calls name one, '%' ∉ text := by
    intro text member there
    rcases calls_char member there with named | sign | blank | ⟨argument, known, word, own, held⟩
    · exact unsigned named
    · revert sign
      decide
    · cases blank
    · rcases figures argument known word own '%' held with digit | sign
      · cases digit
      · revert sign
        decide
  have oneFigures : ∀ argument ∈ one, Figures ['.', '%'] argument :=
    fun argument known => figures_mono (figures argument known) (by simp)
  rw [call_iff free, read, in_ascii_add rfl without fun _ => percent_inside other,
    Language.mem_add, calls_foreign signs oneFigures, calls_foreign signs otherFigures]
  simp only [Language.mem_add, or_and_right, exists_or]

end Colours

theorem padded_channels : padded channels.language =
    row ([numerals 255, numerals 255, numerals 255].map inAscii) +
      row ([percentages, percentages, percentages].map inAscii) := by
  have either : channels.language = (triple byte byte byte).language + (triple percent percent percent).language := rfl
  rw [either, padded_add, padded_triple, padded_triple, byte_language, percent_language]
  rfl

theorem padded_hue : padded (triple hue percent percent).language =
    row ([numerals 360, percentages, percentages].map inAscii) := by
  rw [padded_triple, hue_language, percent_language]
  rfl

theorem rgb_iff (text : String) : rgb.isMatch text = true ↔
    text.toList ∈ inAscii (calls "rgb" [numerals 255, numerals 255, numerals 255] +
      calls "rgb" [percentages, percentages, percentages]) :=
  call_either (by decide) rfl (by decide) (by simp [figures_numerals]) (by simp [figures_percentages]) padded_channels
    text

theorem rgba_iff (text : String) : rgba.isMatch text = true ↔
    text.toList ∈ inAscii (calls "rgba" [numerals 255, numerals 255, numerals 255, opacities] +
      calls "rgba" [percentages, percentages, percentages, opacities]) := by
  refine call_either (by decide) rfl (by decide) (by simp [figures_numerals, figures_opacities])
    (by simp [figures_percentages, figures_opacities]) ?_ text
  rw [padded_opacity, opacity_language, padded_channels, add_mul, ← row_behind (by simp), ← row_behind (by simp)]
  rfl

theorem hsl_iff (text : String) : hsl.isMatch text = true ↔
    text.toList ∈ inAscii (calls "hsl" [numerals 360, percentages, percentages]) :=
  call_single (by decide) rfl (by simp [figures_numerals, figures_percentages]) padded_hue text

theorem hsla_iff (text : String) : hsla.isMatch text = true ↔
    text.toList ∈ inAscii (calls "hsla" [numerals 360, percentages, percentages, opacities]) := by
  refine call_single (by decide) rfl (by simp [figures_numerals, figures_percentages, figures_opacities]) ?_ text
  rw [padded_opacity, opacity_language, padded_hue, ← row_behind (by simp)]
  rfl

theorem accepts_iff {entry : String × Language Char} (member : entry ∈ grammars) (text : String) :
    accepts entry.1 (.str text : Value n) = true ↔ text.toList ∈ inAscii entry.2 := by
  simp only [grammars, List.mem_cons, List.not_mem_nil, or_false] at member
  rcases member with rfl | rfl | rfl | rfl | rfl
  · have builtin : Catalog.plain "numeric" (Check.letters numeric "numeric" "String must be a number") ∈
        Catalog.builtins (n := n) := by
      simp [Catalog.builtins]
    rw [← numeric_iff, accepts_text builtin]
  · have builtin : Catalog.format "rgb" rgb "rgb color" ∈ Catalog.builtins (n := n) := by simp [Catalog.builtins]
    rw [← rgb_iff, accepts_format builtin]
  · have builtin : Catalog.format "rgba" rgba "rgba color" ∈ Catalog.builtins (n := n) := by simp [Catalog.builtins]
    rw [← rgba_iff, accepts_format builtin]
  · have builtin : Catalog.format "hsl" hsl "hsl color" ∈ Catalog.builtins (n := n) := by simp [Catalog.builtins]
    rw [← hsl_iff, accepts_format builtin]
  · have builtin : Catalog.format "hsla" hsla "hsla color" ∈ Catalog.builtins (n := n) := by simp [Catalog.builtins]
    rw [← hsla_iff, accepts_format builtin]

theorem grammar_own {entry : String × Language Char} (member : entry ∈ grammars) :
    ∀ text ∈ entry.2, ∀ c ∈ text, isForeign c = false := by
  simp only [grammars, List.mem_cons, List.not_mem_nil, or_false] at member
  rcases member with rfl | rfl | rfl | rfl | rfl
  · exact numbers_own
  · rintro text (numbers | percent)
    · exact calls_own (by decide) (by simp [figures_numerals]) text numbers
    · exact calls_own (by decide) (by simp [figures_percentages]) text percent
  · rintro text (numbers | percent)
    · exact calls_own (by decide) (by simp [figures_numerals, figures_opacities]) text numbers
    · exact calls_own (by decide) (by simp [figures_percentages, figures_opacities]) text percent
  · exact calls_own (by decide) (by simp [figures_numerals, figures_percentages])
  · exact calls_own (by decide) (by simp [figures_numerals, figures_percentages, figures_opacities])

theorem accepts_numeric_format {entry : String × Language Char} (member : entry ∈ grammars) (text : String) :
    (accepts entry.1 (.str text : Value n) = true ↔ text.toList ∈ inAscii entry.2) ∧
      (text.toList ∈ entry.2 ↔
        accepts entry.1 (.str text : Value n) = true ∧ ∀ c ∈ text.toList, isForeign c = false) := by
  have found := accepts_iff (n := n) member text
  refine ⟨found, ?_⟩
  rw [found]
  constructor
  · intro written
    have own := grammar_own member text.toList written
    exact ⟨(in_ascii_plain own).mpr written, own⟩
  · rintro ⟨every, own⟩
    exact (in_ascii_plain own).mp every

theorem accepts_hue : ("hsl", calls "hsl" [numerals 360, percentages, percentages]) ∈ grammars ∧
    "hsl( 359,0%,0%)".toList ∈ calls "hsl" [numerals 360, percentages, percentages] ∧
    "hsl(35٣,0%,0%)".toList ∈ inAscii (calls "hsl" [numerals 360, percentages, percentages]) ∧
    "hsl(35٣,0%,0%)".toList ∉ calls "hsl" [numerals 360, percentages, percentages] := by
  have member : ("hsl", calls "hsl" [numerals 360, percentages, percentages]) ∈ grammars := by simp [grammars]
  have low : "hsl( 359,0%,0%)".toList.all (·.toNat < 0x660) = true := rfl
  have own : ∀ c ∈ "hsl( 359,0%,0%)".toList, isForeign c = false := fun c there =>
    low_own (by simpa using List.all_eq_true.mp low c there)
  obtain ⟨found, exactly⟩ := accepts_numeric_format (n := 0) member "hsl(35٣,0%,0%)"
  refine ⟨member, ?_, found.mp (by decide +kernel), fun written => ?_⟩
  · exact (accepts_numeric_format (n := 0) member "hsl( 359,0%,0%)").2.mpr ⟨by decide +kernel, own⟩
  · exact absurd ((exactly.mp written).2 '٣' (by decide)) (by decide)

theorem accepts_foreign_digits :
    (accepts "numeric" (.str "٣" : Value 0) = true ∧ "٣".toList ∉ numbers) ∧
    accepts "rgb" (.str "rgb(٣,0,0)" : Value 0) = true ∧
      "rgb(٣,0,0)".toList ∉ calls "rgb" [numerals 255, numerals 255, numerals 255] +
        calls "rgb" [percentages, percentages, percentages] := by
  have foreign : isForeign '٣' = true := by decide
  refine ⟨⟨by decide +kernel, fun written => ?_⟩, by decide +kernel, fun written => ?_⟩
  · have own := numbers_own _ written '٣' (by decide)
    exact absurd (own.symm.trans foreign) nofun
  · have member : ("rgb", calls "rgb" [numerals 255, numerals 255, numerals 255] +
        calls "rgb" [percentages, percentages, percentages]) ∈ grammars := by simp [grammars]
    have own := grammar_own member _ written '٣' (by decide)
    exact absurd (own.symm.trans foreign) nofun

end RecordRules.Format
