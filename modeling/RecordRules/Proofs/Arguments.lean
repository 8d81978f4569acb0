import Mathlib.Data.List.Forall2
import RecordRules.Proofs.Decoding
import RecordRules.Proofs.ForeignDigits
import RecordRules.Proofs.TextFormats

set_option autoImplicit false

namespace RecordRules.Format

open Text Pattern

theorem partner {α β : Type} {related : α → β → Prop} {firsts : List α} {seconds : List β}
    (pairs : List.Forall₂ related firsts seconds) {second : β} (member : second ∈ seconds) :
    ∃ first ∈ firsts, related first second := by
  induction pairs with
  | nil => cases member
  | @cons first other _ _ pair _ ih =>
      rcases List.mem_cons.mp member with rfl | later
      · exact ⟨first, List.mem_cons_self, pair⟩
      · obtain ⟨own, there, pair⟩ := ih later
        exact ⟨own, List.mem_cons_of_mem _ there, pair⟩

theorem pairs_for_all {ι α β : Type} {chosen : ι → Prop} {related : ι → α → β → Prop} (someChoice : ∃ i, chosen i)
    {firsts : List α} {seconds : List β} (pairs : ∀ i, chosen i → List.Forall₂ (related i) firsts seconds) :
    List.Forall₂ (fun first second => ∀ i, chosen i → related i first second) firsts seconds := by
  obtain ⟨i, choice⟩ := someChoice
  have one := pairs i choice
  induction one with
  | nil => exact .nil
  | cons _ _ ih =>
      exact .cons (fun i choice => (List.forall₂_cons.mp (pairs i choice)).1)
        (ih fun i choice => (List.forall₂_cons.mp (pairs i choice)).2)

def Solid (language : Language Char) : Prop := ∀ word ∈ language, ∀ c ∈ word, isBlank c = false ∧ c ≠ ','

def blanks : Language Char := {text | ∀ c ∈ text, isBlank c = true}

def padded (language : Language Char) : Language Char := blanks * language * blanks

def row : List (Language Char) → Language Char
  | [] => 0
  | [last] => padded last
  | first :: rest => padded first * ({[',']} * row rest)

theorem row_cons (first : Language Char) {rest : List (Language Char)} (several : rest ≠ []) :
    row (first :: rest) = padded first * ({[',']} * row rest) := by
  cases rest with
  | nil => exact absurd rfl several
  | cons => rfl

theorem language_spaces : spaces.language = blanks := by
  ext text
  rw [spaces, mem_many]
  simp only [contains_space]
  rfl

theorem mem_padded {language : Language Char} (solid : Solid language) (text : List Char) :
    text ∈ padded language ↔ trim text ∈ language := by
  constructor
  · rintro ⟨_, ⟨front, frontBlank, word, own, rfl⟩, back, backBlank, rfl⟩
    rwa [trim_behind _ back backBlank, trim_ahead front word frontBlank,
      trim_blankless word fun c there => (solid word own c there).1]
  · intro own
    obtain ⟨front, back, parts, frontBlank, backBlank⟩ := trim_parts text
    rw [parts]
    exact Language.append_mem_mul (Language.append_mem_mul frontBlank own) backBlank

theorem comma_apart {language : Language Char} (solid : Solid language) {text : List Char}
    (own : trim text ∈ language) : ',' ∉ text := fun there =>
  (solid _ own ',' ((mem_trim text ',' rfl).mpr there)).2 rfl

theorem first_piece (separator : Char) (text : List Char) :
    pieces separator text = [text] ∨ ∃ before after, text = before ++ separator :: after ∧
      pieces separator text = before :: pieces separator after := by
  by_cases member : separator ∈ text
  · obtain ⟨before, after, rfl, outside⟩ := List.eq_append_cons_of_mem member
    refine .inr ⟨before, after, rfl, ?_⟩
    rw [pieces_append, pieces_whole separator before outside, List.singleton_append]
  · exact .inl (pieces_whole separator text member)

theorem mem_row {arguments : List (Language Char)} (solid : ∀ argument ∈ arguments, Solid argument)
    (text : List Char) : text ∈ row arguments ↔
      List.Forall₂ (fun argument part => trim part ∈ argument) arguments (pieces ',' text) := by
  have somePiece (text : List Char) : pieces ',' text ≠ [] := List.splitOn_ne_nil ',' text
  -- Solid words hold no comma, so that the first padded argument ends where the first piece does.
  induction arguments using row.induct generalizing text with
  | case1 =>
      rw [List.forall₂_nil_left_iff]
      exact ⟨fun noneThere => absurd noneThere (Language.notMem_zero text),
        fun noneThere => absurd noneThere (somePiece text)⟩
  | case2 last =>
      have own := solid last List.mem_cons_self
      rw [row, mem_padded own]
      constructor
      · intro member
        rw [pieces_whole ',' text (comma_apart own member)]
        exact .cons member .nil
      · rcases first_piece ',' text with alone | ⟨_, after, _, parts⟩
        · rw [alone]
          exact fun pairs => (List.forall₂_cons.mp pairs).1
        · rw [parts]
          intro pairs
          exact absurd (List.forall₂_nil_left_iff.mp (List.forall₂_cons.mp pairs).2) (somePiece after)
  | case3 first rest several ih =>
      obtain ⟨own, later⟩ := List.forall_mem_cons.mp solid
      rw [row_cons first several]
      constructor
      · rintro ⟨front, member, _, ⟨_, rfl, back, behind, rfl⟩, rfl⟩
        have alone := (mem_padded own front).mp member
        change List.Forall₂ _ _ (pieces ',' (front ++ ',' :: back))
        rw [pieces_append, pieces_whole ',' front (comma_apart own alone)]
        exact .cons alone ((ih later back).mp behind)
      · rcases first_piece ',' text with alone | ⟨before, after, rfl, parts⟩
        · rw [alone]
          intro pairs
          exact absurd (List.forall₂_nil_right_iff.mp (List.forall₂_cons.mp pairs).2) several
        · rw [parts]
          intro pairs
          obtain ⟨alone, others⟩ := List.forall₂_cons.mp pairs
          exact Language.append_mem_mul ((mem_padded own before).mpr alone)
            (Language.append_mem_mul (a := [',']) rfl ((ih later after).mpr others))

theorem row_behind {arguments : List (Language Char)} (several : arguments ≠ []) (last : Language Char) :
    row (arguments ++ [last]) = row arguments * ({[',']} * padded last) := by
  induction arguments using row.induct with
  | case1 => exact absurd rfl several
  | case2 => rfl
  | case3 first rest someRest ih =>
      rw [List.cons_append, row_cons first (by simp), row_cons first someRest, ih someRest, mul_assoc, mul_assoc]

theorem language_comma : comma.language = blanks * ({[',']} * blanks) := by
  simp only [comma, language_sequence, List.map_cons, List.map_nil, List.prod_cons, List.prod_nil, mul_one,
    language_literal, language_spaces]
  rfl

theorem padded_add (one other : Language Char) : padded (one + other) = padded one + padded other := by
  rw [padded, mul_add, add_mul, padded, padded]

theorem padded_triple (a b c : Pattern) :
    padded (triple a b c).language = row [a.language, b.language, c.language] := by
  simp only [triple, row, padded, language_sequence, language_comma, List.map_cons, List.map_nil, List.prod_cons,
    List.prod_nil, mul_one, mul_assoc]

theorem padded_opacity (arguments : Pattern) : padded (withOpacity arguments).language =
    padded arguments.language * ({[',']} * padded opacity.language) := by
  simp only [withOpacity, padded, language_sequence, language_comma, List.map_cons, List.map_nil, List.prod_cons,
    List.prod_nil, mul_one, mul_assoc]

def called (name : String) (inner : List Char) : List Char := name.toList ++ '(' :: inner ++ [')']

theorem called_injective (name : String) : Function.Injective (called name) := by
  intro inner other same
  have opened : '(' :: inner = '(' :: other := List.append_cancel_left (List.append_cancel_right same)
  exact (List.cons.inj opened).2

def calls (name : String) (arguments : List (Language Char)) : Language Char :=
  {text | ∃ inner, text = called name inner ∧
    List.Forall₂ (fun argument part => trim part ∈ argument) arguments (pieces ',' inner)}

theorem mem_calls {name : String} {arguments : List (Language Char)}
    (solid : ∀ argument ∈ arguments, Solid argument) (text : List Char) :
    text ∈ calls name arguments ↔ ∃ inner ∈ row arguments, text = called name inner :=
  exists_congr fun inner => and_comm.trans (and_congr_left fun _ => (mem_row solid inner).symm)

theorem call_iff {name : String} {pattern : Pattern} (free : pattern.isFree = true) (text : String) :
    (call name pattern).isMatch text = true ↔ ∃ inner ∈ padded pattern.language, text.toList = called name inner := by
  have allFree : (sequence [literal name, literal "(", spaces, pattern, spaces, literal ")"]).isFree = true := by
    simp only [Pattern.sequence, List.foldr_cons, List.foldr_nil, isFree, literal_free, free, spaces, many,
      Bool.and_self]
  have spelled : (sequence [literal name, literal "(", spaces, pattern, spaces, literal ")"]).language =
      {name.toList} * ({['(']} * (padded pattern.language * {[')']})) := by
    simp only [language_sequence, List.map_cons, List.map_nil, List.prod_cons, List.prod_nil, mul_one,
      language_literal, language_spaces, padded, mul_assoc]
    rfl
  rw [call, whole_iff allFree, spelled]
  constructor
  · rintro ⟨_, rfl, _, ⟨_, rfl, _, ⟨inner, member, _, rfl, rfl⟩, rfl⟩, same⟩
    exact ⟨inner, member, by simp [called, ← same]⟩
  · rintro ⟨inner, member, same⟩
    have parts : called name inner = name.toList ++ (['('] ++ (inner ++ [')'])) := by simp [called]
    rw [same, parts]
    exact Language.append_mem_mul rfl (Language.append_mem_mul (a := ['(']) rfl (Language.append_mem_mul member rfl))

theorem calls_char {name : String} {arguments : List (Language Char)} {text : List Char}
    (member : text ∈ calls name arguments) {c : Char} (there : c ∈ text) :
    c ∈ name.toList ∨ c ∈ "(),".toList ∨ isBlank c = true ∨ ∃ argument ∈ arguments, ∃ word ∈ argument, c ∈ word := by
  obtain ⟨inner, rfl, pairs⟩ := member
  rw [called, List.append_assoc, List.mem_append, List.cons_append, List.mem_cons, List.mem_append,
    List.mem_singleton] at there
  rcases there with named | rfl | within | rfl
  · exact .inl named
  · exact .inr (.inl (by decide))
  · by_cases comma : c = ','
    · exact .inr (.inl (by simp [comma]))
    by_cases blank : isBlank c = true
    · exact .inr (.inr (.inl blank))
    · obtain ⟨piece, listed, held⟩ := (split_parts (· == ',') inner).2 c within (by simpa using comma)
      obtain ⟨argument, known, own⟩ := partner pairs listed
      have kept : c ∈ trim piece := (mem_trim piece c (Bool.eq_false_iff.mpr blank)).mpr held
      exact .inr (.inr (.inr ⟨argument, known, trim piece, own, kept⟩))
  · exact .inr (.inl (by decide))

section Transliterated

variable {name : String} (signs : name.toList.all isSign = true)
include signs

theorem map_called {change : Char → Char} (transliterates : Transliterates change) (inner : List Char) :
    (called name inner).map change = called name (inner.map change) := by
  rw [called, List.map_append, List.map_append, List.map_cons, transliterates.kept '(' (low_own (by decide)),
    map_plain transliterates fun c there => (sign_parts (List.all_eq_true.mp signs c there)).2, List.map_singleton,
    transliterates.kept ')' (low_own (by decide)), called]

theorem called_of_map {change : Char → Char} (transliterates : Transliterates change) {text inner : List Char}
    (same : text.map change = called name inner) : ∃ own, text = called name own ∧ own.map change = inner := by
  obtain ⟨_, back, rfl, start, closing⟩ := List.map_eq_append_iff.mp same
  obtain ⟨front, _, rfl, named, opened⟩ := List.map_eq_append_iff.mp start
  obtain ⟨first, own, rfl, opening, ownSame⟩ := List.map_eq_cons_iff.mp opened
  obtain rfl := (map_eq_iff transliterates signs front).mp named
  obtain rfl := (change_eq_iff transliterates (show isSign '(' = true from rfl) first).mp opening
  obtain rfl := (map_eq_iff transliterates (show [')'].all isSign = true from rfl) back).mp closing
  exact ⟨own, rfl, ownSame⟩

theorem in_ascii_calls (arguments : List (Language Char)) :
    inAscii (calls name arguments) = calls name (arguments.map inAscii) := by
  have cut {change : Char → Char} (transliterates : Transliterates change) (inner : List Char) :
      pieces ',' (inner.map change) = (pieces ',' inner).map (List.map change) :=
    pieces_change transliterates rfl inner
  ext text
  constructor
  · intro every
    have someChange := rewrite_transliterates (show Char.isDigit '0' = true from rfl)
    obtain ⟨_, same, _⟩ := every _ someChange
    -- Any one transliteration shows the frame of the call; the others then differ between the parentheses only.
    obtain ⟨inner, rfl, _⟩ := called_of_map signs someChange same
    refine ⟨inner, rfl, List.forall₂_map_left_iff.mpr (pairs_for_all ⟨_, someChange⟩ fun change transliterates => ?_)⟩
    obtain ⟨_, same, pairs⟩ := every change transliterates
    rw [map_called signs transliterates] at same
    rw [← called_injective name same, cut transliterates, List.forall₂_map_right_iff] at pairs
    refine pairs.imp fun argument part member => ?_
    rwa [trim_change transliterates] at member
  · rintro ⟨inner, rfl, pairs⟩ change transliterates
    refine ⟨inner.map change, map_called signs transliterates inner, ?_⟩
    rw [cut transliterates, List.forall₂_map_right_iff]
    refine (List.forall₂_map_left_iff.mp pairs).imp fun argument part member => ?_
    rw [trim_change transliterates]
    exact member change transliterates

end Transliterated

end RecordRules.Format
