import Mathlib.Computability.Language
import Mathlib.Tactic.IntervalCases
import RecordRules.Proofs.Matching

set_option autoImplicit false

namespace RecordRules.Pattern

-- A pattern that looks at no place matches a part of a text whatever stands around it, so that what it
-- matches is a language.
def isFree : Pattern → Bool
  | empty | char _ => true
  | look _ => false
  | cat a b | alt a b => a.isFree && b.isFree
  | repeated a _ _ => a.isFree

def language : Pattern → Language Char
  | empty | look _ => 1
  | char set => {text | ∃ c, set.contains c = true ∧ text = [c]}
  | cat a b => a.language * b.language
  | alt a b => a.language + b.language
  | repeated a min max =>
      {text | ∃ count, Allows min max count ∧ text ∈ a.language ^ count}

theorem literal_free (spelled : String) : (literal spelled).isFree = true := by
  rw [literal]
  induction spelled.toList with
  | nil => rfl
  | cons c rest ih => exact ih

theorem matched_mem {pattern : Pattern} {before part after : List Char}
    (matched : pattern.Matches before part after) : part ∈ pattern.language := by
  induction matched with
  | empty | look => exact Language.nil_mem_one
  | @char _ c _ _ member => exact ⟨c, member, rfl⟩
  | cat _ _ first second => exact Language.append_mem_mul first second
  | left _ one => exact .inl one
  | right _ other => exact .inr other
  | done => exact ⟨0, allows_zero.mpr rfl, Language.nil_mem_one⟩
  | again room _ _ first later =>
      obtain ⟨count, allowed, rounds⟩ := later
      refine ⟨count + 1, allows_succ.mpr ⟨room, allowed⟩, ?_⟩
      rw [pow_succ']
      exact Language.append_mem_mul first rounds

theorem matches_rounds {a : Pattern} (own : ∀ part ∈ a.language, ∀ before after, a.Matches before part after)
    {count min : Nat} {max : Option Nat} (allowed : Allows min max count) {part : List Char}
    (rounds : part ∈ a.language ^ count) (before after : List Char) :
    (repeated a min max).Matches before part after := by
  induction count generalizing min max part before with
  | zero =>
      obtain rfl := allows_zero.mp allowed
      obtain rfl : part = [] := rounds
      exact .done before after
  | succ count ih =>
      obtain ⟨room, fewer⟩ := allows_succ.mp allowed
      rw [pow_succ'] at rounds
      obtain ⟨first, one, rest, later, rfl⟩ := Language.mem_mul.mp rounds
      exact .again room (own first one before _) (ih fewer later _)

theorem free_matches {pattern : Pattern} (free : pattern.isFree = true) {part : List Char}
    (member : part ∈ pattern.language) (before after : List Char) : pattern.Matches before part after := by
  induction pattern generalizing part before after with
  | empty =>
      obtain rfl : part = [] := member
      exact .empty before after
  | look => cases free
  | char set =>
      obtain ⟨c, known, rfl⟩ := member
      exact .char before after known
  | cat a b front back =>
      obtain ⟨freeFront, freeBack⟩ := Bool.and_eq_true_iff.mp free
      obtain ⟨first, one, second, other, rfl⟩ := Language.mem_mul.mp member
      exact .cat (front freeFront one before _) (back freeBack other _ after)
  | alt a b one other =>
      obtain ⟨freeOne, freeOther⟩ := Bool.and_eq_true_iff.mp free
      rcases member with here | there
      · exact .left (one freeOne here before after)
      · exact .right (other freeOther there before after)
  | repeated a min max step =>
      obtain ⟨count, allowed, rounds⟩ := member
      exact matches_rounds (fun part there => step free there) allowed rounds before after

theorem matches_look {kind : Look} {before part after : List Char} : (look kind).Matches before part after ↔
    part = [] ∧ kind.holds before.getLast? after.head? = true := by
  constructor
  · intro matched
    cases matched with
    | look holds => exact ⟨rfl, holds⟩
  · rintro ⟨rfl, holds⟩
    exact .look holds

theorem matches_cat {a b : Pattern} {before part after : List Char} : (cat a b).Matches before part after ↔
    ∃ first second, part = first ++ second ∧ a.Matches before first (second ++ after) ∧
      b.Matches (before ++ first) second after := by
  constructor
  · intro matched
    cases matched with
    | cat front back => exact ⟨_, _, rfl, front, back⟩
  · rintro ⟨first, second, rfl, front, back⟩
    exact .cat front back

theorem matches_whole {a : Pattern} {before part after : List Char} :
    (whole a).Matches before part after ↔ before = [] ∧ after = [] ∧ a.Matches [] part [] := by
  rw [whole, sequence, List.foldr_cons, List.foldr_cons, List.foldr_cons, List.foldr_nil, matches_cat]
  simp only [matches_look, matches_cat, Look.holds, Option.isNone_iff_eq_none, List.getLast?_eq_none_iff,
    List.head?_eq_none_iff]
  constructor
  · rintro ⟨_, _, rfl, ⟨rfl, rfl⟩, own, _, rfl, matched, _, rest, rfl, ⟨rfl, noneAfter⟩, done⟩
    cases done
    obtain rfl : after = [] := noneAfter
    simpa using matched
  · rintro ⟨rfl, rfl, matched⟩
    exact ⟨[], part, rfl, ⟨rfl, rfl⟩, part, [], by simp, by simpa using matched, [], [], rfl, ⟨rfl, rfl⟩, .empty _ _⟩

theorem whole_iff {a : Pattern} (free : a.isFree = true) (text : String) :
    (whole a).isMatch text = true ↔ text.toList ∈ a.language := by
  rw [is_match_iff]
  constructor
  · rintro ⟨before, part, after, spelled, matched⟩
    obtain ⟨rfl, rfl, own⟩ := matches_whole.mp matched
    rw [spelled, List.nil_append, List.append_nil]
    exact matched_mem own
  · intro member
    exact ⟨[], text.toList, [], by simp, matches_whole.mpr ⟨rfl, rfl, free_matches free member [] []⟩⟩

section Built

variable {a : Pattern} {set : Charset} {text : List Char}

theorem mem_char : text ∈ (char set).language ↔ ∃ c, set.contains c = true ∧ text = [c] := Iff.rfl

theorem contains_single (c d : Char) : (Charset.single c).contains d = true ↔ d = c := by
  simp only [Charset.contains, Charset.single, Charset.containsPoint, Bool.and_eq_true, decide_eq_true_eq]
  rw [← Char.toNat_inj]
  omega

theorem mem_literal (spelled : String) : text ∈ (literal spelled).language ↔ text = spelled.toList := by
  rw [literal]
  induction spelled.toList generalizing text with
  | nil => exact Iff.rfl
  | cons c rest ih =>
      rw [List.foldr_cons, language, Language.mem_mul]
      constructor
      · rintro ⟨_, ⟨d, single, rfl⟩, behind, later, rfl⟩
        rw [(contains_single c d).mp single, ih.mp later]
        rfl
      · rintro rfl
        exact ⟨[c], ⟨c, (contains_single c c).mpr rfl, rfl⟩, rest, ih.mpr rfl, rfl⟩

theorem language_literal (spelled : String) : (literal spelled).language = {spelled.toList} :=
  Language.ext fun _ => mem_literal spelled

theorem language_sequence (parts : List Pattern) : (sequence parts).language = (parts.map language).prod := by
  rw [sequence]
  induction parts with
  | nil => rfl
  | cons first rest ih => rw [List.foldr_cons, language, ih, List.map_cons, List.prod_cons]

theorem mem_optional : text ∈ (optional a).language ↔ text = [] ∨ text ∈ a.language := by
  constructor
  · rintro ⟨count, ⟨_, most⟩, rounds⟩
    have bounded : count ≤ 1 := by simpa using most 1 rfl
    interval_cases count
    · exact .inl rounds
    · exact .inr (by simpa using rounds)
  · rintro (rfl | one)
    · exact ⟨0, ⟨Nat.le_refl 0, fun _ _ => Nat.zero_le _⟩, Language.nil_mem_one⟩
    · exact ⟨1, ⟨Nat.zero_le 1, by simp⟩, by simpa using one⟩

theorem language_optional (a : Pattern) : (optional a).language = 1 + a.language := Language.ext fun _ => mem_optional

theorem mem_alone (a : Pattern) : text ∈ (sequence [a]).language ↔ text ∈ a.language := by
  rw [language_sequence, List.map_singleton, List.prod_singleton]

theorem mem_lead (spelled : String) (parts : List Pattern) :
    text ∈ (sequence (literal spelled :: parts)).language ↔
      ∃ behind ∈ (sequence parts).language, text = spelled.toList ++ behind := by
  rw [language_sequence, List.map_cons, List.prod_cons, ← language_sequence, Language.mem_mul]
  constructor
  · rintro ⟨front, own, behind, later, rfl⟩
    exact ⟨behind, later, by rw [(mem_literal spelled).mp own]⟩
  · rintro ⟨behind, later, rfl⟩
    exact ⟨spelled.toList, (mem_literal spelled).mpr rfl, behind, later, rfl⟩

theorem mem_step (set : Charset) (parts : List Pattern) :
    text ∈ (sequence (char set :: parts)).language ↔
      ∃ c, set.contains c = true ∧ ∃ behind ∈ (sequence parts).language, text = c :: behind := by
  rw [language_sequence, List.map_cons, List.prod_cons, ← language_sequence, Language.mem_mul]
  constructor
  · rintro ⟨_, ⟨c, member, rfl⟩, behind, later, rfl⟩
    exact ⟨c, member, behind, later, rfl⟩
  · rintro ⟨c, member, behind, later, rfl⟩
    exact ⟨[c], ⟨c, member, rfl⟩, behind, later, rfl⟩

theorem mem_maybe (a : Pattern) (parts : List Pattern) :
    text ∈ (sequence (optional a :: parts)).language ↔
      text ∈ (sequence parts).language ∨ text ∈ (sequence (a :: parts)).language := by
  simp only [language_sequence, List.map_cons, List.prod_cons, language_optional, add_mul, one_mul,
    Language.mem_add]

theorem mem_choice (branches : List Pattern) :
    text ∈ (choice branches).language ↔ ∃ branch ∈ branches, text ∈ branch.language := by
  fun_induction choice branches with
  | case1 =>
      simp only [List.not_mem_nil, false_and, exists_false, iff_false]
      rintro ⟨c, noneThere, rfl⟩
      revert noneThere
      simp only [Charset.contains, Charset.empty, Charset.containsPoint, Bool.and_eq_true, decide_eq_true_eq]
      omega
  | case2 branch => simp
  | case3 branch rest _ ih =>
      rw [language, Language.mem_add, ih]
      simp

theorem mem_char_rounds (count : Nat) :
    text ∈ (char set).language ^ count ↔ text.length = count ∧ ∀ c ∈ text, set.contains c = true := by
  induction count generalizing text with
  | zero =>
      constructor
      · rintro rfl
        exact ⟨rfl, nofun⟩
      · exact fun ⟨nothing, _⟩ => List.length_eq_zero_iff.mp nothing
  | succ count ih =>
      rw [pow_succ', Language.mem_mul]
      constructor
      · rintro ⟨_, ⟨c, member, rfl⟩, rest, later, rfl⟩
        obtain ⟨rfl, members⟩ := ih.mp later
        exact ⟨rfl, List.forall_mem_cons.mpr ⟨member, members⟩⟩
      · rintro ⟨length, members⟩
        obtain ⟨c, rest, rfl⟩ := List.exists_cons_of_length_eq_add_one length
        obtain ⟨member, members⟩ := List.forall_mem_cons.mp members
        exact ⟨[c], ⟨c, member, rfl⟩, rest, ih.mpr ⟨Nat.succ.inj length, members⟩, rfl⟩

theorem mem_many : text ∈ (many (char set)).language ↔ ∀ c ∈ text, set.contains c = true := by
  constructor
  · rintro ⟨count, _, rounds⟩
    exact ((mem_char_rounds count).mp rounds).2
  · intro members
    exact ⟨text.length, ⟨Nat.zero_le _, nofun⟩, (mem_char_rounds _).mpr ⟨rfl, members⟩⟩

theorem mem_many1 :
    text ∈ (many1 (char set)).language ↔ text ≠ [] ∧ ∀ c ∈ text, set.contains c = true := by
  constructor
  · rintro ⟨count, ⟨someChar, _⟩, rounds⟩
    obtain ⟨rfl, members⟩ := (mem_char_rounds count).mp rounds
    exact ⟨List.length_pos_iff.mp someChar, members⟩
  · rintro ⟨filled, members⟩
    exact ⟨text.length, ⟨List.length_pos_iff.mpr filled, nofun⟩, (mem_char_rounds _).mpr ⟨rfl, members⟩⟩

end Built

end RecordRules.Pattern
