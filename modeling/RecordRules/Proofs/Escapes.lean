import Mathlib.Data.List.Basic
import RecordRules.Rule.Escape
import RecordRules.Text.Blank

set_option autoImplicit false

namespace RecordRules.Escape

open Text

theorem decode_append (before after : List Char) (c : Char) (noComma : c ∉ comma) (noBar : c ∉ bar) :
    decode (before ++ c :: after) = decode before ++ c :: decode after := by
  rw [decode, replace_append comma _ _ _ c (by decide) noComma,
    replace_append bar _ _ _ c (by decide) noBar]
  rfl

theorem decode_ne_nil (text : List Char) (someChar : text ≠ []) : decode text ≠ [] :=
  replace_ne_nil _ _ _ (by decide) (replace_ne_nil _ _ _ (by decide) someChar)

theorem mem_decode (text : List Char) (c : Char) (member : c ∈ decode text) :
    c = '|' ∨ c = ',' ∨ c ∈ text := by
  rcases mem_replace_from _ _ _ c 0 member with written | before
  · exact .inl (List.mem_singleton.mp written)
  · exact .inr ((mem_replace_from _ _ _ c 0 before).imp_left List.mem_singleton.mp)

theorem solid_decode (text : List Char) (solid : ∀ c ∈ text, isBlank c = false) :
    ∀ c ∈ decode text, isBlank c = false := by
  intro c member
  rcases mem_decode text c member with rfl | rfl | own
  · decide
  · decide
  · exact solid c own

theorem decode_spaced (items : List (List Char)) :
    decode ([' '].intercalate items) = [' '].intercalate (items.map decode) := by
  induction items with
  | nil => rfl
  | cons first rest ih =>
      cases rest with
      | nil => simp only [List.map_cons, List.map_nil, List.intercalate_singleton]
      | cons second others =>
          rw [List.map_cons] at ih
          rw [List.intercalate_cons_cons, List.append_assoc, List.singleton_append,
            decode_append first _ ' ' (by decide) (by decide), ih, List.map_cons, List.map_cons,
            List.intercalate_cons_cons, List.append_assoc]
          rfl

def encodeChar (c : Char) : List Char := if c = ',' then comma else if c = '|' then bar else [c]

def encodeBar (c : Char) : List Char := if c = '|' then bar else [c]

theorem encode_flat (text : List Char) : encode text = text.flatMap encodeChar := by
  induction text with
  | nil => rfl
  | cons c rest ih =>
      rw [encode, List.flatMap_cons, encodeChar, ← ih]
      split
      · rfl
      · split <;> rfl

theorem encode_char_cases (c : Char) : encodeChar c = [c] ∨ ∃ rest, encodeChar c = '0' :: rest := by
  rw [encodeChar]
  split
  · exact .inr ⟨_, rfl⟩
  · split
    · exact .inr ⟨_, rfl⟩
    · exact .inl rfl

theorem encode_bar_cases (c : Char) : encodeBar c = [c] ∨ ∃ rest, encodeBar c = '0' :: rest := by
  rw [encodeBar]
  split
  · exact .inr ⟨_, rfl⟩
  · exact .inl rfl

-- An escape holds a zero at its start only, so that none begins inside another.
theorem prefix_of_encoded (change : Char → List Char)
    (casesOf : ∀ c, change c = [c] ∨ ∃ rest, change c = '0' :: rest) (part text : List Char)
    (noZero : '0' ∉ part) (starts : part <+: text.flatMap change) : part <+: text := by
  induction part generalizing text with
  | nil => exact List.nil_prefix
  | cons first rest ih =>
      obtain ⟨different, noZero⟩ := not_or.mp (fun member => noZero (List.mem_cons.mpr member))
      cases text with
      | nil => exact starts
      | cons c others =>
          rw [List.flatMap_cons] at starts
          rcases casesOf c with kept | ⟨escape, changed⟩
          · rw [kept, List.singleton_append] at starts
            obtain ⟨same, starts⟩ := List.cons_prefix_cons.mp starts
            exact List.cons_prefix_cons.mpr ⟨same, ih others noZero starts⟩
          · rw [changed, List.cons_append] at starts
            exact absurd (List.cons_prefix_cons.mp starts).1.symm different

theorem encoded_elsewhere (change : Char → List Char)
    (casesOf : ∀ c, change c = [c] ∨ ∃ rest, change c = '0' :: rest) (part : List Char)
    (noZero : '0' ∉ part) (c : Char) (rest : List Char)
    (elsewhere : startsWith ('0' :: part) (c :: rest) = false) :
    startsWith ('0' :: part) (c :: rest.flatMap change) = false := by
  refine Bool.eq_false_iff.mpr fun found => ?_
  obtain ⟨same, starts⟩ := List.cons_prefix_cons.mp (List.isPrefixOf_iff_prefix.mp found)
  have before := prefix_of_encoded change casesOf part rest noZero starts
  have there : startsWith ('0' :: part) (c :: rest) = true :=
    List.isPrefixOf_iff_prefix.mpr (List.cons_prefix_cons.mpr ⟨same, before⟩)
  rw [elsewhere] at there
  cases there

theorem replace_commas (text : List Char) (plain : occurs comma text = false) :
    replace comma [','] (text.flatMap encodeChar) = text.flatMap encodeBar := by
  induction text with
  | nil => rfl
  | cons c rest ih =>
      obtain ⟨elsewhere, plain⟩ := Bool.or_eq_false_iff.mp plain
      have later := ih plain
      rw [List.flatMap_cons, List.flatMap_cons]
      by_cases isComma : c = ','
      · subst isComma
        exact congrArg (',' :: ·) later
      · by_cases isBar : c = '|'
        · subst isBar
          exact congrArg (bar ++ ·) later
        · rw [encodeChar, if_neg isComma, if_neg isBar, encodeBar, if_neg isBar,
            List.singleton_append, List.singleton_append, replace_cons, later]
          exact encoded_elsewhere encodeChar encode_char_cases _ (by decide) c rest elsewhere

theorem replace_bars (text : List Char) (plain : occurs bar text = false) :
    replace bar ['|'] (text.flatMap encodeBar) = text := by
  induction text with
  | nil => rfl
  | cons c rest ih =>
      obtain ⟨elsewhere, plain⟩ := Bool.or_eq_false_iff.mp plain
      have later := ih plain
      rw [List.flatMap_cons]
      by_cases isBar : c = '|'
      · subst isBar
        exact congrArg ('|' :: ·) later
      · rw [encodeBar, if_neg isBar, List.singleton_append, replace_cons, later]
        exact encoded_elsewhere encodeBar encode_bar_cases _ (by decide) c rest elsewhere

theorem decode_encode (text : List Char) (plain : isPlain text) : decode (encode text) = text := by
  obtain ⟨noComma, noBar⟩ := Bool.and_eq_true_iff.mp plain
  rw [decode, encode_flat, replace_commas text (by simpa using noComma),
    replace_bars text (by simpa using noBar)]

theorem mem_encode (text : List Char) (c : Char) (member : c ∈ encode text) :
    c ∈ comma ∨ c ∈ bar ∨ c ∈ text ∧ c ≠ ',' ∧ c ≠ '|' := by
  rw [encode_flat] at member
  obtain ⟨own, there, written⟩ := List.mem_flatMap.mp member
  rw [encodeChar] at written
  split at written
  case isTrue => exact .inl written
  case isFalse noComma =>
    split at written
    case isTrue => exact .inr (.inl written)
    case isFalse noBar =>
      obtain rfl := List.mem_singleton.mp written
      exact .inr (.inr ⟨there, noComma, noBar⟩)

theorem encode_ne_nil (text : List Char) (someChar : text ≠ []) : encode text ≠ [] := by
  cases text with
  | nil => exact absurd rfl someChar
  | cons c rest =>
      rw [encode]
      split
      · exact List.cons_ne_nil _ _
      · split <;> exact List.cons_ne_nil _ _

theorem no_comma_encode (text : List Char) : ',' ∉ encode text := by
  intro member
  rcases mem_encode text ',' member with inComma | inBar | ⟨_, different, _⟩
  · exact absurd inComma (by decide)
  · exact absurd inBar (by decide)
  · exact different rfl

theorem no_bar_encode (text : List Char) : '|' ∉ encode text := by
  intro member
  rcases mem_encode text '|' member with inComma | inBar | ⟨_, _, different⟩
  · exact absurd inComma (by decide)
  · exact absurd inBar (by decide)
  · exact different rfl

theorem solid_escapes : ∀ c ∈ comma ++ bar, isBlank c = false :=
  blankless_of_any _ (by decide)

theorem solid_encode (text : List Char) (solid : ∀ c ∈ text, isBlank c = false) :
    ∀ c ∈ encode text, isBlank c = false := by
  intro c member
  rcases mem_encode text c member with escape | escape | own
  · exact solid_escapes c (List.mem_append_left _ escape)
  · exact solid_escapes c (List.mem_append_right _ escape)
  · exact solid c own.1

theorem encode_char_ne_nil (c : Char) : encodeChar c ≠ [] := by
  rcases encode_char_cases c with kept | ⟨rest, escape⟩
  · rw [kept]
    exact List.cons_ne_nil _ _
  · rw [escape]
    exact List.cons_ne_nil _ _

theorem solid_encode_char (c : Char) (solid : isBlank c = false) :
    ∀ other ∈ encodeChar c, isBlank other = false := by
  have encoded := solid_encode [c] (by simpa using solid)
  rwa [encode_flat, List.flatMap_singleton] at encoded

theorem trim_encode (text : List Char) (trimmed : trim text = text) : trim (encode text) = encode text := by
  obtain ⟨first, last⟩ := (trim_eq_self text).mp trimmed
  rw [encode_flat]
  refine (trim_eq_self _).mpr ⟨fun c found => ?_, fun c found => ?_⟩
  · cases text with
    | nil => cases found
    | cons head rest =>
        rw [List.flatMap_cons, List.head?_append_of_ne_nil _ (encode_char_ne_nil head)] at found
        exact solid_encode_char head (first head rfl) c (List.mem_of_mem_head? found)
  · rcases text.eq_nil_or_concat with rfl | ⟨front, back, rfl⟩
    · cases found
    · rw [List.concat_eq_append] at found last
      rw [List.flatMap_append, List.flatMap_singleton,
        List.getLast?_append_of_ne_nil _ (encode_char_ne_nil back)] at found
      exact solid_encode_char back (last back (by simp)) c (List.mem_of_mem_getLast? found)

end RecordRules.Escape
