set_option autoImplicit false

namespace RecordRules.Text

def isBlank (c : Char) : Bool :=
  let p := c.toNat
  (9 ≤ p && p ≤ 13) || p = 0x20 || p = 0x85 || p = 0xA0 || p = 0x1680 ||
    (0x2000 ≤ p && p ≤ 0x200A) || p = 0x2028 || p = 0x2029 || p = 0x202F || p = 0x205F || p = 0x3000

def trim (text : List Char) : List Char :=
  ((text.dropWhile isBlank).reverse.dropWhile isBlank).reverse

def words (text : List Char) : List (List Char) :=
  (text.splitOnP isBlank).filter (fun word => !word.isEmpty)

theorem drop_blanks (text : List Char) (head : ∀ c ∈ text.head?, isBlank c = false) :
    text.dropWhile isBlank = text := by
  cases text with
  | nil => rfl
  | cons c rest => exact List.dropWhile_cons_of_neg (by simp [head c rfl])

theorem head_drop_blanks (text : List Char) :
    ∀ c ∈ (text.dropWhile isBlank).head?, isBlank c = false := by
  intro c found
  have outside := List.head?_dropWhile_not isBlank text
  rw [Option.mem_def.mp found] at outside
  exact outside

theorem trim_eq_self (text : List Char) : trim text = text ↔
    (∀ c ∈ text.head?, isBlank c = false) ∧ ∀ c ∈ text.getLast?, isBlank c = false := by
  constructor
  · intro trimmed
    have shortened : text <+: text.dropWhile isBlank := by
      have front : trim text <+: text.dropWhile isBlank := by
        rw [trim, ← List.reverse_suffix, List.reverse_reverse]
        exact List.dropWhile_suffix _
      rwa [trimmed] at front
    have whole : text.dropWhile isBlank = text :=
      (List.dropWhile_suffix isBlank).eq_of_length_le shortened.length_le
    refine ⟨whole ▸ head_drop_blanks text, ?_⟩
    rw [← trimmed, trim, List.getLast?_reverse]
    exact head_drop_blanks _
  · rintro ⟨first, last⟩
    rw [trim, drop_blanks text first, drop_blanks text.reverse (by rwa [List.head?_reverse]),
      List.reverse_reverse]

theorem blankless_of_any (text : List Char) (noneBlank : text.any isBlank = false) :
    ∀ c ∈ text, isBlank c = false :=
  fun c member => Bool.eq_false_iff.mpr (List.any_eq_false.mp noneBlank c member)

theorem trim_blankless (text : List Char) (blankless : ∀ c ∈ text, isBlank c = false) :
    trim text = text :=
  (trim_eq_self text).mpr ⟨fun c first => blankless c (List.mem_of_mem_head? first),
    fun c last => blankless c (List.mem_of_mem_getLast? last)⟩

example : trim "\t a b\u3000".toList = "a b".toList := by decide

theorem words_blankless (word : List Char) (someChar : word ≠ [])
    (blankless : ∀ c ∈ word, isBlank c = false) : words word = [word] := by
  rw [words, List.splitOnP_eq_singleton blankless]
  simp [someChar]

theorem words_append (before after : List Char) (c : Char) (blank : isBlank c = true) :
    words (before ++ c :: after) = words before ++ words after := by
  rw [words, List.splitOnP_append_cons before after blank, List.filter_append]
  rfl

theorem words_spaced (items : List (List Char)) (someChar : ∀ item ∈ items, item ≠ [])
    (blankless : ∀ item ∈ items, ∀ c ∈ item, isBlank c = false) :
    words ([' '].intercalate items) = items := by
  induction items with
  | nil => rfl
  | cons first rest ih =>
      have alone : words first = [first] :=
        words_blankless first (someChar first List.mem_cons_self) (blankless first List.mem_cons_self)
      cases rest with
      | nil => rw [List.intercalate_singleton, alone]
      | cons second others =>
          have later := ih (fun item member => someChar item (List.mem_cons_of_mem _ member))
            (fun item member => blankless item (List.mem_cons_of_mem _ member))
          rw [List.intercalate_cons_cons, List.append_assoc, List.singleton_append,
            words_append _ _ ' ' rfl, alone, later]
          rfl

example : words "\u00a0a  b\nc ".toList = ["a".toList, "b".toList, "c".toList] := by decide

end RecordRules.Text
