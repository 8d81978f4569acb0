import Mathlib.Data.Nat.Bitwise
import RecordRules.Pattern.Match

set_option autoImplicit false

namespace RecordRules

open Pattern

namespace Pattern

-- A pattern matches a part of a text between what stands before it and what stands after it. A further round
-- of a repetition is taken where one is due or there is room for one.
inductive Matches : Pattern → List Char → List Char → List Char → Prop where
  | empty (before after : List Char) : Matches .empty before [] after
  | char {set : Charset} {c : Char} (before after : List Char) (member : set.contains c = true) :
      Matches (.char set) before [c] after
  | look {kind : Look} {before after : List Char} (holds : kind.holds before.getLast? after.head? = true) :
      Matches (.look kind) before [] after
  | cat {a b : Pattern} {before first second after : List Char} (front : Matches a before first (second ++ after))
      (back : Matches b (before ++ first) second after) : Matches (.cat a b) before (first ++ second) after
  | left {a b : Pattern} {before part after : List Char} (one : Matches a before part after) :
      Matches (.alt a b) before part after
  | right {a b : Pattern} {before part after : List Char} (one : Matches b before part after) :
      Matches (.alt a b) before part after
  | done {a : Pattern} {max : Option Nat} (before after : List Char) :
      Matches (.repeated a 0 max) before [] after
  | again {a : Pattern} {min : Nat} {max : Option Nat} {before first second after : List Char}
      (room : 0 < min ∨ max ≠ some 0) (front : Matches a before first (second ++ after))
      (back : Matches (.repeated a (min - 1) (max.map (· - 1))) (before ++ first) second after) :
      Matches (.repeated a min max) before (first ++ second) after

def Leads (text : List Char) (pattern : Pattern) (start stop : Nat) : Prop :=
  ∃ before part after, text = before ++ part ++ after ∧ start = before.length ∧
    stop = (before ++ part).length ∧ pattern.Matches before part after

end Pattern

def Allows (min : Nat) (max : Option Nat) (count : Nat) : Prop :=
  min ≤ count ∧ ∀ most ∈ max, count ≤ Nat.max min most

theorem allows_zero {min : Nat} {max : Option Nat} : Allows min max 0 ↔ min = 0 := by
  constructor
  · exact fun allowed => Nat.le_zero.mp allowed.1
  · rintro rfl
    exact ⟨Nat.le_refl 0, fun _ _ => Nat.zero_le _⟩

theorem allows_succ {min : Nat} {max : Option Nat} {count : Nat} :
    Allows min max (count + 1) ↔
      (0 < min ∨ max ≠ some 0) ∧ Allows (min - 1) (max.map (· - 1)) count := by
  cases max with
  | none => simp [Allows]
  | some max =>
      simp only [Allows, Option.mem_some_iff, forall_eq', Option.map_some, ne_eq, Option.some.injEq]
      grind

def Rounds (leads : Nat → Nat → Prop) : Nat → Nat → Nat → Prop
  | 0, start, stop => start = stop
  | count + 1, start, stop => ∃ middle, leads start middle ∧ Rounds leads count middle stop

section Rounds

variable {leads : Nat → Nat → Prop}

theorem rounds_add (first second start stop : Nat) :
    Rounds leads (first + second) start stop ↔
      ∃ middle, Rounds leads first start middle ∧ Rounds leads second middle stop := by
  induction first generalizing start with
  | zero => simp [Rounds]
  | succ first ih =>
      rw [Nat.succ_add, Rounds]
      constructor
      · rintro ⟨next, step, rounds⟩
        obtain ⟨middle, before, after⟩ := (ih next).mp rounds
        exact ⟨middle, ⟨next, step, before⟩, after⟩
      · rintro ⟨middle, ⟨next, step, before⟩, after⟩
        exact ⟨next, step, (ih next).mpr ⟨middle, before, after⟩⟩

theorem rounds_forward (forward : ∀ start stop, leads start stop → start ≤ stop) {count start stop : Nat}
    (rounds : Rounds leads count start stop) : start ≤ stop := by
  induction count generalizing start with
  | zero => exact Nat.le_of_eq rounds
  | succ count ih =>
      obtain ⟨middle, step, later⟩ := rounds
      exact Nat.le_trans (forward start middle step) (ih later)

-- Rounds that stay where they are can be left out, and every other one goes on by a place at least.
theorem rounds_short (forward : ∀ start stop, leads start stop → start ≤ stop) {count start stop : Nat}
    (rounds : Rounds leads count start stop) : ∃ fewer ≤ stop - start, Rounds leads fewer start stop := by
  induction count generalizing start with
  | zero => exact ⟨0, Nat.zero_le _, rounds⟩
  | succ count ih =>
      obtain ⟨middle, step, later⟩ := rounds
      obtain ⟨fewer, within, short⟩ := ih later
      by_cases stays : start = middle
      · exact stays ▸ ⟨fewer, within, short⟩
      · have onward := forward start middle step
        have rest := rounds_forward forward later
        exact ⟨fewer + 1, by omega, middle, step, short⟩

end Rounds

def PlacesWithin (length places : Nat) : Prop := ∀ place, places.testBit place = true → place ≤ length

def Follows (length : Nat) (step : Nat → Nat) (leads : Nat → Nat → Prop) : Prop :=
  ∀ places, PlacesWithin length places → ∀ stop,
    (step places).testBit stop = true ↔ ∃ start, places.testBit start = true ∧ leads start stop

namespace Route

theorem iterate_succ (step : Nat → Nat) (count places : Nat) :
    iterate step (count + 1) places = iterate step count (step places) := by
  have fixed (same : step places = places) : iterate step count places = places := by
    cases count with
    | zero => rfl
    | succ count => rw [iterate, if_pos same]
  rw [iterate]
  split
  case isTrue same => rw [same, fixed same]
  case isFalse => rfl

theorem reach_succ (step : Nat → Nat) (bound places : Nat) :
    reach step (bound + 1) places = reach step bound (places ||| step places) := by
  have fixed (same : places ||| step places = places) : reach step bound places = places := by
    cases bound with
    | zero => rfl
    | succ bound => rw [reach, if_pos same]
  rw [reach]
  split
  case isTrue same => rw [same, fixed same]
  case isFalse => rfl

section Steps

variable {length : Nat} {step : Nat → Nat} {leads : Nat → Nat → Prop} (follows : Follows length step leads)
  (inside : ∀ start stop, leads start stop → stop ≤ length)
include follows inside

theorem within_step {places : Nat} (within : PlacesWithin length places) : PlacesWithin length (step places) := by
  intro stop there
  obtain ⟨start, _, led⟩ := (follows places within stop).mp there
  exact inside start stop led

theorem iterate_follows (count : Nat) : Follows length (iterate step count) (Rounds leads count) := by
  intro places within stop
  induction count generalizing places with
  | zero => simp [iterate, Rounds]
  | succ count ih =>
      rw [iterate_succ, ih _ (within_step follows inside within)]
      constructor
      · rintro ⟨middle, there, later⟩
        obtain ⟨start, known, led⟩ := (follows places within middle).mp there
        exact ⟨start, known, middle, led, later⟩
      · rintro ⟨start, known, middle, led, later⟩
        exact ⟨middle, (follows places within middle).mpr ⟨start, known, led⟩, later⟩

theorem reach_follows (bound : Nat) :
    Follows length (reach step bound) fun start stop => ∃ count ≤ bound, Rounds leads count start stop := by
  intro places within stop
  induction bound generalizing places with
  | zero => simp [reach, Rounds]
  | succ bound ih =>
      have wider : PlacesWithin length (places ||| step places) := by
        intro place there
        rw [Nat.testBit_or, Bool.or_eq_true] at there
        exact there.elim (within place) (within_step follows inside within place)
      rw [reach_succ, ih _ wider]
      constructor
      · rintro ⟨middle, there, count, bounded, later⟩
        rw [Nat.testBit_or, Bool.or_eq_true] at there
        rcases there with known | stepped
        · exact ⟨middle, known, count, Nat.le_succ_of_le bounded, later⟩
        · obtain ⟨start, known, led⟩ := (follows places within middle).mp stepped
          exact ⟨start, known, count + 1, Nat.succ_le_succ bounded, middle, led, later⟩
      · rintro ⟨start, known, count, bounded, rounds⟩
        cases count with
        | zero => exact ⟨start, by simp [Nat.testBit_or, known], 0, Nat.zero_le _, rounds⟩
        | succ count =>
            obtain ⟨middle, led, later⟩ := rounds
            have stepped := (follows places within middle).mpr ⟨start, known, led⟩
            exact ⟨middle, by simp [Nat.testBit_or, stepped], count, Nat.le_of_succ_le_succ bounded, later⟩

theorem within_iterate (count : Nat) {places : Nat} (within : PlacesWithin length places) :
    PlacesWithin length (iterate step count places) := by
  induction count generalizing places with
  | zero => exact within
  | succ count ih =>
      rw [iterate_succ]
      exact ih (within_step follows inside within)

theorem repeat_follows (least more : Nat) :
    Follows length (fun places => reach step more (iterate step least places)) fun start stop =>
      ∃ count, least ≤ count ∧ count ≤ least + more ∧ Rounds leads count start stop := by
  intro places within stop
  rw [reach_follows follows inside more _ (within_iterate follows inside least within)]
  constructor
  · rintro ⟨middle, there, count, bounded, later⟩
    obtain ⟨start, known, earlier⟩ := (iterate_follows follows inside least places within middle).mp there
    exact ⟨start, known, least + count, by omega, by omega, (rounds_add ..).mpr ⟨middle, earlier, later⟩⟩
  · rintro ⟨start, known, count, enough, bounded, rounds⟩
    obtain ⟨count, rfl⟩ := Nat.exists_eq_add_of_le enough
    obtain ⟨middle, earlier, later⟩ := (rounds_add ..).mp rounds
    refine ⟨middle, ?_, count, by omega, later⟩
    exact (iterate_follows follows inside least places within middle).mpr ⟨start, known, earlier⟩

end Steps

end Route

namespace Pattern

section Leads

variable {text : List Char} {a b : Pattern} {start stop : Nat}

theorem leads_inside {pattern : Pattern} (led : Leads text pattern start stop) :
    start ≤ stop ∧ stop ≤ text.length := by
  obtain ⟨before, part, after, rfl, rfl, rfl, _⟩ := led
  simp only [List.length_append]
  omega

theorem leads_empty : Leads text empty start stop ↔ start = stop ∧ stop ≤ text.length := by
  constructor
  · intro led
    refine ⟨?_, (leads_inside led).2⟩
    obtain ⟨before, part, after, rfl, rfl, rfl, matched⟩ := led
    cases matched
    simp
  · rintro ⟨rfl, inside⟩
    exact ⟨text.take start, [], text.drop start, by simp, by simp [inside], by simp [inside], .empty _ _⟩

theorem leads_alt : Leads text (alt a b) start stop ↔ Leads text a start stop ∨ Leads text b start stop := by
  constructor
  · rintro ⟨before, part, after, spelled, first, last, matched⟩
    cases matched with
    | left one => exact .inl ⟨before, part, after, spelled, first, last, one⟩
    | right one => exact .inr ⟨before, part, after, spelled, first, last, one⟩
  · rintro (⟨before, part, after, spelled, first, last, one⟩ | ⟨before, part, after, spelled, first, last, one⟩)
    · exact ⟨before, part, after, spelled, first, last, .left one⟩
    · exact ⟨before, part, after, spelled, first, last, .right one⟩

theorem leads_meet {pattern other : Pattern} {middle : Nat} (front : Leads text pattern start middle)
    (back : Leads text other middle stop) :
    ∃ before first second after, text = before ++ (first ++ second) ++ after ∧ start = before.length ∧
      stop = (before ++ (first ++ second)).length ∧ pattern.Matches before first (second ++ after) ∧
      other.Matches (before ++ first) second after := by
  obtain ⟨before, first, rest, spelled, rfl, rfl, matched⟩ := front
  obtain ⟨ahead, second, after, again, meet, rfl, matchedAfter⟩ := back
  have sides : before ++ first ++ rest = ahead ++ (second ++ after) := by
    rw [← spelled, again, List.append_assoc]
  obtain ⟨rfl, rfl⟩ := List.append_inj sides meet
  exact ⟨before, first, second, after, by simp [again], rfl, by simp, matched, matchedAfter⟩

theorem leads_cat :
    Leads text (cat a b) start stop ↔ ∃ middle, Leads text a start middle ∧ Leads text b middle stop := by
  constructor
  · rintro ⟨before, part, after, rfl, rfl, rfl, matched⟩
    cases matched with
    | @cat _ _ _ first second _ front back =>
        refine ⟨(before ++ first).length, ⟨before, first, second ++ after, by simp, rfl, rfl, front⟩, ?_⟩
        exact ⟨before ++ first, second, after, by simp, rfl, by simp, back⟩
  · rintro ⟨middle, front, back⟩
    obtain ⟨before, first, second, after, spelled, fromStart, toStop, one, other⟩ := leads_meet front back
    exact ⟨before, first ++ second, after, spelled, fromStart, toStop, .cat one other⟩

theorem rounds_of_matches {min : Nat} {max : Option Nat} {before part after : List Char}
    (matched : (repeated a min max).Matches before part after) :
    ∃ count, Allows min max count ∧
      Rounds (Leads (before ++ part ++ after) a) count before.length (before ++ part).length := by
  generalize shape : repeated a min max = pattern at matched
  induction matched generalizing min max with
  | empty | char | look | cat | left | right => cases shape
  | done before after =>
      cases shape
      exact ⟨0, allows_zero.mpr rfl, by simp [Rounds]⟩
  | @again _ _ _ before first second after room front back _ ih =>
      cases shape
      obtain ⟨count, allowed, rounds⟩ := ih rfl
      have one : Leads (before ++ (first ++ second) ++ after) a before.length (before ++ first).length :=
        ⟨before, first, second ++ after, by simp, rfl, rfl, front⟩
      exact ⟨count + 1, allows_succ.mpr ⟨room, allowed⟩, (before ++ first).length, one, by simpa using rounds⟩

theorem leads_of_rounds {min : Nat} {max : Option Nat} {count : Nat} (allowed : Allows min max count)
    (inside : start ≤ text.length) (rounds : Rounds (Leads text a) count start stop) :
    Leads text (repeated a min max) start stop := by
  induction count generalizing min max start with
  | zero =>
      obtain rfl := allows_zero.mp allowed
      obtain rfl : start = stop := rounds
      exact ⟨text.take start, [], text.drop start, by simp, by simp [inside], by simp [inside], .done _ _⟩
  | succ count ih =>
      obtain ⟨room, fewer⟩ := allows_succ.mp allowed
      obtain ⟨middle, one, later⟩ := rounds
      have back := ih fewer (leads_inside one).2 later
      obtain ⟨before, first, second, after, spelled, fromStart, toStop, front, behind⟩ := leads_meet one back
      exact ⟨before, first ++ second, after, spelled, fromStart, toStop, .again room front behind⟩

theorem leads_repeated {min : Nat} {max : Option Nat} (inside : start ≤ text.length) :
    Leads text (repeated a min max) start stop ↔
      ∃ count, Allows min max count ∧ Rounds (Leads text a) count start stop := by
  constructor
  · rintro ⟨before, part, after, rfl, rfl, rfl, matched⟩
    exact rounds_of_matches matched
  · exact fun ⟨count, allowed, rounds⟩ => leads_of_rounds allowed inside rounds

end Leads

section Runs

variable (text : List Char)

theorem test_bit_cons (here : Bool) (later place : Nat) :
    (here.toNat + 2 * later).testBit place = match place with
      | 0 => here
      | place + 1 => later.testBit place := by
  have pushed : here.toNat + 2 * later = Nat.bit here later := by rw [Nat.bit_val, Nat.add_comm]
  rw [pushed]
  cases place with
  | zero => exact Nat.testBit_bit_zero here later
  | succ place => exact Nat.testBit_bit_succ place here later

theorem char_places (set : Charset) (place : Nat) :
    (charPlaces set text).testBit place = true ↔
      ∃ before c after, text = before ++ c :: after ∧ place = before.length ∧ set.contains c = true := by
  induction text generalizing place with
  | nil => simp [charPlaces]
  | cons head tail ih =>
      rw [charPlaces, test_bit_cons]
      cases place with
      | zero =>
          constructor
          · exact fun there => ⟨[], head, tail, rfl, rfl, there⟩
          · rintro ⟨before, c, after, spelled, first, member⟩
            obtain rfl := List.length_eq_zero_iff.mp first.symm
            obtain ⟨rfl, rfl⟩ := List.cons.inj spelled
            exact member
      | succ place =>
          rw [ih place]
          constructor
          · rintro ⟨before, c, after, rfl, rfl, member⟩
            exact ⟨head :: before, c, after, rfl, rfl, member⟩
          · rintro ⟨before, c, after, spelled, later, member⟩
            obtain ⟨first, others, rfl⟩ := List.exists_cons_of_length_eq_add_one later.symm
            obtain ⟨rfl, rfl⟩ := List.cons.inj spelled
            exact ⟨others, c, after, rfl, Nat.succ.inj later, member⟩

theorem look_places (kind : Look) (previous : Option Char) (place : Nat) :
    (lookPlaces kind previous text).testBit place = true ↔
      ∃ before after, text = before ++ after ∧ place = before.length ∧
        kind.holds (before.getLast?.or previous) after.head? = true := by
  induction text generalizing previous place with
  | nil =>
      have single := test_bit_cons (kind.holds previous none) 0 place
      rw [lookPlaces, ← Nat.add_zero (Bool.toNat _), single]
      cases place with
      | zero => simp
      | succ place =>
          refine ⟨fun there => by simp at there, ?_⟩
          rintro ⟨before, after, spelled, later, _⟩
          obtain ⟨rfl, rfl⟩ := List.append_eq_nil_iff.mp spelled.symm
          cases later
  | cons head tail ih =>
      rw [lookPlaces, test_bit_cons]
      cases place with
      | zero =>
          constructor
          · exact fun there => ⟨[], head :: tail, rfl, rfl, there⟩
          · rintro ⟨before, after, spelled, first, holds⟩
            obtain rfl := List.length_eq_zero_iff.mp first.symm
            obtain rfl : head :: tail = after := spelled
            exact holds
      | succ place =>
          rw [ih (some head) place]
          constructor
          · rintro ⟨before, after, rfl, rfl, holds⟩
            exact ⟨head :: before, after, rfl, rfl, by simpa [List.getLast?_cons] using holds⟩
          · rintro ⟨before, after, spelled, later, holds⟩
            obtain ⟨first, others, rfl⟩ := List.exists_cons_of_length_eq_add_one later.symm
            obtain ⟨rfl, rfl⟩ := List.cons.inj spelled
            exact ⟨others, after, rfl, Nat.succ.inj later, by simpa [List.getLast?_cons] using holds⟩

theorem leads_char {set : Charset} {start stop : Nat} : Leads text (char set) start stop ↔
    (charPlaces set text).testBit start = true ∧ stop = start + 1 := by
  rw [char_places]
  constructor
  · rintro ⟨before, part, after, rfl, rfl, rfl, matched⟩
    cases matched with
    | @char _ c _ _ member => exact ⟨⟨before, c, after, by simp, rfl, member⟩, by simp⟩
  · rintro ⟨⟨before, c, after, rfl, rfl, member⟩, rfl⟩
    exact ⟨before, [c], after, by simp, rfl, by simp, .char _ _ member⟩

theorem leads_look {kind : Look} {start stop : Nat} : Leads text (look kind) start stop ↔
    (lookPlaces kind none text).testBit start = true ∧ stop = start := by
  rw [look_places]
  constructor
  · rintro ⟨before, part, after, rfl, rfl, rfl, matched⟩
    cases matched with
    | look holds => exact ⟨⟨before, after, by simp, rfl, by simpa using holds⟩, by simp⟩
  · rintro ⟨⟨before, after, rfl, rfl, holds⟩, rfl⟩
    exact ⟨before, [], after, by simp, rfl, by simp, .look (by simpa using holds)⟩

theorem run_follows (pattern : Pattern) : Follows text.length (pattern.run text) (Leads text pattern) := by
  induction pattern with
  | empty =>
      intro places within stop
      constructor
      · exact fun there => ⟨stop, there, leads_empty.mpr ⟨rfl, within stop there⟩⟩
      · rintro ⟨start, known, led⟩
        exact (leads_empty.mp led).1 ▸ known
  | char set =>
      intro places within stop
      rw [run_char, Nat.testBit_shiftLeft, Bool.and_eq_true, decide_eq_true_eq, Nat.testBit_and, Bool.and_eq_true]
      constructor
      · rintro ⟨moved, known, member⟩
        exact ⟨stop - 1, known, (leads_char text).mpr ⟨member, by omega⟩⟩
      · rintro ⟨start, known, led⟩
        obtain ⟨member, rfl⟩ := (leads_char text).mp led
        exact ⟨Nat.le_add_left 1 start, known, member⟩
  | look kind =>
      intro places within stop
      rw [run_look, Nat.testBit_and, Bool.and_eq_true]
      constructor
      · exact fun ⟨known, holds⟩ => ⟨stop, known, (leads_look text).mpr ⟨holds, rfl⟩⟩
      · rintro ⟨start, known, led⟩
        obtain ⟨holds, rfl⟩ := (leads_look text).mp led
        exact ⟨known, holds⟩
  | cat a b front back =>
      intro places within stop
      have inside := Route.within_step front (fun _ _ led => (leads_inside led).2) within
      rw [run_cat, back _ inside]
      constructor
      · rintro ⟨middle, there, later⟩
        obtain ⟨start, known, one⟩ := (front places within middle).mp there
        exact ⟨start, known, leads_cat.mpr ⟨middle, one, later⟩⟩
      · rintro ⟨start, known, led⟩
        obtain ⟨middle, one, later⟩ := leads_cat.mp led
        exact ⟨middle, (front places within middle).mpr ⟨start, known, one⟩, later⟩
  | alt a b one other =>
      intro places within stop
      rw [run_alt, Nat.testBit_or, Bool.or_eq_true, one places within, other places within, ← exists_or]
      exact exists_congr fun start => by rw [leads_alt, and_or_left]
  | repeated a min max step =>
      intro places within stop
      have inside : ∀ start stop, Leads text a start stop → stop ≤ text.length := fun _ _ led => (leads_inside led).2
      cases max with
      | some max =>
          rw [run_repeated_some, Route.repeat_follows step inside min (max - min) places within stop]
          refine exists_congr fun start => and_congr_right fun known => ?_
          rw [leads_repeated (within start known)]
          refine exists_congr fun count => ?_
          simp only [Allows, Option.mem_some_iff, forall_eq', and_assoc]
          grind
      | none =>
          rw [run_repeated_none, Route.repeat_follows step inside min (text.length + 1) places within stop]
          refine exists_congr fun start => and_congr_right fun known => ?_
          constructor
          · rintro ⟨count, least, _, rounds⟩
            exact (leads_repeated (within start known)).mpr ⟨count, ⟨least, nofun⟩, rounds⟩
          · intro led
            obtain ⟨count, ⟨least, _⟩, rounds⟩ := (leads_repeated (within start known)).mp led
            have forward : ∀ start stop, Leads text a start stop → start ≤ stop := fun _ _ led =>
              (leads_inside led).1
            -- The rounds that are due come first; of the others, those that move on are few.
            obtain ⟨count, rfl⟩ := Nat.exists_eq_add_of_le least
            obtain ⟨middle, earlier, later⟩ := (rounds_add ..).mp rounds
            obtain ⟨fewer, bounded, short⟩ := rounds_short forward later
            have last := (leads_inside led).2
            exact ⟨min + fewer, Nat.le_add_right _ _, by omega, (rounds_add ..).mpr ⟨middle, earlier, short⟩⟩

theorem is_match_iff (pattern : Pattern) (text : String) :
    pattern.isMatch text = true ↔
      ∃ before part after, text.toList = before ++ part ++ after ∧ pattern.Matches before part after := by
  have every : PlacesWithin text.toList.length (everyPlace text.toList) := by
    intro place there
    rw [everyPlace, Nat.one_shiftLeft, Nat.testBit_two_pow_sub_one, decide_eq_true_eq] at there
    exact Nat.le_of_lt_succ there
  have found := run_follows text.toList pattern _ every
  rw [isMatch, bne_iff_ne]
  constructor
  · intro somePlace
    obtain ⟨stop, there⟩ := Nat.exists_testBit_of_ne_zero somePlace
    obtain ⟨start, _, before, part, after, spelled, _, _, matched⟩ := (found stop).mp there
    exact ⟨before, part, after, spelled, matched⟩
  · rintro ⟨before, part, after, spelled, matched⟩ nothing
    have known : (everyPlace text.toList).testBit before.length = true := by
      rw [everyPlace, Nat.one_shiftLeft, Nat.testBit_two_pow_sub_one, decide_eq_true_eq, spelled]
      simp only [List.length_append]
      omega
    have there := (found _).mpr ⟨_, known, before, part, after, spelled, rfl, rfl, matched⟩
    rw [nothing, Nat.zero_testBit] at there
    cases there

end Runs

end Pattern

end RecordRules
