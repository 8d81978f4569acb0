import RecordRules.Pattern.Basic

set_option autoImplicit false

namespace RecordRules

-- A set of places is a natural number whose bit `i` stands for the place before character `i`. Sets of
-- places are taken to sets of places, so that no choice ever has to be taken back.
inductive Route where
  | stay
  | step (places : Nat)
  | gate (places : Nat)
  | cat (a b : Route)
  | alt (a b : Route)
  | repeated (a : Route) (min : Nat) (max : Option Nat)

namespace Pattern

def charPlaces (set : Charset) : List Char → Nat
  | [] => 0
  | c :: rest => (set.contains c).toNat + 2 * charPlaces set rest

def enter (c : Char) (place : Nat) : List (Char × Nat) → List (Char × Nat)
  | [] => [(c, place)]
  | (c', places) :: rest =>
      if c = c' then (c', places + place) :: rest else (c', places) :: enter c place rest

-- Every character of a text is looked at once for each set, however often it comes there.
def census (place : Nat) : List Char → List (Char × Nat)
  | [] => []
  | c :: rest => enter c (1 <<< place) (census (place + 1) rest)

def countedPlaces (set : Charset) : List (Char × Nat) → Nat
  | [] => 0
  | (c, places) :: rest =>
      if set.contains c then places + countedPlaces set rest else countedPlaces set rest

theorem countedPlaces_enter (set : Charset) (c : Char) (place : Nat) (counted : List (Char × Nat)) :
    countedPlaces set (enter c place counted) =
      (if set.contains c then place else 0) + countedPlaces set counted := by
  induction counted with
  | nil => by_cases h : set.contains c <;> simp [enter, countedPlaces, h]
  | cons entry rest ih =>
      obtain ⟨c', places⟩ := entry
      by_cases same : c = c'
      · subst same
        by_cases h : set.contains c
        · simp [enter, countedPlaces, h]
          omega
        · simp [enter, countedPlaces, h]
      · by_cases h : set.contains c'
        · simp [enter, countedPlaces, h, same, ih]
          omega
        · simp [enter, countedPlaces, h, same, ih]

theorem countedPlaces_census (set : Charset) (place : Nat) (text : List Char) :
    countedPlaces set (census place text) = charPlaces set text <<< place := by
  induction text generalizing place with
  | nil => simp [census, countedPlaces, charPlaces]
  | cons c rest ih =>
      rw [census, countedPlaces_enter, ih, charPlaces, Nat.add_comm place 1, Nat.shiftLeft_add]
      by_cases h : set.contains c <;> simp [h, Nat.shiftLeft_eq] <;> grind

def lookPlaces (kind : Look) (before : Option Char) : List Char → Nat
  | [] => (kind.holds before none).toNat
  | c :: rest => (kind.holds before (some c)).toNat + 2 * lookPlaces kind (some c) rest

def along (text : List Char) (counted : List (Char × Nat)) : Pattern → Route
  | empty => .stay
  | char set => .step (countedPlaces set counted)
  | look kind => .gate (lookPlaces kind none text)
  | cat a b => .cat (a.along text counted) (b.along text counted)
  | alt a b => .alt (a.along text counted) (b.along text counted)
  | repeated a min max => .repeated (a.along text counted) min max

end Pattern

namespace Route

-- Applies a step so many times; places that it leads back to themselves stay as they are.
def iterate (step : Nat → Nat) : Nat → Nat → Nat
  | 0, places => places
  | count + 1, places =>
      let further := step places
      if further = places then places else iterate step count further

def reach (step : Nat → Nat) : Nat → Nat → Nat
  | 0, places => places
  | bound + 1, places =>
      let further := places ||| step places
      if further = places then places else reach step bound further

def run (count : Nat) : Route → Nat → Nat
  | stay, places => places
  | step through, places => (places &&& through) <<< 1
  | gate through, places => places &&& through
  | cat a b, places => run count b (run count a places)
  | alt a b, places => run count a places ||| run count b places
  | repeated a min max, places =>
      let least := iterate (run count a) min places
      match max with
      | some max => reach (run count a) (max - min) least
      | none => reach (run count a) count least

end Route

namespace Pattern

def run (text : List Char) (pattern : Pattern) (places : Nat) : Nat :=
  (pattern.along text (census 0 text)).run (text.length + 1) places

def everyPlace (text : List Char) : Nat := 1 <<< (text.length + 1) - 1

def isMatch (pattern : Pattern) (text : String) : Bool :=
  pattern.run text.toList (everyPlace text.toList) != 0

section
variable (text : List Char) (a b : Pattern) (places : Nat)

@[simp] theorem run_empty : empty.run text places = places := rfl

@[simp] theorem run_char (set : Charset) :
    (char set).run text places = (places &&& charPlaces set text) <<< 1 := by
  simp [run, along, Route.run, countedPlaces_census]

@[simp] theorem run_look (kind : Look) :
    (look kind).run text places = places &&& lookPlaces kind none text := rfl

@[simp] theorem run_cat : (cat a b).run text places = b.run text (a.run text places) := rfl

@[simp] theorem run_alt : (alt a b).run text places = a.run text places ||| b.run text places := rfl

theorem run_repeated_some (min max : Nat) :
    (repeated a min (some max)).run text places =
      Route.reach (a.run text) (max - min) (Route.iterate (a.run text) min places) := rfl

theorem run_repeated_none (min : Nat) :
    (repeated a min none).run text places =
      Route.reach (a.run text) (text.length + 1) (Route.iterate (a.run text) min places) := rfl

end

end Pattern

end RecordRules
