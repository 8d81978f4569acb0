import Mathlib.Logic.Relation
import Mathlib.Tactic.Tauto
import RecordRules.Rulebook.Build

set_option autoImplicit false

namespace RecordRules.Rulebook

variable {n : Nat}

inductive Event (n : Nat) where
  | enter (id : Fin n)
  | fail (error : CompileError)
deriving DecidableEq, Repr

def Event.entered? : Event n → Option (Fin n)
  | enter id => some id
  | fail _ => none

def Event.failure? : Event n → Option CompileError
  | enter _ => none
  | fail error => some error

def enters (events : List (Event n)) : List (Fin n) := events.filterMap Event.entered?

def firstFailure (events : List (Event n)) : Option CompileError := events.findSome? Event.failure?

-- A rule string is read as a whole before any of its rules is made into a stage, and a nested type
-- comes after both.
def fieldEvents (book : Rulebook n) (S : Schema n) (id : Fin n) (declared : FieldDef n × Nat) :
    List (Event n) :=
  let (field, index) := declared
  let fail (cause : RuleError) : Event n := .fail ⟨S.nameOf id, field.name, cause⟩
  match book.parse field.rules with
  | .error cause => [fail cause]
  | .ok rules =>
      if rules.contains .skip then []
      else
        match rules.mapM (book.stage S (.declared id index field)) with
        | .error cause => [fail cause]
        | .ok _ => (book.nested? field).toList.map .enter

def checkEvents (book : Rulebook n) (S : Schema n) (id : Fin n) (check : RecordCheck) :
    List (Event n) :=
  let fail (cause : RuleError) : Event n := .fail ⟨S.nameOf id, check.anchor, cause⟩
  match FieldPath.resolve S id check.anchor with
  | .error error => [fail (.path error)]
  | .ok anchor =>
      match book.parse check.rules with
      | .error cause => [fail cause]
      | .ok rules =>
          if rules.contains .skip then []
          else
            match rules.mapM (book.stage S anchor) with
            | .error cause => [fail cause]
            | .ok _ => []

def events (book : Rulebook n) (S : Schema n) (id : Fin n) : List (Event n) :=
  (S id).fields.zipIdx.flatMap (book.fieldEvents S id) ++ (S id).checks.flatMap (book.checkEvents S id)

theorem field_event_mem (book : Rulebook n) (S : Schema n) (id : Fin n) (declared : FieldDef n × Nat)
    (listed : declared ∈ (S id).fields.zipIdx) (event : Event n)
    (met : event ∈ book.fieldEvents S id declared) : event ∈ book.events S id :=
  List.mem_append_left _ (List.mem_flatMap.mpr ⟨declared, listed, met⟩)

theorem check_event_mem (book : Rulebook n) (S : Schema n) (id : Fin n) (check : RecordCheck)
    (listed : check ∈ (S id).checks) (event : Event n) (met : event ∈ book.checkEvents S id check) :
    event ∈ book.events S id :=
  List.mem_append_right _ (List.mem_flatMap.mpr ⟨check, listed, met⟩)

-- A tour does not stop at a failure, so that it is fixed by the rule strings and by the types that
-- were entered before. The work that is left is one list: what a type adds to it comes before the
-- rest, which makes the order depth first.
def tour (next : Fin n → List (Event n)) (entered : List (Fin n)) :
    List (Event n) → List (Event n)
  | [] => []
  | .fail error :: rest => .fail error :: tour next entered rest
  | .enter id :: rest =>
      if _known : id ∈ entered then tour next entered rest
      else .enter id :: tour next (id :: entered) (next id ++ rest)
termination_by work => (remaining entered, work.length)
decreasing_by
  · exact Prod.Lex.right _ (Nat.lt_succ_self _)
  · exact Prod.Lex.right _ (Nat.lt_succ_self _)
  · exact Prod.Lex.left _ _ (remaining_lt (List.subset_cons_self id entered) id _known (by simp))

theorem tour_congr (next : Fin n → List (Event n)) (entered other : List (Fin n))
    (work : List (Event n)) (same : ∀ id, id ∈ entered ↔ id ∈ other) :
    tour next entered work = tour next other work := by
  induction entered, work using tour.induct next generalizing other with
  | case1 entered => rw [tour, tour]
  | case2 entered error rest ih => rw [tour, tour, ih other same]
  | case3 entered id rest known ih =>
      rw [tour, tour, dif_pos known, dif_pos ((same id).mp known), ih other same]
  | case4 entered id rest unknown ih =>
      have extended : ∀ otherId, otherId ∈ id :: entered ↔ otherId ∈ id :: other := fun otherId => by
        simp [same]
      rw [tour, tour, dif_neg unknown, dif_neg (fun known => unknown ((same id).mpr known)),
        ih (id :: other) extended]

theorem tour_append (next : Fin n → List (Event n)) (entered : List (Fin n))
    (first second : List (Event n)) :
    tour next entered (first ++ second) =
      tour next entered first ++ tour next (enters (tour next entered first) ++ entered) second := by
  induction entered, first using tour.induct next with
  | case1 entered => simp [tour, enters]
  | case2 entered error rest ih => simp only [List.cons_append, tour, ih]; rfl
  | case3 entered id rest known ih => simp only [List.cons_append, tour, dif_pos known, ih]
  | case4 entered id rest unknown ih =>
      have shifted (later : List (Event n)) : ∀ other,
          other ∈ enters later ++ id :: entered ↔ other ∈ id :: enters later ++ entered := fun other => by
        simp only [List.mem_append, List.mem_cons]
        tauto
      simp only [List.cons_append, tour, dif_neg unknown, ← List.append_assoc, ih]
      rw [tour_congr next _ _ second (shifted _)]
      rfl

theorem tour_known (next : Fin n → List (Event n)) (entered : List (Fin n)) (work : List (Event n))
    (known : ∀ event ∈ work, ∃ id ∈ entered, event = .enter id) : tour next entered work = [] := by
  induction work with
  | nil => rw [tour]
  | cons event rest ih =>
      obtain ⟨id, there, rfl⟩ := known event (by simp)
      rw [tour, dif_pos there]
      exact ih fun event member => known event (by simp [member])

theorem first_failure_append (a b : List (Event n)) :
    firstFailure (a ++ b) = (firstFailure a).or (firstFailure b) := List.findSome?_append

theorem enters_append (a b : List (Event n)) : enters (a ++ b) = enters a ++ enters b :=
  List.filterMap_append

theorem mem_enters (events : List (Event n)) (id : Fin n) : id ∈ enters events ↔ .enter id ∈ events := by
  simp only [enters, List.mem_filterMap]
  constructor
  · rintro ⟨event, member, entered⟩
    cases event with
    | enter other => exact (Option.some.inj entered) ▸ member
    | fail error => cases entered
  · exact fun member => ⟨.enter id, member, rfl⟩

theorem no_failure (events : List (Event n)) (clean : firstFailure events = none)
    (error : CompileError) : .fail error ∉ events := by
  intro member
  have absent := List.findSome?_eq_none_iff.mp clean (.fail error) member
  cases absent

theorem tour_meets_work (next : Fin n → List (Event n)) (entered : List (Fin n))
    (work : List (Event n)) (event : Event n) (member : event ∈ work) :
    event ∈ tour next entered work ∨ ∃ id ∈ entered, event = .enter id := by
  induction entered, work using tour.induct next with
  | case1 entered => simp at member
  | case2 entered error rest ih =>
      rw [tour]
      rcases List.mem_cons.mp member with same | later
      · exact .inl (List.mem_cons.mpr (.inl same))
      · exact (ih later).imp_left (List.mem_cons_of_mem _)
  | case3 entered id rest known ih =>
      rw [tour, dif_pos known]
      rcases List.mem_cons.mp member with same | later
      · exact .inr ⟨id, known, same⟩
      · exact ih later
  | case4 entered id rest unknown ih =>
      rw [tour, dif_neg unknown]
      rcases List.mem_cons.mp member with same | later
      · exact .inl (List.mem_cons.mpr (.inl same))
      · rcases ih (List.mem_append.mpr (.inr later)) with met | ⟨other, known, same⟩
        · exact .inl (List.mem_cons_of_mem _ met)
        · rcases List.mem_cons.mp known with here | before
          · exact .inl (by simp [same, here])
          · exact .inr ⟨other, before, same⟩

theorem tour_meets_next (next : Fin n → List (Event n)) (entered : List (Fin n))
    (work : List (Event n)) (id : Fin n) (event : Event n)
    (there : .enter id ∈ tour next entered work) (member : event ∈ next id) :
    event ∈ tour next entered work ∨ ∃ other ∈ entered, event = .enter other := by
  induction entered, work using tour.induct next with
  | case1 entered => simp [tour] at there
  | case2 entered error rest ih =>
      rw [tour] at there ⊢
      exact (ih (by simpa using there)).imp_left (List.mem_cons_of_mem _)
  | case3 entered other rest known ih =>
      rw [tour, dif_pos known] at there ⊢
      exact ih there
  | case4 entered other rest unknown ih =>
      rw [tour, dif_neg unknown] at there ⊢
      have met : event ∈ tour next (other :: entered) (next other ++ rest) ∨
          ∃ known ∈ other :: entered, event = .enter known := by
        rcases List.mem_cons.mp there with same | later
        · cases same
          exact tour_meets_work next _ _ event (List.mem_append.mpr (.inl member))
        · exact ih later
      rcases met with met | ⟨known, before, same⟩
      · exact .inl (List.mem_cons_of_mem _ met)
      · rcases List.mem_cons.mp before with here | before
        · exact .inl (by simp [same, here])
        · exact .inr ⟨known, before, same⟩

theorem tour_reaches (next : Fin n → List (Event n)) (entered : List (Fin n))
    (work : List (Event n)) (id : Fin n) (there : .enter id ∈ tour next entered work) :
    ∃ start, .enter start ∈ work ∧
      Relation.ReflTransGen (fun outer inner => .enter inner ∈ next outer) start id := by
  induction entered, work using tour.induct next with
  | case1 entered => simp [tour] at there
  | case2 entered error rest ih =>
      rw [tour] at there
      obtain ⟨start, member, reach⟩ := ih (by simpa using there)
      exact ⟨start, List.mem_cons_of_mem _ member, reach⟩
  | case3 entered other rest known ih =>
      rw [tour, dif_pos known] at there
      obtain ⟨start, member, reach⟩ := ih there
      exact ⟨start, List.mem_cons_of_mem _ member, reach⟩
  | case4 entered other rest unknown ih =>
      rw [tour, dif_neg unknown] at there
      rcases List.mem_cons.mp there with same | later
      · cases same
        exact ⟨id, List.mem_cons_self, .refl⟩
      · obtain ⟨start, member, reach⟩ := ih later
        rcases List.mem_append.mp member with below | beside
        · exact ⟨other, List.mem_cons_self, .head below reach⟩
        · exact ⟨start, List.mem_cons_of_mem _ beside, reach⟩

def Closed (next : Fin n → List (Event n)) (ids : List (Fin n)) : Prop :=
  ∀ id ∈ ids, ∀ event ∈ next id, ∃ other ∈ ids, event = .enter other

theorem closed_enter {next : Fin n → List (Event n)} {ids : List (Fin n)} (closed : Closed next ids)
    {id inner : Fin n} (there : id ∈ ids) (enters : .enter inner ∈ next id) : inner ∈ ids := by
  obtain ⟨other, member, same⟩ := closed id there _ enters
  exact Event.enter.inj same ▸ member

theorem closed_clean {next : Fin n → List (Event n)} {ids : List (Fin n)} (closed : Closed next ids)
    {id : Fin n} (there : id ∈ ids) (error : CompileError) : .fail error ∉ next id := by
  intro fails
  obtain ⟨_, _, same⟩ := closed id there _ fails
  cases same

-- A tour that passes over finished types meets the same failure first. Where the longer tour enters
-- such a type, what it adds to the work is known to the shorter one.
theorem first_failure_past_closed (next : Fin n → List (Event n)) (finished : List (Fin n))
    (closed : Closed next finished) (entered : List (Fin n)) (work : List (Event n)) :
    firstFailure (tour next (finished ++ entered) work) = firstFailure (tour next entered work) := by
  induction entered, work using tour.induct next with
  | case1 entered => rw [tour, tour]
  | case2 entered error rest ih => rw [tour, tour]; rfl
  | case3 entered id rest known ih =>
      rw [tour, tour, dif_pos known, dif_pos (List.mem_append_right finished known), ih]
  | case4 entered id rest unknown ih =>
      have moved : ∀ other, other ∈ finished ++ id :: entered ↔ other ∈ id :: (finished ++ entered) :=
        fun other => by
          simp only [List.mem_append, List.mem_cons]
          tauto
      have right : firstFailure (tour next entered (.enter id :: rest)) =
          firstFailure (tour next (finished ++ id :: entered) (next id ++ rest)) := by
        rw [tour, dif_neg unknown, ih]
        rfl
      rw [right]
      by_cases done : id ∈ finished
      · have skipped : tour next (finished ++ id :: entered) (next id) = [] := by
          refine tour_known next _ _ fun event member => ?_
          obtain ⟨other, there, same⟩ := closed id done event member
          exact ⟨other, List.mem_append_left _ there, same⟩
        have kept : ∀ other, other ∈ finished ++ entered ↔ other ∈ finished ++ id :: entered :=
          fun other => by
            by_cases here : other = id <;> simp [here, done]
        rw [tour, dif_pos (List.mem_append_left entered done), tour_append, skipped]
        exact congrArg firstFailure (tour_congr next _ _ rest kept)
      · have outside : id ∉ finished ++ entered := by simp [done, unknown]
        rw [tour, dif_neg outside, tour_congr next _ _ _ moved]
        rfl

end RecordRules.Rulebook
