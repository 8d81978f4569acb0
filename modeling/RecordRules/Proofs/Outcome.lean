import Mathlib.Data.List.Forall2

set_option autoImplicit false

namespace RecordRules

variable {ε δ α β : Type}

theorem ok_of_bind {step : Except ε α} {next : α → Except ε β} {result : β}
    (made : (step >>= next) = .ok result) : ∃ value, step = .ok value ∧ next value = .ok result := by
  cases step with
  | error error => cases made
  | ok value => exact ⟨value, rfl, made⟩

theorem ok_of_map {step : Except ε α} {change : α → β} {result : β}
    (made : step.map change = .ok result) : ∃ value, step = .ok value ∧ change value = result := by
  cases step with
  | error error => cases made
  | ok value => exact ⟨value, rfl, Except.ok.inj made⟩

theorem ok_of_map_error {step : Except ε α} {change : ε → δ} {result : α}
    (made : step.mapError change = .ok result) : step = .ok result := by
  cases step with
  | error error => cases made
  | ok value => exact congrArg Except.ok (Except.ok.inj made)

theorem map_error_iff (step : Except ε α) (change : α → β) (error : ε) :
    step.map change = .error error ↔ step = .error error := by
  cases step with
  | error own =>
      constructor
      · exact fun same => congrArg _ (Except.error.inj same)
      · exact fun same => congrArg _ (Except.error.inj same)
  | ok value => exact ⟨nofun, nofun⟩

theorem map_ok_iff (step : Except ε α) (change : α → β) :
    (∃ result, step.map change = .ok result) ↔ ∃ value, step = .ok value := by
  cases step with
  | error error => exact ⟨nofun, nofun⟩
  | ok value => exact ⟨fun _ => ⟨value, rfl⟩, fun _ => ⟨change value, rfl⟩⟩

theorem return_ok_iff (step : Except ε α) (change : α → β) :
    (∃ result, (do return change (← step)) = Except.ok result) ↔ ∃ value, step = .ok value :=
  map_ok_iff step change

theorem return_error_iff (step : Except ε α) (change : α → β) (error : ε) :
    (do return change (← step)) = Except.error error ↔ step = .error error :=
  map_error_iff step change error

theorem pointwise_of_mapM (step : α → Except ε β) (items : List α) (results : List β)
    (made : items.mapM step = .ok results) :
    List.Forall₂ (fun item result => step item = .ok result) items results := by
  induction items generalizing results with
  | nil => exact Except.ok.inj made ▸ .nil
  | cons item rest ih =>
      rw [List.mapM_cons] at made
      obtain ⟨first, firstMade, made⟩ := ok_of_bind made
      obtain ⟨others, othersMade, made⟩ := ok_of_bind made
      exact Except.ok.inj made ▸ .cons firstMade (ih others othersMade)

theorem mapM_of_pointwise (step : α → Except ε β) {items : List α} {results : List β}
    (pointwise : List.Forall₂ (fun item result => step item = .ok result) items results) :
    items.mapM step = .ok results := by
  induction pointwise with
  | nil => rfl
  | cons first _ ih =>
      rw [List.mapM_cons, first, ih]
      rfl

theorem mapM_append_ok {step : α → Except ε β} {front back : List α} {results : List β}
    (made : (front ++ back).mapM step = .ok results) :
    ∃ first second, front.mapM step = .ok first ∧ back.mapM step = .ok second ∧ results = first ++ second := by
  rw [List.mapM_append] at made
  obtain ⟨first, frontMade, made⟩ := ok_of_bind made
  obtain ⟨second, backMade, made⟩ := ok_of_bind made
  exact ⟨first, second, frontMade, backMade, (Except.ok.inj made).symm⟩

theorem mapM_ok_iff (step : α → Except ε β) (items : List α) :
    (∃ results, items.mapM step = .ok results) ↔ ∀ item ∈ items, ∃ result, step item = .ok result := by
  induction items with
  | nil => exact ⟨fun _ => List.forall_mem_nil _, fun _ => ⟨[], rfl⟩⟩
  | cons item rest ih =>
      rw [List.forall_mem_cons, ← ih, List.mapM_cons]
      constructor
      · rintro ⟨results, made⟩
        obtain ⟨first, firstMade, made⟩ := ok_of_bind made
        obtain ⟨others, othersMade, _⟩ := ok_of_bind made
        exact ⟨⟨first, firstMade⟩, others, othersMade⟩
      · rintro ⟨⟨first, firstMade⟩, others, othersMade⟩
        rw [firstMade, othersMade]
        exact ⟨first :: others, rfl⟩

theorem mapM_congr {step other : α → Except ε β} {items : List α}
    (same : ∀ item ∈ items, step item = other item) : items.mapM step = items.mapM other := by
  induction items with
  | nil => rfl
  | cons item rest ih =>
      obtain ⟨first, later⟩ := List.forall_mem_cons.mp same
      rw [List.mapM_cons, List.mapM_cons, first, ih later]

theorem mapM_error_iff (step : α → Except ε β) (items : List α) (error : ε) :
    items.mapM step = .error error ↔ ∃ front item back, items = front ++ item :: back ∧
      (∀ earlier ∈ front, ∃ result, step earlier = .ok result) ∧ step item = .error error := by
  constructor
  · intro failed
    induction items with
    | nil => cases failed
    | cons first rest ih =>
        cases own : step first with
        | error cause =>
            rw [List.mapM_cons, own] at failed
            obtain rfl := Except.error.inj failed
            exact ⟨[], first, rest, rfl, List.forall_mem_nil _, own⟩
        | ok result =>
            rw [List.mapM_cons, own] at failed
            obtain ⟨front, item, back, parts, passed, refused⟩ :=
              ih ((return_error_iff (rest.mapM step) (result :: ·) error).mp failed)
            exact ⟨first :: front, item, back, congrArg _ parts, List.forall_mem_cons.mpr ⟨⟨result, own⟩, passed⟩,
              refused⟩
  · rintro ⟨front, item, back, rfl, passed, refused⟩
    obtain ⟨results, made⟩ := (mapM_ok_iff step front).mpr passed
    rw [List.mapM_append, made, List.mapM_cons, refused]
    rfl

theorem mapM_refused (step : α → Except ε β) (items : List α) (refused : α → Prop) (reason : ε)
    (each : ∀ item ∈ items, (refused item ∧ step item = .error reason) ∨
      (¬refused item ∧ ∃ result, step item = .ok result)) (error : ε) :
    items.mapM step = .error error ↔ (∃ item ∈ items, refused item) ∧ error = reason := by
  have same (other : ε) (failed : items.mapM step = .error other) :
      (∃ item ∈ items, refused item) ∧ other = reason := by
    obtain ⟨front, item, back, rfl, _, own⟩ := (mapM_error_iff step items other).mp failed
    have member : item ∈ front ++ item :: back := List.mem_append_right _ List.mem_cons_self
    rcases each item member with ⟨out, told⟩ | ⟨_, result, made⟩
    · exact ⟨⟨item, member, out⟩, Except.error.inj (own.symm.trans told)⟩
    · cases own.symm.trans made
  refine ⟨same error, ?_⟩
  rintro ⟨⟨item, member, out⟩, rfl⟩
  cases all : items.mapM step with
  | error other => rw [(same other all).2]
  | ok results =>
      obtain ⟨result, made⟩ := (mapM_ok_iff step items).mp ⟨results, all⟩ item member
      rcases each item member with ⟨_, told⟩ | ⟨kept, _⟩
      · cases made.symm.trans told
      · exact absurd out kept

theorem pointwise_mem {related : α → β → Prop} {items : List α} {results : List β}
    (pointwise : List.Forall₂ related items results) (result : β) (member : result ∈ results) :
    ∃ item ∈ items, related item result := by
  induction pointwise with
  | nil => cases member
  | cons first _ ih =>
      rcases List.mem_cons.mp member with here | later
      · exact ⟨_, List.mem_cons_self, here ▸ first⟩
      · obtain ⟨item, there, same⟩ := ih later
        exact ⟨item, List.mem_cons_of_mem _ there, same⟩

theorem pointwise_middle {related : α → β → Prop} {front back : List α} {item : α} {results : List β}
    (pointwise : List.Forall₂ related (front ++ item :: back) results) :
    ∃ before result after, results = before ++ result :: after ∧ related item result := by
  induction front generalizing results with
  | nil =>
      cases pointwise with
      | cons first _ => exact ⟨[], _, _, rfl, first⟩
  | cons other rest ih =>
      cases pointwise with
      | @cons _ met _ _ _ later =>
          obtain ⟨before, result, after, rfl, same⟩ := ih later
          exact ⟨met :: before, result, after, rfl, same⟩

end RecordRules
