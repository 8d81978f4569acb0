import RecordRules.Proofs.Coverage
import RecordRules.Proofs.Mirror
import RecordRules.Proofs.Retrieval
import RecordRules.Proofs.SelfReference

set_option autoImplicit false

namespace RecordRules

variable {n : Nat}

namespace Conditional

theorem requires_append (kind : Conditional) (first second : List Bool) :
    kind.requires (first ++ second) = (kind.requires first && kind.requires second) := by
  cases kind with
  | requiredIf => simp [requires, List.all_append]
  | requiredUnless => simp [requires, List.any_append]

theorem requires_congr (kind : Conditional) {matching others : List Bool}
    (same : ∀ state, state ∈ matching ↔ state ∈ others) :
    kind.requires matching = kind.requires others := by
  rw [Bool.eq_iff_iff]
  cases kind with
  | requiredIf => simp only [requires, List.all_eq_true, same]
  | requiredUnless =>
      simp only [requires, Bool.not_eq_true', List.any_eq_false, same]

theorem requires_once {matching : List Bool} (somePair : matching ≠ []) :
    (requiredIf.requires matching && requiredUnless.requires matching) = false := by
  obtain ⟨state, rest, rfl⟩ := List.exists_cons_of_ne_nil somePair
  cases state with
  | false => rfl
  | true => simp [requires]

theorem requires_single (state : Bool) :
    requiredIf.requires [state] = !requiredUnless.requires [state] := by
  cases state <;> rfl

theorem requires_unmatched (front back : List Bool) :
    requiredIf.requires (front ++ false :: back) = false ∧
      requiredUnless.requires (front ++ false :: back) = requiredUnless.requires (front ++ back) := by
  constructor
  · simp [requires]
  · simp [requires]

end Conditional

-- Nothing to compare with a literal: the way is cut, or it ends at nil or at a record.
inductive Instance.LacksForm (S : Schema n) (record : Instance n) (names : List String) : Prop where
  | cut {front : List String} (stops : record.StopsAt S names front)
  | unset (reaches : record.Reaches S names .nil)
  | whole {type : Fin n} {fields : List (Value n)} (reaches : record.Reaches S names (.record type fields))

theorem pair_unmatched {S : Schema n} {record : Instance n} (fit : record.fits S) {pair : Pair}
    {target : FieldPath n} (resolved : FieldPath.resolve S record.type pair.field = .ok target)
    (lacks : record.LacksForm S target.segments) : pair.holds S record = false := by
  have reads (value : Value n) := FieldPath.read_ok_iff resolved rfl fit value
  have fails (error : ReadError) := FieldPath.read_error_iff resolved rfl fit error
  rw [Pair.holds, ← FieldPath.read_lookup S _ target record resolved fit]
  cases lacks with
  | @cut front stops => rw [(fails _).mpr ⟨front, stops, rfl⟩]
  | unset reaches =>
      rw [(reads _).mpr reaches]
      simp [Value.form?]
  | whole reaches =>
      rw [(reads _).mpr reaches]
      simp [Value.form?]

namespace Rulebook

-- Whether rules at an anchor have something to say of a record, where they can be made ready at all.
def rejects (book : Rulebook n) (S : Schema n) (anchor : FieldPath n) (record : Instance n)
    (rules : List Rule) : Except RuleError Bool := do
  let stages ← rules.mapM (book.stage S anchor)
  let part : FieldPlan n Slot := ⟨anchor, stages, none⟩
  return !(part.report S (fun _ => none) record).isEmpty

end Rulebook

def FieldPath.Avoids (S : Schema n) (anchor : FieldPath n) (pairs : List Pair) : Prop :=
  ∀ pair ∈ pairs, ∀ target, resolve S anchor.root pair.field = .ok target →
    target.sameField anchor = false

variable {book : Rulebook n} {S : Schema n} {anchor : FieldPath n} {record : Instance n}

theorem sibling_avoided {pairs : List Pair} (avoids : anchor.Avoids S pairs) (tag : String) {pair : Pair}
    (member : pair ∈ pairs) : anchor.otherSibling S tag pair.field = anchor.sibling S pair.field := by
  rw [FieldPath.otherSibling]
  cases found : anchor.sibling S pair.field with
  | error error => rfl
  | ok target =>
      have apart := avoids pair member target (sibling_ok found)
      simp only [bind, Except.bind, apart, Bool.false_eq_true, if_false]

theorem conditional_stage (book : Rulebook n) {pairs : List Pair} (avoids : anchor.Avoids S pairs)
    (kind : Conditional) :
    book.stage S anchor (.clause (.conditional kind pairs)) =
      (pairs.mapM (Rulebook.condition S anchor)).map fun conditions =>
        .test (.cross (.conditional kind conditions)) := by
  have same : ∀ pair ∈ pairs, (do
      return ⟨← anchor.otherSibling S kind.tag pair.field, pair.literal⟩ : Except RuleError (Condition n)) =
        Rulebook.condition S anchor pair := by
    intro pair member
    rw [sibling_avoided avoids kind.tag member, Rulebook.condition]
  rw [Rulebook.stage, Constraint.ofClause, CrossRule.conditionalOf, mapM_congr same]
  cases pairs.mapM (Rulebook.condition S anchor) <;> rfl

theorem required_says (S : Schema n) (record : Instance n) (value : Value n) :
    ((Constraint.leaf ⟨"required", none, Check.required⟩).violation? S record value).isSome =
      value.isEmpty := by
  simp only [Constraint.violation?, LeafRule.violation?, Option.isSome_map, Check.required, Check.ofTest]
  by_cases empty : value.isEmpty = true
  · simp [empty]
  · simp [empty]

section Rejects

variable {value : Value n} (read : anchor.read S record = .ok value)
include read

theorem report_alone (stages : List (Stage n)) :
    (⟨anchor, stages, none⟩ : FieldPlan n Slot).report S (fun _ => none) record =
      FieldPlan.ownReport S record value (⟨anchor, stages, none⟩ : FieldPlan n Slot) := by
  rw [FieldPlan.report, read]
  simp only [Option.bind_none]
  cases value.record? with
  | none => exact List.append_nil _
  | some inner => exact List.append_nil _

theorem rejects_made {rules : List Rule} {stages : List (Stage n)}
    (made : rules.mapM (book.stage S anchor) = .ok stages) :
    book.rejects S anchor record rules = .ok
      (!((Stage.admitted S record value stages).filterMap (Constraint.violation? S record value)).isEmpty) := by
  rw [Rulebook.rejects, made]
  simp only [bind, Except.bind, pure, Except.pure, report_alone read, FieldPlan.ownReport,
    List.isEmpty_map]

theorem rejects_conditional {pairs : List Pair} (avoids : anchor.Avoids S pairs) (kind : Conditional) :
    book.rejects S anchor record [.clause (.conditional kind pairs)] =
      (pairs.mapM (Rulebook.condition S anchor)).map fun conditions =>
        kind.requires (conditions.map (Condition.holds S record)) && value.isEmpty := by
  have stage := conditional_stage book avoids kind
  cases made : pairs.mapM (Rulebook.condition S anchor) with
  | error error =>
      rw [made] at stage
      rw [Rulebook.rejects, List.mapM_cons, stage]
      rfl
  | ok conditions =>
      rw [made] at stage
      have stages : [Rule.clause (.conditional kind pairs)].mapM (book.stage S anchor) =
          .ok [.test (.cross (.conditional kind conditions))] := by
        rw [List.mapM_cons, stage]
        rfl
      rw [rejects_made read stages]
      refine congrArg Except.ok ?_
      simp only [Stage.admitted, List.filterMap_cons, List.filterMap_nil, Constraint.violation?,
        CrossRule.violation?]
      by_cases asked : (kind.requires (conditions.map (Condition.holds S record)) && value.isEmpty) = true
      · simp [asked]
      · simp [asked]

theorem rejects_gated (required : book.catalog.build "required" none = .ok Check.required)
    (pairs : List Pair) :
    book.rejects S anchor record [.skipUnless pairs, .clause (.leaf "required" none)] =
      (pairs.mapM (Rulebook.condition S anchor)).map fun conditions =>
        conditions.all (Condition.holds S record) && value.isEmpty := by
  have leaf : book.stage S anchor (.clause (.leaf "required" none)) =
      .ok (.test (.leaf ⟨"required", none, Check.required⟩)) := by
    rw [Rulebook.stage, Constraint.ofClause, Constraint.ofLeaf, required]
    rfl
  cases made : pairs.mapM (Rulebook.condition S anchor) with
  | error error =>
      rw [Rulebook.rejects, List.mapM_cons, Rulebook.stage, made]
      rfl
  | ok conditions =>
      have stages : [Rule.skipUnless pairs, .clause (.leaf "required" none)].mapM (book.stage S anchor) =
          .ok [.gate (.skipUnless conditions), .test (.leaf ⟨"required", none, Check.required⟩)] := by
        rw [List.mapM_cons, List.mapM_cons, leaf, Rulebook.stage, made]
        rfl
      rw [rejects_made read stages]
      refine congrArg Except.ok ?_
      have single := required_says S record value
      cases opened : conditions.all (Condition.holds S record) with
      | false => simp [Stage.admitted, Gate.admits, opened]
      | true =>
          simp only [Stage.admitted, Gate.admits, opened, if_true, Bool.true_and, List.filterMap_cons,
            List.filterMap_nil]
          rw [← single]
          cases (Constraint.leaf ⟨"required", none, Check.required⟩).violation? S record value <;> rfl

theorem gated_same (required : book.catalog.build "required" none = .ok Check.required) {pairs : List Pair}
    (avoids : anchor.Avoids S pairs) :
    book.rejects S anchor record [.clause (.conditional .requiredIf pairs)] =
      book.rejects S anchor record [.skipUnless pairs, .clause (.leaf "required" none)] := by
  rw [rejects_conditional read avoids, rejects_gated read required]
  refine congrArg (Except.map · _) (funext fun conditions => ?_)
  rw [Conditional.requires, List.all_map, Function.id_comp]

theorem given_append (kind : Conditional) {first second : List Pair}
    (avoids : anchor.Avoids S (first ++ second)) :
    book.rejects S anchor record [.clause (.conditional kind (first ++ second))] = do
      let one ← book.rejects S anchor record [.clause (.conditional kind first)]
      let two ← book.rejects S anchor record [.clause (.conditional kind second)]
      return one && two := by
  have firstAvoids : anchor.Avoids S first := fun pair member => avoids pair (List.mem_append_left _ member)
  have secondAvoids : anchor.Avoids S second := fun pair member =>
    avoids pair (List.mem_append_right _ member)
  rw [rejects_conditional read avoids, rejects_conditional read firstAvoids,
    rejects_conditional read secondAvoids, List.mapM_append]
  cases first.mapM (Rulebook.condition S anchor) with
  | error error => rfl
  | ok front =>
      cases second.mapM (Rulebook.condition S anchor) with
      | error error => rfl
      | ok back =>
          refine congrArg Except.ok ?_
          dsimp only
          rw [List.map_append, Conditional.requires_append]
          cases value.isEmpty <;> simp

section Known

variable (type : record.type = anchor.root) (fit : record.fits S) {pairs : List Pair}
  (known : ∀ pair ∈ pairs, S.Knows anchor.root pair.field)
include type fit known

omit read in
theorem conditions_known (book : Rulebook n) : ∃ conditions,
    pairs.mapM (Rulebook.condition S anchor) = .ok conditions ∧
      conditions.map (Condition.holds S record) = pairs.map (Pair.holds S record) := by
  obtain ⟨stage, made⟩ : ∃ stage, book.stage S anchor (.skipUnless pairs) = .ok stage :=
    (Rulebook.gate_made_iff anchor pairs).mpr known
  obtain ⟨conditions, found, same⟩ := ok_of_bind made
  obtain ⟨_, again, reads⟩ := Rulebook.stage_ok made
  cases same
  cases again
  exact ⟨conditions, found, conditions_hold record fit pairs conditions (type ▸ reads)⟩

theorem given_known (avoids : anchor.Avoids S pairs) (kind : Conditional) :
    book.rejects S anchor record [.clause (.conditional kind pairs)] =
      .ok (kind.requires (pairs.map (Pair.holds S record)) && value.isEmpty) := by
  obtain ⟨conditions, found, same⟩ := conditions_known type fit known book
  rw [rejects_conditional read avoids, found, Except.map, same]

theorem given_once (avoids : anchor.Avoids S pairs) (somePair : pairs ≠ []) :
    ∃ one other, book.rejects S anchor record [.clause (.conditional .requiredIf pairs)] = .ok one ∧
      book.rejects S anchor record [.clause (.conditional .requiredUnless pairs)] = .ok other ∧
      (one && other) = false ∧ (pairs.length = 1 → (one ^^ other) = value.isEmpty) := by
  have someState : pairs.map (Pair.holds S record) ≠ [] := by simp [somePair]
  refine ⟨_, _, given_known read type fit known avoids .requiredIf,
    given_known read type fit known avoids .requiredUnless, ?_, fun single => ?_⟩
  · have once := Conditional.requires_once someState
    cases value.isEmpty with
    | false => simp
    | true => simpa using once
  · obtain ⟨pair, rfl⟩ := List.length_eq_one_iff.mp single
    rw [List.map_singleton, Conditional.requires_single]
    cases Conditional.requiredUnless.requires [pair.holds S record] <;> cases value.isEmpty <;> rfl

theorem given_unmatched (required : book.catalog.build "required" none = .ok Check.required)
    (avoids : anchor.Avoids S pairs) {front back : List Pair} {pair : Pair}
    (parts : pairs = front ++ pair :: back) (unmatched : pair.holds S record = false) :
    book.rejects S anchor record [.clause (.conditional .requiredIf pairs)] = .ok false ∧
      book.rejects S anchor record [.skipUnless pairs, .clause (.leaf "required" none)] = .ok false ∧
      book.rejects S anchor record [.clause (.conditional .requiredUnless pairs)] =
        book.rejects S anchor record [.clause (.conditional .requiredUnless (front ++ back))] := by
  have fewer : ∀ other ∈ front ++ back, other ∈ pairs := by
    intro other member
    rw [parts]
    rcases List.mem_append.mp member with before | after
    · exact List.mem_append_left _ before
    · exact List.mem_append_right _ (List.mem_cons_of_mem _ after)
  have states : pairs.map (Pair.holds S record) =
      front.map (Pair.holds S record) ++ false :: back.map (Pair.holds S record) := by
    rw [parts, List.map_append, List.map_cons, unmatched]
  obtain ⟨never, leftOut⟩ :=
    Conditional.requires_unmatched (front.map (Pair.holds S record)) (back.map (Pair.holds S record))
  have silent : book.rejects S anchor record [.clause (.conditional .requiredIf pairs)] = .ok false := by
    rw [given_known read type fit known avoids, states, never, Bool.false_and]
  refine ⟨silent, (gated_same read required avoids).symm.trans silent, ?_⟩
  rw [given_known read type fit known avoids, states, leftOut, ← List.map_append]
  exact (given_known read type fit (fun other member => known other (fewer other member))
    (fun other member => avoids other (fewer other member)) _).symm

end Known

end Rejects

theorem literal_conditions_agree (book : Rulebook n) (S : Schema n) (anchor : FieldPath n)
    (record : Instance n) (value : Value n) (type : record.type = anchor.root) (fit : record.fits S)
    (read : anchor.read S record = .ok value)
    (required : book.catalog.build "required" none = .ok Check.required) :
    let given (kind : Conditional) (pairs : List Pair) :=
      book.rejects S anchor record [.clause (.conditional kind pairs)]
    let gated (pairs : List Pair) :=
      book.rejects S anchor record [.skipUnless pairs, .clause (.leaf "required" none)]
    (∀ pairs, anchor.Avoids S pairs → given .requiredIf pairs = gated pairs) ∧
    (∀ kind first second, anchor.Avoids S (first ++ second) → given kind (first ++ second) = do
      let one ← given kind first
      let two ← given kind second
      return one && two) ∧
    (∀ pairs, pairs ≠ [] → anchor.Avoids S pairs → (∀ pair ∈ pairs, S.Knows anchor.root pair.field) →
      (∃ one other, given .requiredIf pairs = .ok one ∧ given .requiredUnless pairs = .ok other ∧
        (one && other) = false ∧ (pairs.length = 1 → (one ^^ other) = value.isEmpty)) ∧
      (∀ others, (∀ pair, pair ∈ pairs ↔ pair ∈ others) →
        (∀ kind, given kind others = given kind pairs) ∧ gated others = gated pairs) ∧
      ∀ front pair back target, pairs = front ++ pair :: back →
        FieldPath.resolve S anchor.root pair.field = .ok target → record.LacksForm S target.segments →
        given .requiredIf pairs = .ok false ∧ gated pairs = .ok false ∧
          given .requiredUnless pairs = given .requiredUnless (front ++ back)) ∧
    ∀ rules (part : FieldPlan n Slot), part.Covers book S anchor rules →
      book.rejects S anchor record rules = .ok (!(part.ownReport S record value).isEmpty) := by
  intro given gated
  refine ⟨fun pairs avoids => gated_same read required avoids,
    fun kind first second avoids => given_append read kind avoids, ?_, ?_⟩
  · intro pairs somePair avoids known
    refine ⟨given_once read type fit known avoids somePair, fun others same => ?_, ?_⟩
    · have othersAvoid : anchor.Avoids S others := fun pair member => avoids pair ((same pair).mpr member)
      have othersKnown : ∀ pair ∈ others, S.Knows anchor.root pair.field := fun pair member =>
        known pair ((same pair).mpr member)
      have reordered (kind : Conditional) : given kind others = given kind pairs := by
        have states : ∀ state, state ∈ others.map (Pair.holds S record) ↔
            state ∈ pairs.map (Pair.holds S record) := by
          intro state
          simp only [List.mem_map, same]
        calc
          given kind others = .ok (kind.requires (others.map (Pair.holds S record)) && value.isEmpty) :=
            given_known read type fit othersKnown othersAvoid kind
          _ = .ok (kind.requires (pairs.map (Pair.holds S record)) && value.isEmpty) := by
            rw [kind.requires_congr states]
          _ = given kind pairs := (given_known read type fit known avoids kind).symm
      refine ⟨reordered, ?_⟩
      calc
        gated others = given .requiredIf others := (gated_same read required othersAvoid).symm
        _ = given .requiredIf pairs := reordered .requiredIf
        _ = gated pairs := gated_same read required avoids
    · intro front pair back target parts resolved lacks
      exact given_unmatched read type fit known required avoids parts
        (pair_unmatched fit (type ▸ resolved) lacks)
  · intro rules part covers
    obtain ⟨anchored, made⟩ := covers
    rw [rejects_made read (mapM_of_pointwise _ made), FieldPlan.ownReport, List.isEmpty_map]

def parcelId : Fin 1 := ⟨0, Nat.one_pos⟩

def parcels : Schema 1 := fun _ =>
  { name := "Parcel"
    fields := [⟨"mode", .str, "", true⟩, ⟨"note", .optional .str, "", true⟩,
      ⟨"inner", .optional (.record parcelId), "", true⟩]
    checks := [] }

def plainParcel : Instance 1 := ⟨parcelId, [.str "gift", .nil, .nil]⟩

theorem plain_parcel_conditions :
    let anchor : FieldPath 1 := .declared 0 1 ⟨"note", .optional .str, "", true⟩
    let gift : Pair := ⟨"mode", "gift"⟩
    let hidden : Pair := ⟨"inner.mode", ""⟩
    let given (kind : Conditional) (pairs : List Pair) :=
      Rulebook.standard.rejects parcels anchor plainParcel [.clause (.conditional kind pairs)]
    let gated (pairs : List Pair) :=
      Rulebook.standard.rejects parcels anchor plainParcel [.skipUnless pairs, .clause (.leaf "required" none)]
    plainParcel.fits parcels ∧ anchor.read parcels plainParcel = .ok .nil ∧
      given .requiredIf [gift] = .ok true ∧ gated [gift] = .ok true ∧
      given .requiredIf [gift, hidden] = .ok false ∧ gated [gift, hidden] = .ok false ∧
      given .requiredUnless [gift, hidden] = given .requiredUnless [gift] ∧
      ∃ one other, given .requiredIf [hidden] = .ok one ∧ given .requiredUnless [hidden] = .ok other ∧
        (one ^^ other) = true := by
  intro anchor gift hidden given gated
  have fit : plainParcel.fits parcels := by decide
  have read : anchor.read parcels plainParcel = .ok .nil := by cbv
  have required : Rulebook.standard.catalog.build (n := 1) "required" none = .ok Check.required := by cbv
  let mode : FieldPath 1 := ⟨"mode", 0, [⟨"mode", 0, .str⟩]⟩
  let hiddenMode : FieldPath 1 := ⟨"inner.mode", 0, [⟨"inner", 2, .optional (.record 0)⟩, ⟨"mode", 0, .str⟩]⟩
  have found : FieldPath.resolve parcels 0 "mode" = .ok mode := by cbv
  have hiddenFound : FieldPath.resolve parcels 0 "inner.mode" = .ok hiddenMode := by cbv
  have known : ∀ pair ∈ [gift, hidden], parcels.Knows anchor.root pair.field := by
    intro pair member
    rcases List.mem_pair.mp member with rfl | rfl
    · exact ⟨mode, found⟩
    · exact ⟨hiddenMode, hiddenFound⟩
  have avoids : anchor.Avoids parcels [gift, hidden] := by
    intro pair member target resolved
    rcases List.mem_pair.mp member with rfl | rfl
    · cases found.symm.trans resolved
      decide
    · cases hiddenFound.symm.trans resolved
      decide
  have linked : FirstNamed (parcels 0).fields "inner" 2 ⟨"inner", .optional (.record 0), "", true⟩ :=
    (field_iff _ _ _ _).mp (by decide)
  have cut : plainParcel.LacksForm parcels hiddenMode.segments :=
    .cut ⟨⟨"mode", [], rfl⟩, .last linked rfl⟩
  obtain ⟨gate, _, agrees, _⟩ :=
    literal_conditions_agree .standard parcels anchor plainParcel .nil rfl fit read required
  have giftAvoids : anchor.Avoids parcels [gift] := fun pair member =>
    avoids pair (List.mem_cons.mpr (.inl (List.mem_singleton.mp member)))
  have hiddenAvoids : anchor.Avoids parcels [hidden] := fun pair member =>
    avoids pair (List.mem_cons_of_mem gift member)
  have giftKnown : ∀ pair ∈ [gift], parcels.Knows anchor.root pair.field := fun pair member =>
    known pair (List.mem_cons.mpr (.inl (List.mem_singleton.mp member)))
  have matched : given .requiredIf [gift] = .ok true :=
    (given_known read rfl fit giftKnown giftAvoids .requiredIf).trans (by decide)
  obtain ⟨_, _, unmatched⟩ := agrees [gift, hidden] (List.cons_ne_nil _ _) avoids known
  obtain ⟨silent, skipped, leftOut⟩ := unmatched [gift] hidden [] hiddenMode rfl hiddenFound cut
  obtain ⟨⟨one, other, asked, unasked, _, single⟩, _⟩ := agrees [hidden] (List.cons_ne_nil _ _) hiddenAvoids
    (fun pair member => known pair (List.mem_cons_of_mem gift member))
  exact ⟨fit, read, matched, (gate [gift] giftAvoids).symm.trans matched, silent, skipped, leftOut, one, other,
    asked, unasked, single rfl⟩

end RecordRules
