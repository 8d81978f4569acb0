import RecordRules.Check.Catalog

set_option autoImplicit false

namespace RecordRules

variable {n : Nat}

-- To a blind check two records of one type are alike.
def Check.Blind (check : Check n) : Prop :=
  ∀ type fields others, check (.record type fields) = check (.record type others)

def CheckFactory.Blind (factory : CheckFactory n) : Prop :=
  ∀ param check, factory param = .ok check → Check.Blind check

def Catalog.Blind (catalog : Catalog n) : Prop :=
  ∀ name factory, catalog.find? name = some factory → factory.Blind

theorem built_blind (catalog : Catalog n) (blind : catalog.Blind) (name : String) (param : Option String)
    (check : Check n) (built : catalog.build name param = .ok check) : check.Blind := by
  rw [Catalog.build] at built
  cases found : catalog.find? name with
  | none =>
      rw [found] at built
      cases built
  | some factory =>
      rw [found] at built
      exact blind name factory found param check built

theorem fixed_blind (name : String) (check : Check n) (blind : check.Blind) :
    CheckFactory.Blind (Check.fixed name check) := by
  intro param made built
  cases param with
  | none => exact Except.ok.inj built ▸ blind
  | some text => cases built

theorem with_param_blind (name : String) (build : String → Except RuleError (Check n))
    (blind : ∀ param check, build param = .ok check → check.Blind) :
    CheckFactory.Blind (Check.withParam name build) := by
  intro param made built
  cases param with
  | none => cases built
  | some text =>
      rw [Check.withParam] at built
      split at built
      · cases built
      · exact blind text made built

namespace Catalog

theorem taking_blind (name : String) (build : String → Check n) (blind : ∀ param, (build param).Blind) :
    (taking name build).2.Blind :=
  with_param_blind name _ fun param _ built => Except.ok.inj built ▸ blind param

theorem bound_blind (name : String) (op : Comparison) : (bound name op : String × CheckFactory n).2.Blind := by
  refine with_param_blind name _ fun param check built => ?_
  cases read : Bound.read name op param with
  | error error =>
      rw [read] at built
      cases built
  | ok limit =>
      rw [read] at built
      exact Except.ok.inj built ▸ fun _ _ _ => rfl

theorem regexp_blind : CheckFactory.Blind (Check.withParam "regexp" (regexp (n := n))) := by
  refine with_param_blind _ _ fun param check built => ?_
  rw [regexp] at built
  split at built
  · exact Except.ok.inj built ▸ fun _ _ _ => rfl
  · cases built

theorem builtins_blind : ∀ entry ∈ (builtins : List (String × CheckFactory n)), entry.2.Blind := by
  simp only [builtins, format, List.forall_mem_cons, bound_blind, true_and]
  and_intros
  all_goals
    first
    | exact fixed_blind _ _ fun _ _ _ => rfl
    | exact taking_blind _ _ fun _ _ _ _ => rfl
    | exact regexp_blind
    | exact nofun

theorem insert_blind (catalog : Catalog n) (blind : catalog.Blind) (name : String) (factory : CheckFactory n)
    (factoryBlind : factory.Blind) : Catalog.Blind (catalog.insert name factory) := by
  intro other foundFactory found
  rw [Dictionary.find_insert] at found
  split at found
  · exact Option.some.inj found ▸ factoryBlind
  · exact blind other foundFactory found

theorem insert_all_blind (entries : List (String × CheckFactory n)) (all : ∀ entry ∈ entries, entry.2.Blind)
    (catalog : Catalog n) (blind : catalog.Blind) : Catalog.Blind (catalog.insertAll entries) := by
  induction entries generalizing catalog with
  | nil => exact blind
  | cons entry rest ih =>
      exact ih (fun other member => all other (List.mem_cons_of_mem _ member)) _
        (insert_blind catalog blind entry.1 entry.2 (all entry List.mem_cons_self))

theorem standard_blind : (standard : Catalog n).Blind :=
  insert_all_blind builtins builtins_blind .empty fun name factory found => by
    rw [Dictionary.find_empty] at found
    cases found

end Catalog

end RecordRules
