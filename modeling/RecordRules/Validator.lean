import RecordRules.Plan.Verdict
import RecordRules.Rulebook.Build
import RecordRules.Text.Dump

set_option autoImplicit false

namespace RecordRules

-- Plans are made when a record type is first asked for, together with those of all types nested in it,
-- and are kept from then on.
structure Validator (n : Nat) where
  book : Rulebook n
  shelf : Shelf n

namespace Validator

variable {n : Nat}

def ofRulebook (book : Rulebook n) : Validator n := ⟨book, .empty⟩

-- A failure takes back what the call has put on the shelf.
def compile (validator : Validator n) (S : Schema n) (id : Fin n) :
    Except CompileError (Plan n Slot) × Validator n :=
  match validator.shelf.plan? id with
  | some plan => (.ok plan, validator)
  | none =>
      let made := validator.book.build S ⟨validator.shelf, []⟩ id
      match made.result with
      | .ok plan => (.ok plan, { validator with shelf := made.later.shelf })
      | .error error =>
          let shelf := made.later.shelf.withdraw made.later.entered validator.shelf.nextSlot
          (.error error, { validator with shelf })

def report (validator : Validator n) (S : Schema n) (plan : Plan n Slot) (record : Instance n) :
    Report :=
  plan.report S validator.shelf.inSlot? record

def dump (validator : Validator n) : Dump :=
  .struct "Validator"
    [("config",
      .struct "ValidatorConfig"
        [("aliases", .map (validator.book.settings.aliases.entries.map fun (name, body) =>
            (name, .text body))),
          ("recurse_nested", .bool validator.book.settings.recurseNested)] true),
      ("registry", validator.book.catalog.dump), ("cached_plans", .nat validator.shelf.size)] true

end Validator

end RecordRules
