/-
TreeTemplate.Value.Basic — the data that templates are filled from (the
contexts of specification §3).

A value is null, a truth value, a whole number of any size, a
floating-point number, a text, a list, or a dictionary whose entries keep
their order.

* `Value` — the type, with decidable equality.
* `Found` — what a path finds in a value: a value, or nothing. A null that is
  there and nothing at all (`UNDEFINED`) are two findings, both called
  missing.
* `Value.isTruthy` (`is_truthy`, §4.1) — which values count as true: all but
  false, zero, not a number, the empty text and null. Empty lists and
  dictionaries do.
-/
import TreeTemplate.Number.Double
import TreeTemplate.Table

namespace TreeTemplate

/-- A data value. -/
inductive Value where
  | null
  | bool (b : Bool)
  | int (n : Int)
  | float (x : Double)
  | str (t : Text)
  | list (items : List Value)
  | dict (entries : List (Text × Value))
deriving Inhabited

namespace Value

/-! ## 1. Equality -/

mutual

/-- Decides whether two values are the same. -/
def decEq : (v w : Value) → Decidable (v = w)
  | .null, w => by cases w <;> first | exact isTrue rfl | exact isFalse nofun
  | .bool a, w => by
    cases w with
    | bool b => exact decidable_of_iff (a = b) (by simp)
    | _ => exact isFalse nofun
  | .int a, w => by
    cases w with
    | int b => exact decidable_of_iff (a = b) (by simp)
    | _ => exact isFalse nofun
  | .float a, w => by
    cases w with
    | float b => exact decidable_of_iff (a = b) (by simp)
    | _ => exact isFalse nofun
  | .str a, w => by
    cases w with
    | str b => exact decidable_of_iff (a = b) (by simp)
    | _ => exact isFalse nofun
  | .list vs, w => by
    cases w with
    | list ws => exact @decidable_of_iff _ (vs = ws) (by simp) (decEqItems vs ws)
    | _ => exact isFalse nofun
  | .dict vs, w => by
    cases w with
    | dict ws => exact @decidable_of_iff _ (vs = ws) (by simp) (decEqEntries vs ws)
    | _ => exact isFalse nofun

/-- Decides whether two lists of values are the same. -/
def decEqItems : (vs ws : List Value) → Decidable (vs = ws)
  | [], [] => isTrue rfl
  | [], _ :: _ => isFalse nofun
  | _ :: _, [] => isFalse nofun
  | v :: vs, w :: ws =>
    match decEq v w, decEqItems vs ws with
    | isTrue h, isTrue hs => isTrue (by rw [h, hs])
    | isFalse h, _ => isFalse (fun e => h (List.cons.inj e).1)
    | _, isFalse hs => isFalse (fun e => hs (List.cons.inj e).2)

/-- Decides whether two lists of entries are the same. -/
def decEqEntries : (vs ws : List (Text × Value)) → Decidable (vs = ws)
  | [], [] => isTrue rfl
  | [], _ :: _ => isFalse nofun
  | _ :: _, [] => isFalse nofun
  | (k, v) :: vs, (l, w) :: ws =>
    match decEq v w, decEqEntries vs ws with
    | isTrue h, isTrue hs =>
      if hk : k = l then isTrue (by rw [h, hs, hk])
      else isFalse (fun e => hk (Prod.mk.inj (List.cons.inj e).1).1)
    | isFalse h, _ => isFalse (fun e => h (Prod.mk.inj (List.cons.inj e).1).2)
    | _, isFalse hs => isFalse (fun e => hs (List.cons.inj e).2)

end

instance : DecidableEq Value := decEq

/-! ## 2. Truth -/

/-- Whether a value counts as true. -/
def isTruthy : Value → Bool
  | .null => false
  | .bool b => b
  | .int n => n != 0
  | .float x => !x.isZero && !x.isNaN
  | .str t => !t.isEmpty
  | .list _ => true
  | .dict _ => true

end Value

/-- What a path finds: a value, or nothing. -/
abbrev Found := Option Value

namespace Found

/-- Whether nothing was found, or null. -/
def isMissing : Found → Bool
  | none => true
  | some .null => true
  | some _ => false

/-- Whether the finding counts as true. -/
def isTruthy : Found → Bool
  | none => false
  | some v => v.isTruthy

/-- The kind of a finding, in a word. -/
def kind : Found → Text
  | none => "undefined"
  | some .null => "null"
  | some (.bool _) => "bool"
  | some (.int _) => "int"
  | some (.float _) => "float"
  | some (.str _) => "str"
  | some (.list _) => "list"
  | some (.dict _) => "dict"

end Found

end TreeTemplate
