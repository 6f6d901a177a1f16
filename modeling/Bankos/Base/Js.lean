import Mathlib.Algebra.Ring.Int.Defs
import Mathlib.Algebra.Ring.Nat
import Mathlib.Tactic.Common

/-!
# Dynamic values

The values a decoded JSON document may hold, as far as code that tests, compares and prints
them can tell. The items of an array are strings or are known by their string conversion, and
so are objects. `Conversions` stands for the number syntax of the language, which no result
depends on.
-/

namespace Js

/-- An item of an array: a string, or anything else with its text in a join. -/
inductive Item where
  | str (s : String)
  | other (text : String)
  deriving DecidableEq, Repr

/-- The text of an item in a join. -/
def Item.text : Item → String
  | str s => s
  | other text => text

/-- A value of unknown type. -/
inductive Value where
  | undefined
  | null
  | bool (b : Bool)
  | num (q : Rat)
  | str (s : String)
  | array (xs : List Item)
  | object (text : String)
  deriving DecidableEq, Repr

/-- `Number(text)`, with `none` for NaN, and `String(number)`. -/
structure Conversions where
  numberOfString : String → Option Rat
  stringOfNumber : Rat → String

namespace Value

/-- Whether a condition on the value holds. -/
def truthy : Value → Bool
  | undefined => false
  | null => false
  | bool b => b
  | num q => decide (q ≠ 0)
  | str s => decide (s ≠ "")
  | array _ => true
  | object _ => true

/-- Conversion to a number, as by an arithmetic operator; `none` is NaN. -/
def toNumber (c : Conversions) : Value → Option Rat
  | undefined => none
  | null => some 0
  | bool b => some (if b then 1 else 0)
  | num q => some q
  | str s => c.numberOfString s
  | array xs => c.numberOfString (",".intercalate (xs.map Item.text))
  | object text => c.numberOfString text

/-- Conversion to a string, as by a template. -/
def toText (c : Conversions) : Value → String
  | undefined => "undefined"
  | null => "null"
  | bool b => if b then "true" else "false"
  | num q => c.stringOfNumber q
  | str s => s
  | array xs => ",".intercalate (xs.map Item.text)
  | object text => text

/-- The array of the given strings. -/
def strings (xs : List String) : Value := array (xs.map Item.str)

/-- An array of strings shows them. -/
theorem strings_injective {xs ys : List String} (h : strings xs = strings ys) : xs = ys := by
  have hitems : xs.map Item.str = ys.map Item.str := by simpa [strings] using h
  exact (List.map_inj_right fun _ _ hxy ↦ Item.str.inj hxy).mp hitems

end Value
end Js
