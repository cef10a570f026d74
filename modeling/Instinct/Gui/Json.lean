import Instinct.Gui.Fields

namespace Instinct.Gui

/-- A `QJsonValue`. A number is a double, an `int` being stored as the double of its value; the
node model never looks inside an array or an object. -/
inductive JsonValue where
  | null
  | bool (b : Bool)
  | double (q : ℚ)
  | string (s : List Char)
  | array
  | object

namespace JsonValue

def toBool : JsonValue → Bool
  | bool b => b
  | _ => false

/-- `toInt()`: a double that is an `int`, or `0`. -/
def toInt : JsonValue → Int
  | double q => if q.den = 1 ∧ -2147483648 ≤ q.num ∧ q.num ≤ 2147483647 then q.num else 0
  | _ => 0

def toDouble : JsonValue → ℚ
  | double q => q
  | _ => 0

def toString : JsonValue → List Char
  | string s => s
  | _ => []

theorem toInt_double (v : CInt) : (double v.val).toInt = v.val := by
  simp only [toInt, Rat.intCast_den, Rat.intCast_num, true_and, v.ge_min, v.le_max, and_self,
    if_true]

end JsonValue

/-- A `QJsonObject`: its members, each key at most once once written by `insert`. -/
abbrev JsonObject := List (List Char × JsonValue)

namespace JsonObject

def value (key : List Char) : JsonObject → Option JsonValue
  | [] => none
  | (k, v) :: rest => if key = k then some v else value key rest

def insert (key : List Char) (v : JsonValue) : JsonObject → JsonObject
  | [] => [(key, v)]
  | (k, w) :: rest => if key = k then (key, v) :: rest else (k, w) :: insert key v rest

theorem value_insert (key k : List Char) (v : JsonValue) (o : JsonObject) :
    (o.insert k v).value key = if key = k then some v else o.value key := by
  induction o with
  | nil => rfl
  | cons e rest ih =>
    obtain ⟨k', w⟩ := e
    by_cases hk : k = k'
    · subst hk
      by_cases h : key = k <;> simp [insert, value, h]
    · by_cases h : key = k'
      · subst h
        simp [insert, value, hk, Ne.symm hk]
      · simp only [insert, value, if_neg hk, if_neg h, ih]

end JsonObject

end Instinct.Gui
