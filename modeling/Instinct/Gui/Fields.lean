import Instinct.Gui.Widgets
import Mathlib.Data.Rat.Floor

namespace Instinct.Gui

/-- A `QLineEdit`: its text, which Qt keeps within `maxLength`, `32767` by default. Qt counts
UTF-16 code units where the model counts characters; the two agree below `U+10000`. -/
structure LineEdit where
  text : List Char
  length_le : text.length ≤ 32767

namespace LineEdit

def setText (_ : LineEdit) (text : List Char) : LineEdit :=
  ⟨text.take 32767, (List.length_take_le _ _)⟩

def empty : LineEdit := ⟨[], Nat.zero_le _⟩

theorem setText_of_text (e f : LineEdit) : (e.setText f.text).text = f.text :=
  List.take_of_length_le f.length_le

end LineEdit

/-- The rounding `QDoubleSpinBox` applies to its bounds and values, to `decimals` places, two by
default: `QString::number(value, 'f', 2).toDouble()`, the nearest hundredth with halves away from
zero. -/
def roundHundredths (q : ℚ) : ℚ :=
  let x := q * 100
  ((if x < 0 then -⌊-x + 1 / 2⌋ else ⌊x + 1 / 2⌋ : ℤ) : ℚ) / 100

theorem roundHundredths_intCast_div (k : ℤ) : roundHundredths (k / 100) = k / 100 := by
  have hx : (k : ℚ) / 100 * 100 = k := by ring
  have hneg : ⌊-(k : ℚ) + 1 / 2⌋ = -k := by
    rw [← Int.cast_neg, Int.floor_int_add, Int.floor_eq_zero_iff.mpr (by norm_num), add_zero]
  have hpos : ⌊(k : ℚ) + 1 / 2⌋ = k := by
    rw [Int.floor_int_add, Int.floor_eq_zero_iff.mpr (by norm_num), add_zero]
  simp only [roundHundredths, hx, hneg, hpos, neg_neg, ite_self]

@[simp] theorem roundHundredths_idem (q : ℚ) :
    roundHundredths (roundHundredths q) = roundHundredths q :=
  roundHundredths_intCast_div _

theorem roundHundredths_zero : roundHundredths 0 = 0 := by
  have h := roundHundredths_intCast_div 0
  rwa [Int.cast_zero, zero_div] at h

/-- A `QDoubleSpinBox` with two decimals: its range and its value, all of them rounded, with the
value in the range. A C++ `double` is the rational number it stands for: the rounding of a decimal
to the nearest double is not modelled. -/
structure DoubleSpinBox where
  minimum : ℚ
  maximum : ℚ
  value : ℚ
  min_le_value : minimum ≤ value
  value_le_max : value ≤ maximum
  minimum_rounded : roundHundredths minimum = minimum
  maximum_rounded : roundHundredths maximum = maximum
  value_rounded : roundHundredths value = value

namespace DoubleSpinBox

def default : DoubleSpinBox where
  minimum := 0
  maximum := 9999 / 100
  value := 0
  min_le_value := le_rfl
  value_le_max := by norm_num
  minimum_rounded := roundHundredths_zero
  maximum_rounded := by
    have h := roundHundredths_intCast_div 9999
    rwa [Int.cast_ofNat] at h
  value_rounded := roundHundredths_zero

def bound (d : DoubleSpinBox) (v : ℚ) : ℚ := max d.minimum (min (roundHundredths v) d.maximum)

theorem roundHundredths_max_min {a b c : ℚ} (ha : roundHundredths a = a)
    (hb : roundHundredths b = b) (hc : roundHundredths c = c) :
    roundHundredths (max a (min b c)) = max a (min b c) := by
  rcases max_choice a (min b c) with h | h <;> rw [h]
  · exact ha
  · rcases min_choice b c with h' | h' <;> rw [h'] <;> assumption

def setMinimum (d : DoubleSpinBox) (m : ℚ) : DoubleSpinBox where
  minimum := roundHundredths m
  maximum := max d.maximum (roundHundredths m)
  value := max (roundHundredths m) (min d.value (max d.maximum (roundHundredths m)))
  min_le_value := le_max_left _ _
  value_le_max := max_le (le_max_right _ _) (min_le_right _ _)
  minimum_rounded := roundHundredths_idem m
  maximum_rounded := by
    rcases max_choice d.maximum (roundHundredths m) with h | h <;> rw [h]
    · exact d.maximum_rounded
    · exact roundHundredths_idem m
  value_rounded := by
    refine roundHundredths_max_min (roundHundredths_idem m) d.value_rounded ?_
    rcases max_choice d.maximum (roundHundredths m) with h | h <;> rw [h]
    · exact d.maximum_rounded
    · exact roundHundredths_idem m

def setMaximum (d : DoubleSpinBox) (m : ℚ) : DoubleSpinBox where
  minimum := min d.minimum (roundHundredths m)
  maximum := roundHundredths m
  value := max (min d.minimum (roundHundredths m)) (min d.value (roundHundredths m))
  min_le_value := le_max_left _ _
  value_le_max := max_le (min_le_right _ _) (min_le_right _ _)
  minimum_rounded := by
    rcases min_choice d.minimum (roundHundredths m) with h | h <;> rw [h]
    · exact d.minimum_rounded
    · exact roundHundredths_idem m
  maximum_rounded := roundHundredths_idem m
  value_rounded := by
    refine roundHundredths_max_min ?_ d.value_rounded (roundHundredths_idem m)
    rcases min_choice d.minimum (roundHundredths m) with h | h <;> rw [h]
    · exact d.minimum_rounded
    · exact roundHundredths_idem m

def setValue (d : DoubleSpinBox) (v : ℚ) : DoubleSpinBox where
  minimum := d.minimum
  maximum := d.maximum
  value := d.bound v
  min_le_value := le_max_left _ _
  value_le_max := max_le (d.min_le_value.trans d.value_le_max) (min_le_right _ _)
  minimum_rounded := d.minimum_rounded
  maximum_rounded := d.maximum_rounded
  value_rounded := roundHundredths_max_min d.minimum_rounded (roundHundredths_idem v)
    d.maximum_rounded

@[simp] theorem setValue_minimum (d : DoubleSpinBox) (v : ℚ) :
    (d.setValue v).minimum = d.minimum := rfl

@[simp] theorem setValue_maximum (d : DoubleSpinBox) (v : ℚ) :
    (d.setValue v).maximum = d.maximum := rfl

@[simp] theorem setValue_value (d : DoubleSpinBox) (v : ℚ) : (d.setValue v).value = d.bound v :=
  rfl

theorem bound_of_value {d e : DoubleSpinBox} (hmin : d.minimum = e.minimum)
    (hmax : d.maximum = e.maximum) : d.bound e.value = e.value := by
  have h₁ := e.min_le_value
  have h₂ := e.value_le_max
  rw [bound, e.value_rounded, hmin, hmax, min_eq_left h₂, max_eq_right h₁]

end DoubleSpinBox

def readExponent : List Char → Int
  | c :: t =>
    if c = 'e' ∨ c = 'E' then
      let (neg, rest) := readSign t
      let ds := rest.takeWhile isDigit
      if ds = [] then 0 else if neg then -(digitsValue ds : Int) else digitsValue ds
    else 0
  | [] => 0

/-- `std::stod(s)`, as `std::strtod` reads a decimal number: blanks, an optional sign, digits with
an optional point, and an optional exponent; without a digit it is `invalid_argument`. The
hexadecimal, infinity and NaN forms are not modelled, nor the range of a double. -/
def stod (s : List Char) : Except StdException ℚ :=
  let (neg, rest) := readSign (s.dropWhile isSpace)
  let intDs := rest.takeWhile isDigit
  let (fracDs, rest) := match rest.dropWhile isDigit with
    | '.' :: t => (t.takeWhile isDigit, t.dropWhile isDigit)
    | rest => ([], rest)
  if intDs = [] ∧ fracDs = [] then .error .invalidArgument
  else
    let e := readExponent rest - fracDs.length
    let m : ℚ := digitsValue (intDs ++ fracDs)
    let q := if 0 ≤ e then m * 10 ^ e.toNat else m / 10 ^ (-e).toNat
    .ok (if neg then -q else q)

end Instinct.Gui
