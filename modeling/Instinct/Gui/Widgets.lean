import Instinct.Gui.Text
import Mathlib.Algebra.Order.Ring.Int

namespace Instinct.Gui

/-- A non-editable `QComboBox`: its item texts and its current index, `-1` for none. An empty
box has no current item and a filled one always has one: the node model only ever selects
items that exist. -/
structure ComboBox where
  items : List (List Char)
  currentIndex : Int
  index_ge : -1 ≤ currentIndex
  index_lt : currentIndex < items.length
  index_nonneg : items ≠ [] → 0 ≤ currentIndex

namespace ComboBox

def empty : ComboBox := ⟨[], -1, le_rfl, by decide, fun h => absurd rfl h⟩

def currentText (c : ComboBox) : List Char :=
  if c.currentIndex < 0 then [] else c.items[c.currentIndex.toNat]?.getD []

def addItem (c : ComboBox) (text : List Char) : ComboBox where
  items := c.items ++ [text]
  currentIndex := if c.items = [] then 0 else c.currentIndex
  index_ge := by have := c.index_ge; split <;> omega
  index_lt := by have := c.index_lt; split <;> simp; omega
  index_nonneg _ := by
    split
    · exact le_rfl
    · next h => exact c.index_nonneg h

def setCurrentIndex (c : ComboBox) (i : Fin c.items.length) : ComboBox :=
  ⟨c.items, i, by omega, Int.ofNat_lt.mpr i.isLt, fun _ => by omega⟩

/-- `setCurrentText(text)` on a non-editable box: the first item with that text becomes
current; a text that is no item changes nothing. -/
def setCurrentText (c : ComboBox) (text : List Char) : ComboBox :=
  if h : c.items.findIdx (· == text) < c.items.length then c.setCurrentIndex ⟨_, h⟩ else c

@[simp] theorem addItem_items (c : ComboBox) (text : List Char) :
    (c.addItem text).items = c.items ++ [text] := rfl

@[simp] theorem setCurrentIndex_items (c : ComboBox) (i : Fin c.items.length) :
    (c.setCurrentIndex i).items = c.items := rfl

@[simp] theorem setCurrentText_items (c : ComboBox) (text : List Char) :
    (c.setCurrentText text).items = c.items := by
  unfold setCurrentText
  split <;> rfl

theorem currentText_mem {c : ComboBox} (h : c.items ≠ []) : c.currentText ∈ c.items := by
  have h0 := c.index_nonneg h
  have hlt := c.index_lt
  rw [currentText, if_neg (by omega), List.getElem?_eq_getElem (by omega), Option.getD_some]
  exact List.getElem_mem _

theorem currentText_setCurrentText {c : ComboBox} {text : List Char} (h : text ∈ c.items) :
    (c.setCurrentText text).currentText = text := by
  have hlt : c.items.findIdx (· == text) < c.items.length :=
    List.findIdx_lt_length_of_exists ⟨text, h, beq_self_eq_true text⟩
  rw [setCurrentText, dif_pos hlt, currentText, if_neg (by simp only [setCurrentIndex]; omega)]
  simp only [setCurrentIndex, Int.toNat_natCast, List.getElem?_eq_getElem hlt, Option.getD_some]
  exact beq_iff_eq.mp (List.findIdx_getElem (w := hlt))

theorem currentText_setCurrentIndex (c : ComboBox) (i : Fin c.items.length) :
    (c.setCurrentIndex i).currentText = c.items.get i := by
  simp only [currentText, setCurrentIndex, if_neg (by omega : ¬((i : Nat) : Int) < 0),
    Int.toNat_natCast, List.getElem?_eq_getElem i.isLt, Option.getD_some, List.get_eq_getElem]

theorem currentText_addItem (c : ComboBox) (text : List Char) :
    (c.addItem text).currentText = if c.items = [] then text else c.currentText := by
  have hge := c.index_nonneg
  have hlt := c.index_lt
  by_cases h : c.items = []
  · simp [currentText, addItem, h]
  · have h0 := hge h
    simp only [currentText, addItem, if_neg h, addItem_items]
    rw [if_neg (by omega), if_neg (by omega), List.getElem?_append_left (by omega)]

theorem currentText_of_items_nil {c : ComboBox} (h : c.items = []) : c.currentText = [] := by
  have := c.index_lt
  rw [currentText, if_pos (by simp [h] at this; omega)]

theorem exists_item_of_mem_currentText {c : ComboBox} {ch : Char} (h : ch ∈ c.currentText) :
    ∃ item ∈ c.items, ch ∈ item := by
  by_cases hc : c.items = []
  · rw [currentText_of_items_nil hc] at h
    exact absurd h (List.not_mem_nil _)
  · exact ⟨_, currentText_mem hc, h⟩

theorem currentText_setCurrentText_of_items {c d : ComboBox} (hitems : c.items = d.items) :
    (c.setCurrentText d.currentText).currentText = d.currentText := by
  by_cases h : d.items = []
  · have hc : c.items = [] := hitems.trans h
    rw [currentText_of_items_nil h, setCurrentText, dif_neg (by simp [hc]),
      currentText_of_items_nil hc]
  · exact currentText_setCurrentText (hitems ▸ currentText_mem h)

end ComboBox

/-- A `QSpinBox`: its range and its value, which Qt keeps within the range. The bounds are
`int`s. -/
structure SpinBox where
  minimum : Int
  maximum : Int
  value : Int
  min_le_value : minimum ≤ value
  value_le_max : value ≤ maximum
  minimum_ge : -2147483648 ≤ minimum
  maximum_le : maximum ≤ 2147483647

namespace SpinBox

def default : SpinBox := ⟨0, 99, 0, le_rfl, by decide, by decide, by decide⟩

def bound (s : SpinBox) (v : Int) : Int := max s.minimum (min v s.maximum)

/-- `setMinimum(m)`: the maximum is raised to `m` if below it, and the value brought into the
new range. -/
def setMinimum (s : SpinBox) (m : CInt) : SpinBox where
  minimum := m.val
  maximum := max s.maximum m.val
  value := max m.val (min s.value (max s.maximum m.val))
  min_le_value := le_max_left _ _
  value_le_max := max_le (le_max_right _ _) (min_le_right _ _)
  minimum_ge := m.ge_min
  maximum_le := max_le s.maximum_le m.le_max

/-- `setMaximum(m)`: the minimum is lowered to `m` if above it, and the value brought into the
new range. -/
def setMaximum (s : SpinBox) (m : CInt) : SpinBox where
  minimum := min s.minimum m.val
  maximum := m.val
  value := max (min s.minimum m.val) (min s.value m.val)
  min_le_value := le_max_left _ _
  value_le_max := max_le (min_le_right _ _) (min_le_right _ _)
  minimum_ge := le_min s.minimum_ge m.ge_min
  maximum_le := m.le_max

def setValue (s : SpinBox) (v : Int) : SpinBox where
  minimum := s.minimum
  maximum := s.maximum
  value := s.bound v
  min_le_value := le_max_left _ _
  value_le_max := max_le (s.min_le_value.trans s.value_le_max) (min_le_right _ _)
  minimum_ge := s.minimum_ge
  maximum_le := s.maximum_le

@[simp] theorem setValue_minimum (s : SpinBox) (v : Int) : (s.setValue v).minimum = s.minimum :=
  rfl

@[simp] theorem setValue_maximum (s : SpinBox) (v : Int) : (s.setValue v).maximum = s.maximum :=
  rfl

@[simp] theorem setValue_value (s : SpinBox) (v : Int) : (s.setValue v).value = s.bound v := rfl

theorem bound_of_le {s : SpinBox} {v : Int} (hmin : s.minimum ≤ v) (hmax : v ≤ s.maximum) :
    s.bound v = v := by
  simp only [bound]
  omega

def valueInt (s : SpinBox) : CInt :=
  ⟨s.value, s.minimum_ge.trans s.min_le_value, s.value_le_max.trans s.maximum_le⟩

end SpinBox

end Instinct.Gui
