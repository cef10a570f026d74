import Instinct.Gui.Widgets

namespace Instinct.Gui

inductive Cell where
  | combo (c : ComboBox)
  | spin (s : SpinBox)

/-- What goes wrong in a handler: an exception leaves it, or `itemAtPosition(row, column)` has no
widget of the kind the handler casts it to. -/
inductive Failure where
  | thrown (e : StdException)
  | noWidget (row column : Nat)
  deriving DecidableEq, Repr

def addCell (comboBox : ComboBox) (cell : List Char) : Except StdException ComboBox := do
  if (← charAt cell 0) = '[' then
    let comboBox := comboBox.addItem (← substr cell 1 (sizeSub cell.length 2))
    pure (comboBox.setCurrentIndex ⟨comboBox.items.length - 1, by simp [comboBox]⟩)
  else pure (comboBox.addItem cell)

def comboFromLine (line : List Char) : Except StdException ComboBox :=
  (getlines '|' line).foldlM addCell ComboBox.empty

/-- The spin box `addListListIntRow` builds from the third line: three reads of the stream set
the minimum, the value and the maximum, in that order. -/
def spinFromLine (line : List Char) : Except StdException SpinBox := do
  let (stream, cell) := getline '|' ⟨line, true⟩ []
  let spinBox := SpinBox.default.setMinimum (← stoi cell)
  let (stream, cell) := getline '|' stream cell
  let spinBox := spinBox.setValue (← stoi cell).val
  let (_, cell) := getline '|' stream cell
  pure (spinBox.setMaximum (← stoi cell))

def rowWidgets : List (List Char) → Except StdException (List Cell)
  | [] => pure []
  | [x] => return [.combo (← comboFromLine x)]
  | [x, y] => return [.combo (← comboFromLine x), .combo (← comboFromLine y)]
  | x :: y :: w :: _ =>
    return [.combo (← comboFromLine x), .combo (← comboFromLine y), .spin (← spinFromLine w)]

/-- The grid: the configuration the row handlers capture, and the data rows; `rows[j - 1]`
holds the widgets of layout row `j`, row `0` being the header. -/
structure Grid where
  config : List (List Char)
  rows : List (List Cell)

namespace Grid

def rowCount (g : Grid) : Nat := g.rows.length + 1

def cellAt (g : Grid) : Nat → Nat → Option Cell
  | 0, _ => none
  | row + 1, column => g.rows[row]?.bind (·[column]?)

def comboAt (g : Grid) (row column : Nat) : Except Failure ComboBox :=
  match g.cellAt row column with
  | some (.combo c) => .ok c
  | _ => .error (.noWidget row column)

def spinAt (g : Grid) (row column : Nat) : Except Failure SpinBox :=
  match g.cellAt row column with
  | some (.spin s) => .ok s
  | _ => .error (.noWidget row column)

def setCellAt (g : Grid) (row column : Nat) (cell : Cell) : Grid :=
  { g with rows := g.rows.modify (·.set column cell) (row - 1) }

/-- `addListListIntRow(config, layout->rowCount(), ...)`: a row of new widgets after the last;
a configuration without lines adds no widget and so no row. -/
def addListListIntRow (g : Grid) : Except StdException Grid := do
  let widgets ← rowWidgets g.config
  pure { g with rows := if widgets.isEmpty then g.rows else g.rows ++ [widgets] }

def create (config : List (List Char)) : Except StdException Grid :=
  addListListIntRow ⟨config, []⟩

/-- `setValue(v)` on the window of `row`. Qt emits `valueChanged` only if the value changes;
the handler appends a row when the new value is not `-1` and the box is in the last row. -/
def setWindow (g : Grid) (row : Nat) (v : Int) : Except Failure Grid := do
  let spinBox ← g.spinAt row 2
  let g' := g.setCellAt row 2 (.spin (spinBox.setValue v))
  if (spinBox.setValue v).value ≠ spinBox.value ∧ (spinBox.setValue v).value ≠ -1 ∧
      row = g'.rowCount - 1 then
    g'.addListListIntRow.mapError .thrown
  else pure g'

def selectItem (g : Grid) (row column i : Nat) : Except Failure Grid := do
  let comboBox ← g.comboAt row column
  if h : i < comboBox.items.length then
    pure (g.setCellAt row column (.combo (comboBox.setCurrentIndex ⟨i, h⟩)))
  else pure g

/-- One cell of a saved line in `restore`: the first two select the sources by text, the third
sets the window; the widget is looked up before `std::stoi` reads the cell. -/
def restoreCell (row : Nat) (g : Grid) : Nat × List Char → Except Failure Grid
  | (k, cell) =>
    if k ≤ 1 then do
      let comboBox ← g.comboAt row k
      pure (g.setCellAt row k (.combo (comboBox.setCurrentText cell)))
    else if k = 2 then do
      let _ ← g.spinAt row 2
      let v ← (stoi cell).mapError .thrown
      g.setWindow row v.val
    else pure g

def restoreLine (g : Grid) : Nat × List Char → Except Failure Grid
  | (i, line) => (getlines '|' line).enum.foldlM (restoreCell (i + 1)) g

def restore (g : Grid) (json : List Char) : Except Failure Grid :=
  (getlines ';' json).enum.foldlM restoreLine g

def saveRow (g : Grid) (json : List Char) (row : Nat) : Except Failure (List Char) := do
  let xlist ← g.comboAt row 0
  let ylist ← g.comboAt row 1
  let spinBox ← g.spinAt row 2
  if spinBox.value ≠ -1 then
    let json := if json ≠ [] then json ++ [';'] else json
    pure (json ++ xlist.currentText ++ ['|'] ++ ylist.currentText ++ ['|'] ++
      toStringInt spinBox.value)
  else pure json

def save (g : Grid) : Except Failure (List Char) :=
  (List.range' 1 (g.rowCount - 1)).foldlM g.saveRow []

end Grid

end Instinct.Gui
