import Instinct.Gui.Json
import Instinct.Gui.SaveRestore

namespace Instinct.Gui

/-- `NAV::Node::ConfigOptions`, the option kinds the panel has a branch for; `other` stands for
any kind it has none for. -/
inductive ConfigOptions where
  | configBool
  | configInt
  | configFloat
  | configString
  | configList
  | configListListInt
  | configMapInt
  | other
  deriving DecidableEq, Repr

structure GuiConfig where
  type : ConfigOptions
  description : List Char
  defaults : List (List Char)

inductive Control where
  | checkBox (checked : Bool)
  | spinBox (s : SpinBox)
  | doubleSpinBox (d : DoubleSpinBox)
  | lineEdit (e : LineEdit)
  | comboBox (c : ComboBox)
  | gridGroupBox (g : Grid)
  | mapSpinBox (s : SpinBox)

/-- A widget of the panel with its `objectName`. Its `type` property is the kind of the option
that built it, which fixes the class `save` and `restore` cast it to, unless an option of a kind
without a branch has overwritten it: `typed` is then false and neither has a branch for it. -/
structure Widget where
  objectName : List Char
  control : Control
  typed : Bool

structure NodeModel where
  widgets : List Widget

/-- What goes wrong in the constructor: an exception leaves it, or `front()` is called on an
option without defaults, which is undefined. -/
inductive ConstructorFailure where
  | thrown (e : StdException)
  | frontOfEmpty
  deriving DecidableEq, Repr

def vectorAt (defaults : List (List Char)) (pos : Nat) : Except StdException (List Char) :=
  match defaults[pos]? with
  | some cell => .ok cell
  | none => .error .outOfRange

def front : List (List Char) → Except ConstructorFailure (List Char)
  | cell :: _ => .ok cell
  | [] => .error .frontOfEmpty

def spinBoxFromDefaults (defaults : List (List Char)) (first : Nat) :
    Except StdException SpinBox := do
  let spinBox := SpinBox.default.setMinimum (← stoi (← vectorAt defaults first))
  let defaultValue ← stoi (← vectorAt defaults (first + 1))
  pure ((spinBox.setMaximum (← stoi (← vectorAt defaults (first + 2)))).setValue defaultValue.val)

def doubleSpinBoxFromDefaults (defaults : List (List Char)) :
    Except StdException DoubleSpinBox := do
  let box := DoubleSpinBox.default.setMinimum (← stod (← vectorAt defaults 0))
  let defaultValue ← stod (← vectorAt defaults 1)
  pure ((box.setMaximum (← stod (← vectorAt defaults 2))).setValue defaultValue)

def newControl (defaults : List (List Char)) : ConfigOptions →
    Except ConstructorFailure (Option Control)
  | .configBool => do
    let v ← (stoi (← front defaults)).mapError .thrown
    pure (some (.checkBox (v.val != 0)))
  | .configInt => return some (.spinBox (← (spinBoxFromDefaults defaults 0).mapError .thrown))
  | .configFloat =>
    return some (.doubleSpinBox (← (doubleSpinBoxFromDefaults defaults).mapError .thrown))
  | .configString => return some (.lineEdit (LineEdit.empty.setText (← front defaults)))
  | .configList =>
    return some (.comboBox (← (defaults.foldlM addCell ComboBox.empty).mapError .thrown))
  | .configListListInt => return some (.gridGroupBox (← (Grid.create defaults).mapError .thrown))
  | .configMapInt => do
    let _key ← (vectorAt defaults 0).mapError .thrown
    return some (.mapSpinBox (← (spinBoxFromDefaults defaults 1).mapError .thrown))
  | .other => pure none

/-- One option of the constructor's loop: its widget is added and named after the option. An
option of a kind without a branch adds none, and `widgets.at(widgets.size() - 1)` gives its name
and type to the last widget, or throws when there is none. -/
def addOption (widgets : List Widget) (config : GuiConfig) :
    Except ConstructorFailure (List Widget) := do
  match ← newControl config.defaults config.type with
  | some control => pure (widgets ++ [⟨config.description, control, true⟩])
  | none =>
    match widgets.getLast? with
    | some w =>
      pure (widgets.dropLast ++ [{ w with objectName := config.description, typed := false }])
    | none => .error (.thrown .outOfRange)

namespace NodeModel

def create (configs : List GuiConfig) : Except ConstructorFailure NodeModel :=
  return ⟨← configs.foldlM addOption []⟩

end NodeModel

namespace Control

def saveValue : Control → Except Failure JsonValue
  | checkBox b => pure (.bool b)
  | spinBox s => pure (.double s.value)
  | doubleSpinBox d => pure (.double d.value)
  | lineEdit e => pure (.string e.text)
  | comboBox c => pure (.string c.currentText)
  | gridGroupBox g => return .string (← g.save)
  | mapSpinBox s => pure (.double s.value)

def restoreValue : Control → JsonValue → Except Failure Control
  | checkBox _, v => pure (.checkBox v.toBool)
  | spinBox s, v => pure (.spinBox (s.setValue v.toInt))
  | doubleSpinBox d, v => pure (.doubleSpinBox (d.setValue v.toDouble))
  | lineEdit e, v => pure (.lineEdit (e.setText v.toString))
  | comboBox c, v => pure (.comboBox (c.setCurrentText v.toString))
  | gridGroupBox g, v => return .gridGroupBox (← g.restore v.toString)
  | mapSpinBox s, v => pure (.mapSpinBox (s.setValue v.toInt))

end Control

namespace Widget

def saveValue (w : Widget) : Except Failure (Option JsonValue) :=
  if w.typed then some <$> w.control.saveValue else pure none

def restoreValue (w : Widget) (v : JsonValue) : Except Failure Widget :=
  if w.typed then return { w with control := ← w.control.restoreValue v } else pure w

end Widget

namespace NodeModel

def saveWidget (json : JsonObject) (w : Widget) : Except Failure JsonObject :=
  return match ← w.saveValue with
    | some v => json.insert w.objectName v
    | none => json

/-- `NodeModel::save`: the object of the base class (`NodeDataModel::save`, outside the sources)
with each widget's value under its `objectName`, a later widget overwriting an earlier one of the
same name. -/
def save (m : NodeModel) (base : JsonObject) : Except Failure JsonObject :=
  m.widgets.foldlM saveWidget base

def restoreWidget (p : JsonObject) (w : Widget) : Except Failure Widget :=
  match p.value w.objectName with
  | some v => w.restoreValue v
  | none => pure w

def restore (m : NodeModel) (p : JsonObject) : Except Failure NodeModel :=
  return ⟨← m.widgets.mapM (restoreWidget p)⟩

end NodeModel

inductive ControlEvent where
  | setChecked (b : Bool)
  | setValue (v : Int)
  | setDoubleValue (q : ℚ)
  | setText (text : List Char)
  | setCurrentIndex (i : Nat)
  | grid (e : GridEvent)

def Control.apply : Control → ControlEvent → Except Failure Control
  | checkBox _, .setChecked b => pure (.checkBox b)
  | spinBox s, .setValue v => pure (.spinBox (s.setValue v))
  | mapSpinBox s, .setValue v => pure (.mapSpinBox (s.setValue v))
  | doubleSpinBox d, .setDoubleValue q => pure (.doubleSpinBox (d.setValue q))
  | lineEdit e, .setText text => pure (.lineEdit (e.setText text))
  | comboBox c, .setCurrentIndex i =>
    pure (.comboBox (if h : i < c.items.length then c.setCurrentIndex ⟨i, h⟩ else c))
  | gridGroupBox g, .grid e => return .gridGroupBox (← g.step e)
  | c, _ => pure c

inductive NodeEvent where
  | edit (i : Nat) (e : ControlEvent)
  | restore (p : JsonObject)

namespace NodeModel

def step (m : NodeModel) : NodeEvent → Except Failure NodeModel
  | .edit i e =>
    match m.widgets[i]? with
    | some w => return ⟨m.widgets.set i { w with control := ← w.control.apply e }⟩
    | none => pure m
  | .restore p => m.restore p

/-- The panels a node of this `guiConfig()` can show. -/
inductive Reachable (configs : List GuiConfig) : NodeModel → Prop where
  | create {m : NodeModel} : create configs = .ok m → Reachable configs m
  | step {m m' : NodeModel} {e : NodeEvent} : Reachable configs m → m.step e = .ok m' →
      Reachable configs m'

end NodeModel

end Instinct.Gui
