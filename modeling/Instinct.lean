import Instinct.Util.Except
import Instinct.Gnss.Observation
import Instinct.Gnss.ObservationEstimator
import Instinct.Gnss.Pointwise
import Instinct.Gnss.Estimates
import Instinct.Gnss.ErrorBudget
import Instinct.Gnss.Variance
import Instinct.Util.TimeBase
import Instinct.NodeData.ImuPos
import Instinct.Sensors.Emlid
import Instinct.Gui.Text
import Instinct.Gui.Widgets
import Instinct.Gui.NodeModel
import Instinct.Gui.Construction
import Instinct.Gui.SaveRestore
import Instinct.Gui.LastRow
import Instinct.Gui.Fields
import Instinct.Gui.Json
import Instinct.Gui.Panel
import Instinct.Gui.PanelShape
import Instinct.Gui.PanelRoundTrip
import Instinct.App.StartUp
