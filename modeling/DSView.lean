import DSView.QString
import DSView.Widget
import DSView.Rows
import DSView.Pannel
import DSView.Update
import DSView.Distance
import DSView.Dock
import DSView.Slot
import DSView.Invariant
import DSView.Frame
import DSView.Owner
import DSView.Recalc
import DSView.Markers
import DSView.Channel
import DSView.Labels
import DSView.Safety
import DSView.Abstract
import DSView.Refinement
import DSView.Buttons
import DSView.CursorPanel
