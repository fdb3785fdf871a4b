import RadarOverlay.Badge
import RadarOverlay.Bearing
import RadarOverlay.Binary
import RadarOverlay.Canvas
import RadarOverlay.Client
import RadarOverlay.Configuration
import RadarOverlay.Controller.Drawing
import RadarOverlay.Controller.Event
import RadarOverlay.Controller.Functions
import RadarOverlay.Controller.Menus
import RadarOverlay.Controller.Pointer
import RadarOverlay.Controller.Restoring
import RadarOverlay.Controller.Vocabulary
import RadarOverlay.Coordinate
import RadarOverlay.Geometry
import RadarOverlay.Host
import RadarOverlay.Json.Document
import RadarOverlay.Json.Forms
import RadarOverlay.Json.Value
import RadarOverlay.Native.Adapter
import RadarOverlay.Native.Screen
import RadarOverlay.Native.Shell
import RadarOverlay.Native.Wire
import RadarOverlay.Notice
import RadarOverlay.Plugin
import RadarOverlay.Popup
import RadarOverlay.Program
import RadarOverlay.Proofs.BadgePlacement
import RadarOverlay.Proofs.Centers
import RadarOverlay.Proofs.ContentPasses
import RadarOverlay.Proofs.DecorationPass
import RadarOverlay.Proofs.Directories
import RadarOverlay.Proofs.Dragging
import RadarOverlay.Proofs.Drawings
import RadarOverlay.Proofs.GeographicSurfaces
import RadarOverlay.Proofs.LosslessForms
import RadarOverlay.Proofs.OfferedEntries
import RadarOverlay.Proofs.Redraws
import RadarOverlay.Proofs.Reloading
import RadarOverlay.Proofs.Scaling
import RadarOverlay.Proofs.ScreenLifecycle
import RadarOverlay.Proofs.SelectionLists
import RadarOverlay.Proofs.SessionLogs
import RadarOverlay.Proofs.StoredAnchor
import RadarOverlay.Proofs.WholeCalls
import RadarOverlay.SessionLog.Disk
import RadarOverlay.SessionLog.Folder
import RadarOverlay.SessionLog.Name
import RadarOverlay.SessionLog.Path
import RadarOverlay.SessionLog.Prune
import RadarOverlay.Settings
import RadarOverlay.Simulation.MapView
import RadarOverlay.Simulation.NativeScene
import RadarOverlay.Simulation.Scene
import RadarOverlay.TagFunction
import RadarOverlay.Text.Blank
import RadarOverlay.Text.Number
import RadarOverlay.Text.Quoted
import RadarOverlay.Text.Terminated
import RadarOverlay.Text.Unprintable
import RadarOverlay.Text.Utf8
import RadarOverlay.Viewport
