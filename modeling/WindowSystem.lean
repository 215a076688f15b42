import WindowSystem.Appearance
import WindowSystem.Bridge.Basic
import WindowSystem.Bridge.Consumers
import WindowSystem.Bridge.EventStream
import WindowSystem.Bridge.Handle
import WindowSystem.Bridge.Record
import WindowSystem.Bridge.Registry
import WindowSystem.Creation.Attributes
import WindowSystem.Creation.Options
import WindowSystem.Creation.Record
import WindowSystem.Datum.Basic
import WindowSystem.Datum.Json
import WindowSystem.Datum.Reader
import WindowSystem.Desktop.Description
import WindowSystem.Desktop.Display
import WindowSystem.Desktop.Input
import WindowSystem.Desktop.Key
import WindowSystem.Desktop.Manager
import WindowSystem.Desktop.Report
import WindowSystem.Desktop.Request
import WindowSystem.Event.Basic
import WindowSystem.Event.Compare
import WindowSystem.Event.Description
import WindowSystem.Event.Input
import WindowSystem.Event.Key
import WindowSystem.Event.Record
import WindowSystem.Failure
import WindowSystem.Failure.Record
import WindowSystem.Geometry
import WindowSystem.Identity
import WindowSystem.Journal
import WindowSystem.Journal.Record
import WindowSystem.Logging
import WindowSystem.Manager.Basic
import WindowSystem.Manager.Change
import WindowSystem.Manager.Choice
import WindowSystem.Manager.Query
import WindowSystem.Manager.Record
import WindowSystem.Manager.SlotTable
import WindowSystem.Number.Binary
import WindowSystem.Number.Decimal
import WindowSystem.Number.Double
import WindowSystem.Offscreen.Graphics
import WindowSystem.Offscreen.Manager
import WindowSystem.Offscreen.Record
import WindowSystem.Offscreen.Window
import WindowSystem.Pointer
import WindowSystem.Proofs.Bridge.Moves
import WindowSystem.Proofs.Bridge.Registry
import WindowSystem.Proofs.Bridge.Session
import WindowSystem.Proofs.EventStream.Crowd
import WindowSystem.Proofs.EventStream.Look
import WindowSystem.Proofs.EventStream.SingleConsumer
import WindowSystem.Ron.Basic
import WindowSystem.Ron.Decode
import WindowSystem.Ron.Lexical
import WindowSystem.Ron.Number
import WindowSystem.Ron.Reader
import WindowSystem.Ron.Writer
import WindowSystem.Scripted.Description
import WindowSystem.Scripted.Graphics
import WindowSystem.Scripted.Manager
import WindowSystem.Settings.Basic
import WindowSystem.Settings.Description
import WindowSystem.Settings.File
import WindowSystem.Settings.Notation
import WindowSystem.Step
import WindowSystem.Surface.Backend
import WindowSystem.Surface.Choice
import WindowSystem.Surface.Drawable
import WindowSystem.Text.Printable
import WindowSystem.Text.Quoted
import WindowSystem.Toml.Document
import WindowSystem.Toml.Lexical
import WindowSystem.Toml.Literal
import WindowSystem.Toml.Table
import WindowSystem.Toml.Writer
import WindowSystem.Vocabulary
import WindowSystem.Vulkan.Call
import WindowSystem.Vulkan.Graphics
import WindowSystem.Vulkan.Loader
import WindowSystem.Vulkan.Result
import WindowSystem.Proofs.Bridge.Operations
import WindowSystem.Proofs.Bridge.Handles
import WindowSystem.Proofs.Bridge.Surfaces
import WindowSystem.Proofs.Bridge.Ledger
import WindowSystem.Proofs.Offscreen.LiveSurfaces
import WindowSystem.Proofs.Bridge.SurfaceAccount
import WindowSystem.Proofs.Offscreen.Delivery
import WindowSystem.Proofs.Bridge.Lifetimes
import WindowSystem.Proofs.Bridge.Course
import WindowSystem.Proofs.Manager.SlotTable
import WindowSystem.Proofs.Manager.SlotVersions
import WindowSystem.Proofs.Manager.Runs
import WindowSystem.Proofs.Bridge.Drawables
import WindowSystem.Proofs.Bridge.Agreement
import WindowSystem.Proofs.Offscreen.Windows
import WindowSystem.Proofs.Desktop.TimeOrder
import WindowSystem.Proofs.Desktop.Windows
import WindowSystem.Proofs.Desktop.Frames
import WindowSystem.Proofs.Desktop.Redraws
import WindowSystem.Proofs.Desktop.ModifierState
import WindowSystem.Proofs.Bridge.BundledManagers
import WindowSystem.Proofs.Offscreen.Identifiers
import WindowSystem.Proofs.Offscreen.Attribution
import WindowSystem.Proofs.Bridge.Failures
import WindowSystem.Proofs.Bridge.BundledFailures
import WindowSystem.Proofs.Number.Rounding
import WindowSystem.Proofs.Number.ShortestDecimal
import WindowSystem.Proofs.Toml.Numbers
import WindowSystem.Proofs.Toml.Strings
import WindowSystem.Proofs.Toml.Values
import WindowSystem.Proofs.Toml.Statements
import WindowSystem.Proofs.Toml.Documents
import WindowSystem.Proofs.Settings.TomlRoundTrip
import WindowSystem.Proofs.Bridge.DestroyedHandles
import WindowSystem.Proofs.Desktop.Reports
import WindowSystem.Proofs.Number.Widening
import WindowSystem.Proofs.Datum.Alike
import WindowSystem.Proofs.Event.Alike
import WindowSystem.Proofs.Event.JsonForm
import WindowSystem.Proofs.Ron.Numbers
import WindowSystem.Proofs.Ron.Lexical
import WindowSystem.Proofs.Ron.Values
import WindowSystem.Proofs.Settings.RonRoundTrip
import WindowSystem.Proofs.Number.Truncation
import WindowSystem.Proofs.Creation.Validation
import WindowSystem.Proofs.Creation.Layers
import WindowSystem.Proofs.Bridge.Enumeration
import WindowSystem.Proofs.Bridge.Teardown
import WindowSystem.Proofs.Bridge.Chronicle
import WindowSystem.Proofs.Bridge.Episodes
import WindowSystem.Proofs.Vulkan.Account
import WindowSystem.Proofs.Vulkan.Lifetimes
import WindowSystem.Proofs.Manager.SlotLookup
import WindowSystem.Proofs.Offscreen.Lives
import WindowSystem.Proofs.Offscreen.SizeLimits
import WindowSystem.Proofs.Offscreen.Announcements
import WindowSystem.Proofs.Bridge.Requests
import WindowSystem.Proofs.Bridge.BindingProtocol
import WindowSystem.Proofs.Bridge.SurfaceBinding
import WindowSystem.Proofs.Offscreen.Properties
import WindowSystem.Proofs.Offscreen.Mirroring
import WindowSystem.Proofs.Bridge.LiveHandles
import WindowSystem.Proofs.Offscreen.LastWrites
import WindowSystem.Proofs.Desktop.Placement
