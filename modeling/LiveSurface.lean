import LiveSurface.Log.Line
import LiveSurface.Main
import LiveSurface.Session.Basic
import LiveSurface.Time.Ulid
import LiveSurface.Proofs.Path.Change
import LiveSurface.Proofs.Surface.Run
import LiveSurface.Proofs.Surface.Atomicity
import LiveSurface.Proofs.Surface.Keyed
import LiveSurface.Proofs.Surface.History
import LiveSurface.Proofs.Log.Comparison
import LiveSurface.Proofs.Render.Rules
import LiveSurface.Proofs.Render.Graph
import LiveSurface.Proofs.Render.Plain
import LiveSurface.Proofs.Path.Relative
import LiveSurface.Proofs.Path.Context
import LiveSurface.Proofs.Render.Relocate
import LiveSurface.Proofs.Surface.Isolation
import LiveSurface.Proofs.Render.Limit
import LiveSurface.Proofs.Surface.Replay
import LiveSurface.Proofs.Json.Nesting
import LiveSurface.Proofs.Json.Outermost
import LiveSurface.Proofs.Surface.Truncation
import LiveSurface.Proofs.Render.Circle
import LiveSurface.Proofs.Render.Failure
import LiveSurface.Proofs.Render.Footprint
import LiveSurface.Proofs.Surface.Reordering
import LiveSurface.Proofs.Json.Breakoff
import LiveSurface.Proofs.Json.Writable
import LiveSurface.Proofs.Message.Escape
import LiveSurface.Proofs.Message.Octets
import LiveSurface.Proofs.Message.Accepted
import LiveSurface.Proofs.Json.Rearranged
import LiveSurface.Proofs.Json.RoundTrip
import LiveSurface.Proofs.Message.Prose
import LiveSurface.Proofs.Json.Fence
import LiveSurface.Proofs.Json.Reads
import LiveSurface.Proofs.Render.Schema
import LiveSurface.Proofs.Component.WellFormed
import LiveSurface.Proofs.Surface.WellFormed
import LiveSurface.Proofs.Path.Blocked
import LiveSurface.Proofs.Path.Entry
import LiveSurface.Proofs.Path.Frame
import LiveSurface.Proofs.Path.Removal
import LiveSurface.Proofs.Surface.Nesting
import LiveSurface.Proofs.Session.Sends
import LiveSurface.Proofs.Component.RoundTrip
import LiveSurface.Proofs.Path.Disjoint
import LiveSurface.Proofs.Path.Item
import LiveSurface.Proofs.Render.Template
import LiveSurface.Proofs.Surface.Answers
import LiveSurface.Proofs.Log.Unwinding
import LiveSurface.Proofs.Json.Embedded
import LiveSurface.Proofs.Json.Sorted
import LiveSurface.Proofs.Time.Creation
