import Inflight.Main
import Inflight.Window.Layout
import Inflight.Proofs.Window.Classification
import Inflight.Proofs.Window.Bound
import Inflight.Proofs.Counters
import Inflight.Proofs.Record
import Inflight.Proofs.Event
import Inflight.Proofs.Session.Effects
import Inflight.Proofs.Session.Recording
import Inflight.Proofs.Session.Run
import Inflight.Proofs.Session.Ordinals
import Inflight.Proofs.Session.Logging
import Inflight.Proofs.Storage.Filing
import Inflight.Proofs.Session.LogFiles
import Inflight.Proofs.Snapshot.Holding
import Inflight.Proofs.Snapshot.Housing
import Inflight.Proofs.Snapshot.Writing
import Inflight.Proofs.Layout.Clashes
import Inflight.Proofs.Layout.Calls
import Inflight.Proofs.Layout.Reading
import Inflight.Proofs.Session.Scenes
import Inflight.Proofs.Session.Lifecycle
import Inflight.Proofs.Session.Independence
import Inflight.Proofs.Session.Isolation
import Inflight.Proofs.Session.Gate
import Inflight.Proofs.Snapshot.Moving
import Inflight.Proofs.Session.Moving
import Inflight.Proofs.Json.Spelling
import Inflight.Proofs.Json.Reader
import Inflight.Proofs.Config.RoundTrip
import Inflight.Proofs.Snapshot.RoundTrip
import Inflight.Proofs.Replay
import Inflight.Proofs.Record.Size
import Inflight.Proofs.Session.BrokenLog
import Inflight.Proofs.Live.Paths
import Inflight.Proofs.Text.Blank
import Inflight.Proofs.Session.CommandLines
import Inflight.Proofs.Config.Partial
import Inflight.Proofs.Snapshot.Layouts
import Inflight.Proofs.Replay.LogOption
