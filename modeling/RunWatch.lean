import RunWatch.Frame.Lines
import RunWatch.Main
import RunWatch.Patch.EditSession
import RunWatch.Rehearsal.Beat
import RunWatch.Rehearsal.CommandLine
import RunWatch.Rehearsal.Listening
import RunWatch.Rehearsal.Play
import RunWatch.Run.Stored
import RunWatch.Proofs.Frame.Chunks
import RunWatch.Proofs.Frame.Lines
import RunWatch.Control.Operation
import RunWatch.Proofs.Control.Coherence
import RunWatch.Proofs.Control.Provenance
import RunWatch.Proofs.Patch.Protocol
import RunWatch.Proofs.Run.Updates
import RunWatch.Stream.Subscription
import RunWatch.Proofs.Run.Errors
import RunWatch.Proofs.Stream.Discipline
import RunWatch.Proofs.Control.Progress
import RunWatch.Control.Traffic
import RunWatch.Control.Custody
import RunWatch.Proofs.Control.Views
import RunWatch.Proofs.Control.Failures
import RunWatch.Proofs.Control.Guards
import RunWatch.Proofs.Control.Custody
import RunWatch.Control.Station
import RunWatch.Proofs.Patch.Editors
import RunWatch.Proofs.Control.Stations
import RunWatch.Proofs.Stream.Heard
import RunWatch.Proofs.Stream.Cancelling
import RunWatch.Proofs.Control.Attention
import RunWatch.Proofs.Control.Following
import RunWatch.Proofs.Control.Renumbering
import RunWatch.Proofs.Control.Pairs
import RunWatch.Proofs.Control.Restart
import RunWatch.Proofs.Run.Replays
import RunWatch.Proofs.Run.Snapshots
import RunWatch.Proofs.Patch.Rounds
import RunWatch.Proofs.Control.Slot
import RunWatch.Proofs.Run.Ledger
import RunWatch.Proofs.Run.Digest
import RunWatch.Proofs.Run.ErrorFrames
import RunWatch.Proofs.Control.Silence
import RunWatch.Proofs.Run.Transitions
import RunWatch.Proofs.Frame.Endings
import RunWatch.Proofs.Stream.Completeness
import RunWatch.Control.Timetable
import RunWatch.Proofs.Control.Cadence
import RunWatch.Proofs.Patch.Readings
import RunWatch.Proofs.Patch.Statuses
import RunWatch.Terminal.Vigil
import RunWatch.Proofs.Control.Showing
import RunWatch.Proofs.Terminal.Vigils
import RunWatch.Control.Roster
import RunWatch.Proofs.Control.Serving
import RunWatch.Proofs.Control.Retiring
import RunWatch.Proofs.Settings.Addresses
import RunWatch.Proofs.Http.Reasons
import RunWatch.Proofs.Run.Stored
