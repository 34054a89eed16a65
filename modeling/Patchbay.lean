import Patchbay.Table
import Patchbay.Text.Blank
import Patchbay.Number.Shortest
import Patchbay.Number.Numeral
import Patchbay.Json.Basic
import Patchbay.Text.Utf8
import Patchbay.Json.Printer
import Patchbay.Json.Reader
import Patchbay.Graph.Basic
import Patchbay.Graph.Connected
import Patchbay.Graph.FlowOrder
import Patchbay.Json.Decode
import Patchbay.Store
import Patchbay.Catalog
import Patchbay.Group
import Patchbay.Program.Basic
import Patchbay.Engine
import Patchbay.Program.Calls
import Patchbay.Program.Comparison
import Patchbay.Runner
import Patchbay.Settings.Basic
import Patchbay.Session.Basic
import Patchbay.Session.Restore
import Patchbay.Deflate.Bits
import Patchbay.Deflate.Huffman
import Patchbay.Deflate.Inflate
import Patchbay.Share.Base64
import Patchbay.Share.Payload
import Patchbay.Share.Link
import Patchbay.Session.Link
import Patchbay.CommandLine.Arguments
import Patchbay.CommandLine.Run
import Patchbay.Main
import Patchbay.Proofs.GroupSilence
import Patchbay.Proofs.SessionRestore
import Patchbay.Proofs.RestoreRecords
import Patchbay.Proofs.ProgramDependence
import Patchbay.Proofs.PausePlay
import Patchbay.Proofs.EngineInStep
import Patchbay.Proofs.GroupIdentity
import Patchbay.Proofs.RunnerSilence
import Patchbay.Proofs.RunnerDebounce
import Patchbay.Proofs.RunnerRepeats
import Patchbay.Proofs.SessionRepeats
import Patchbay.Proofs.RunnerLockstep
import Patchbay.Proofs.GlobalPause
import Patchbay.Proofs.TempoEdit
import Patchbay.Proofs.SessionWellFormed
import Patchbay.Proofs.StatementGrammar
import Patchbay.Proofs.RestoreExact
import Patchbay.Proofs.SharedState
import Patchbay.Proofs.SharedLink
import Patchbay.Proofs.ProjectPlayback
import Patchbay.Proofs.RefusedEdits
import Patchbay.Proofs.PauseDisplay
import Patchbay.Proofs.GroupOrder
import Patchbay.Proofs.GroupStability
import Patchbay.Proofs.RunnerOutcomes
import Patchbay.Proofs.CommentEdits
import Patchbay.Proofs.QuotedText
import Patchbay.Proofs.TransformShape
import Patchbay.Proofs.RecordEdits
import Patchbay.Proofs.NodeUndo
import Patchbay.Proofs.SettingsFields
import Patchbay.Proofs.SettingsFile
import Patchbay.Proofs.OpenedLink
import Patchbay.Proofs.StateForms
import Patchbay.Proofs.SearchOrder
import Patchbay.Proofs.NoteGrid
import Patchbay.Proofs.ArpeggioWalk
import Patchbay.Proofs.ByteOffsets
import Patchbay.Proofs.CallSpans
import Patchbay.Proofs.CallOffsets
import Patchbay.Proofs.CallRemoval
import Patchbay.Proofs.ComparisonNormal
import Patchbay.Proofs.RunnerTimers
