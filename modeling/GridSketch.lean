import GridSketch.Text.Blank
import GridSketch.Text.Digit
import GridSketch.Text.Search
import GridSketch.Text.Case
import GridSketch.Text.Hex
import GridSketch.Text.Quoted
import GridSketch.Keyed
import GridSketch.Decimal.Fixed
import GridSketch.Decimal.Reading
import GridSketch.Number
import GridSketch.Json.Reader
import GridSketch.Json.Writer
import GridSketch.Grid.Make
import GridSketch.Scene.Status
import GridSketch.Document.Reader
import GridSketch.Document.Writer
import GridSketch.Colour
import GridSketch.Arrow.Ends
import GridSketch.View.Given
import GridSketch.History
import GridSketch.Command.Batch
import GridSketch.Session.Basic
import GridSketch.Launch.Startup
import GridSketch.Guard
import GridSketch.Main
import GridSketch.Proofs.Session.Timeline
import GridSketch.Proofs.Decimal.Shortest
import GridSketch.Proofs.Grid.Fits
import GridSketch.Proofs.Session.Edit
import GridSketch.Proofs.Session.Tints
import GridSketch.Proofs.Session.WellFormed
import GridSketch.Proofs.Command.Spelling
import GridSketch.Proofs.Command.Reading
import GridSketch.Proofs.Command.Line
import GridSketch.Proofs.Command.Grammar
import GridSketch.Proofs.Command.FrontEnds
import GridSketch.Proofs.Command.Batch
import GridSketch.Proofs.Command.Effects
import GridSketch.Proofs.Command.Digits
import GridSketch.Proofs.Command.Fatal
import GridSketch.Proofs.Command.Break
import GridSketch.Proofs.Session.Refusal
import GridSketch.Proofs.Session.Renaming
import GridSketch.Proofs.Session.Selection
import GridSketch.Proofs.Document.RoundTrip
import GridSketch.Proofs.Document.Demands
import GridSketch.Proofs.Session.Entries
import GridSketch.Proofs.Session.Look
import GridSketch.Proofs.Session.Reserved
import GridSketch.Proofs.Session.TintSelection
import GridSketch.Proofs.View.Picking
import GridSketch.Proofs.Session.Viewing
import GridSketch.Proofs.Session.Watching
import GridSketch.Proofs.Session.CellWrites
import GridSketch.Proofs.Session.Console
import GridSketch.Proofs.Scene.Tinting
import GridSketch.Proofs.Session.Deletion
import GridSketch.Proofs.Session.RangeTint
import GridSketch.Proofs.Document.Collapse
import GridSketch.Proofs.Grid.Contents
import GridSketch.Proofs.View.Precedence
import GridSketch.Proofs.Session.RenamingBack
import GridSketch.Proofs.Session.Copies
import GridSketch.Proofs.View.Inversion
import GridSketch.Proofs.Session.Colourless
import GridSketch.Proofs.Command.Number
import GridSketch.Proofs.Decimal.Rounding
import GridSketch.Proofs.Decimal.Bits
import GridSketch.Proofs.Decimal.Nearest
import GridSketch.Proofs.Decimal.ReadBack
import GridSketch.Proofs.Command.Shown
import GridSketch.Proofs.Session.Retyping
import GridSketch.Proofs.History.Ledger
import GridSketch.Proofs.Session.Dragging
