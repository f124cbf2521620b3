import ScriptTags.Command.Run
import ScriptTags.Record.Assignment
import ScriptTags.Syntax.Classification
import ScriptTags.Proofs.Batch.Outcome
import ScriptTags.Proofs.Collector
import ScriptTags.Proofs.Batch.Schedule
import ScriptTags.Proofs.Batch.Account
import ScriptTags.Proofs.Syntax.Position
import ScriptTags.Proofs.Enumeration
import ScriptTags.Proofs.Methods
import ScriptTags.Proofs.Document.Lines
import ScriptTags.Proofs.Document.Reading
import ScriptTags.Proofs.Utf8
import ScriptTags.Proofs.Document.Order
import ScriptTags.Proofs.Locality
import ScriptTags.Proofs.Files.Tree
import ScriptTags.Proofs.Files.Scan
import ScriptTags.Proofs.Toml
import ScriptTags.Proofs.Command.Delivery
import ScriptTags.Proofs.Batch.Registry
import ScriptTags.Proofs.Files.Follow
import ScriptTags.Proofs.Script.Header
import ScriptTags.Proofs.Files.Walk
import ScriptTags.Proofs.Command.Frame
import ScriptTags.Proofs.Command.Rerun
import ScriptTags.Proofs.Settings.File
import ScriptTags.Proofs.Command.Fault
import ScriptTags.Proofs.Files.Path
import ScriptTags.Proofs.Command.Stages
import ScriptTags.Proofs.Imports
import ScriptTags.Proofs.Layout.Edits
import ScriptTags.Proofs.Layout.Shift
import ScriptTags.Proofs.Syntax.Unwrap
import ScriptTags.Proofs.Layout.Relaid
import ScriptTags.Proofs.Layout.Mentions
import ScriptTags.Proofs.Anchors
import ScriptTags.Proofs.NameOrder
import ScriptTags.Proofs.Syntax.Errors
import ScriptTags.Proofs.Files.Listing
import ScriptTags.Proofs.Files.Expansion
import ScriptTags.Proofs.Files.Links
import ScriptTags.Proofs.Record.Issues
import ScriptTags.Proofs.Record.Shape
import ScriptTags.Proofs.Record.Models
import ScriptTags.Proofs.Settings.Resolve
import ScriptTags.Proofs.Settings.Nearest
import ScriptTags.Proofs.Command.Precedence
import ScriptTags.Proofs.Syntax.Tour
import ScriptTags.Proofs.Syntax.Chain
import ScriptTags.Proofs.Replacement
import ScriptTags.Proofs.Syntax.Identifier
import ScriptTags.Proofs.Files.Extension
