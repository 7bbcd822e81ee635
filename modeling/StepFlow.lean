import StepFlow.Archive
import StepFlow.Chain
import StepFlow.Codec
import StepFlow.Command.Desk
import StepFlow.Command.Options
import StepFlow.Command.Run
import StepFlow.Connection
import StepFlow.Connection.Json
import StepFlow.Csv
import StepFlow.Diagram
import StepFlow.Dictionary
import StepFlow.Dictionary.Json
import StepFlow.Files
import StepFlow.Flow
import StepFlow.Folder
import StepFlow.Graph.Basic
import StepFlow.Graph.Debounce
import StepFlow.Graph.Edit
import StepFlow.Graph.Error
import StepFlow.Graph.Load
import StepFlow.Json.Quoted
import StepFlow.Json.Read
import StepFlow.Json.Record
import StepFlow.Json.Scan
import StepFlow.Json.Token
import StepFlow.Json.Value
import StepFlow.Json.Write
import StepFlow.Keywords
import StepFlow.Keywords.Json
import StepFlow.Links
import StepFlow.Main
import StepFlow.NameTest
import StepFlow.Path
import StepFlow.Project
import StepFlow.Roles
import StepFlow.Snapshot.Basic
import StepFlow.Snapshot.Binary
import StepFlow.Snapshot.Json
import StepFlow.Step
import StepFlow.Step.Json
import StepFlow.Table.Basic
import StepFlow.Table.Finding
import StepFlow.Table.Json
import StepFlow.Table.Priority
import StepFlow.Table.Row
import StepFlow.Text.Alphanumeric
import StepFlow.Text.Blank
import StepFlow.Text.CodeRanges
import StepFlow.Text.Decimal
import StepFlow.Text.LetterCase
import StepFlow.Text.LowerCase
import StepFlow.Text.Utf8
import StepFlow.Text.Word
import StepFlow.TextMap
import StepFlow.Proofs.Outcome
import StepFlow.Proofs.Repeats
import StepFlow.Proofs.Graph.Index
import StepFlow.Proofs.Links
import StepFlow.Proofs.Graph.Ancestry
import StepFlow.Proofs.Graph.Cycles
import StepFlow.Proofs.Graph.Load
import StepFlow.Proofs.Graph.FreshId
import StepFlow.Proofs.Graph.WellFormed
import StepFlow.Proofs.Graph.Changes
import StepFlow.Proofs.Graph.Run
import StepFlow.Proofs.Walk
import StepFlow.Proofs.Chain
import StepFlow.Proofs.Roles
import StepFlow.Proofs.Project.Session
import StepFlow.Proofs.Graph.Reload
import StepFlow.Proofs.Project.Restore
import StepFlow.Proofs.Dictionary
import StepFlow.Proofs.Defaults
import StepFlow.Proofs.Table.Rows
import StepFlow.Proofs.Table.Paths
import StepFlow.Proofs.Table.Findings
import StepFlow.Proofs.Table.Join
import StepFlow.Proofs.Codec
import StepFlow.Proofs.Keywords
import StepFlow.Proofs.Text.Word
import StepFlow.Proofs.NameTest
import StepFlow.Proofs.Snapshot.Binary
import StepFlow.Proofs.Json.Scan
import StepFlow.Proofs.Json.Read
import StepFlow.Proofs.Json.Record
import StepFlow.Proofs.Snapshot.Json
import StepFlow.Proofs.Project.Load
import StepFlow.Proofs.Table.Carry
import StepFlow.Proofs.Table.Origins
import StepFlow.Proofs.Table.Order
import StepFlow.Proofs.Table.Preview
import StepFlow.Proofs.Csv.Format
import StepFlow.Proofs.Csv.Render
import StepFlow.Proofs.Csv.Writer
import StepFlow.Proofs.Graph.Renaming
import StepFlow.Proofs.Table.Renaming
import StepFlow.Proofs.Table.Relabel
import StepFlow.Proofs.Project.Sync
import StepFlow.Proofs.Project.Derive
import StepFlow.Proofs.Graph.Requests
import StepFlow.Proofs.Graph.Windows
import StepFlow.Proofs.Table.Matching
import StepFlow.Proofs.Diagram
import StepFlow.Proofs.Folder
import StepFlow.Proofs.Folder.Endings
import StepFlow.Proofs.Keywords.Forms
import StepFlow.Proofs.Command.Desk
import StepFlow.Proofs.Command.Export
import StepFlow.Proofs.Graph.Descent
import StepFlow.Proofs.Graph.Updates
import StepFlow.Proofs.Graph.Removals
import StepFlow.Proofs.Graph.Names
import StepFlow.Proofs.Project.Migrate
import StepFlow.Proofs.Graph.Additions
import StepFlow.Proofs.Command.Rerun
import StepFlow.Proofs.Graph.Climb
