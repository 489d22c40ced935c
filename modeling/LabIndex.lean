import LabIndex.Change.Event
import LabIndex.Change.Feed
import LabIndex.Change.Plan
import LabIndex.Command.Amount
import LabIndex.Command.Arguments
import LabIndex.Command.Line
import LabIndex.Command.Run
import LabIndex.Command.Summary
import LabIndex.Content.Extraction
import LabIndex.Content.Path
import LabIndex.Content.Programs
import LabIndex.Content.Store
import LabIndex.Decimal.Binary
import LabIndex.Decimal.Notation
import LabIndex.Decimal.Shortest
import LabIndex.Document.Basic
import LabIndex.Document.File
import LabIndex.Document.Parts
import LabIndex.Document.Process
import LabIndex.Document.Project
import LabIndex.Document.Sample
import LabIndex.Document.Shape
import LabIndex.Failure
import LabIndex.FileTree.Basic
import LabIndex.FileTree.Glob
import LabIndex.FileTree.Scan
import LabIndex.FileTree.Workers
import LabIndex.Indexing.Kinds
import LabIndex.Indexing.Report
import LabIndex.Indexing.Request
import LabIndex.Indexing.Run
import LabIndex.Installation
import LabIndex.Json.Basic
import LabIndex.Json.Printer
import LabIndex.Json.Reader
import LabIndex.Json.Skim
import LabIndex.Kind
import LabIndex.Main
import LabIndex.Search.Criterion
import LabIndex.Search.Disk
import LabIndex.Search.Engine
import LabIndex.Search.Expression
import LabIndex.Search.Index
import LabIndex.Search.Language
import LabIndex.Search.Matching
import LabIndex.Search.Profile
import LabIndex.Search.Ranking
import LabIndex.Search.Saved
import LabIndex.Search.Words
import LabIndex.Serving.Access
import LabIndex.Serving.Address
import LabIndex.Serving.Server
import LabIndex.Settings.Basic
import LabIndex.Settings.Json
import LabIndex.Settings.Loading
import LabIndex.Store.Dump
import LabIndex.Store.Query
import LabIndex.Store.Records
import LabIndex.Store.Source
import LabIndex.Text.Alphabet
import LabIndex.Text.LowerCase
import LabIndex.Text.Pieces
import LabIndex.Text.Quoted
import LabIndex.Text.Utf8
import LabIndex.Timestamp.Basic
import LabIndex.Timestamp.Calendar
import LabIndex.Timestamp.Reader
import LabIndex.Toml.Document
import LabIndex.Toml.Scalar
import LabIndex.Toml.Text
import LabIndex.Proofs.Answers
import LabIndex.Proofs.Change.Completeness
import LabIndex.Proofs.Change.Deletion
import LabIndex.Proofs.Change.Dependencies
import LabIndex.Proofs.Change.Following
import LabIndex.Proofs.Change.Links
import LabIndex.Proofs.Change.Replay
import LabIndex.Proofs.Document.Ids
import LabIndex.Proofs.Document.Reading
import LabIndex.Proofs.Indexing.Batches
import LabIndex.Proofs.Indexing.Contents
import LabIndex.Proofs.Indexing.FileRows
import LabIndex.Proofs.Indexing.Interleaving
import LabIndex.Proofs.Indexing.Resync
import LabIndex.Proofs.Indexing.Rows
import LabIndex.Proofs.Indexing.Scopes
import LabIndex.Proofs.Indexing.Taken
import LabIndex.Proofs.Json.Depth
import LabIndex.Proofs.Json.Fields
import LabIndex.Proofs.Json.RoundTrip
import LabIndex.Proofs.Json.Sorted
import LabIndex.Proofs.Search.Engines
import LabIndex.Proofs.Search.Finding
import LabIndex.Proofs.Search.Held
import LabIndex.Proofs.Search.Upsert
import LabIndex.Proofs.Search.Words
import LabIndex.Proofs.Serving.Keys
import LabIndex.Proofs.Serving.Places
import LabIndex.Proofs.Store.Columns
import LabIndex.Proofs.Store.Evaluation
import LabIndex.Proofs.Serving.Containment
import LabIndex.Proofs.Serving.Answering
import LabIndex.Proofs.Change.LookUps
import LabIndex.Proofs.Indexing.Malformed
import LabIndex.Proofs.Change.FeedLines
import LabIndex.Proofs.Indexing.Discriminants
import LabIndex.Proofs.Indexing.SharedText
import LabIndex.Proofs.Indexing.Credentials
import LabIndex.Proofs.Scanning.Workers
import LabIndex.Proofs.Scanning.Files
import LabIndex.Proofs.Settings.Checked
import LabIndex.Proofs.Serving.Apart
import LabIndex.Proofs.Indexing.SampleRows
import LabIndex.Proofs.Indexing.Accounting
import LabIndex.Proofs.Text.Decoding
import LabIndex.Proofs.Content.Extracting
import LabIndex.Proofs.Search.Narrowing
import LabIndex.Proofs.Change.FeedKeys
import LabIndex.Proofs.Change.Planning
import LabIndex.Proofs.Store.Locality
import LabIndex.Proofs.Timestamp.Writing
import LabIndex.Proofs.Document.NormalForm
import LabIndex.Proofs.Store.Copying
import LabIndex.Proofs.Scanning.HardLinks
import LabIndex.Proofs.Search.SharedKeys
import LabIndex.Proofs.Change.Repeats
