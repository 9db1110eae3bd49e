import CrossRef.Json.Basic
import CrossRef.Json.Writer
import CrossRef.Decimal.Shortest
import CrossRef.Text.Utf8
import CrossRef.Json.Mismatch
import CrossRef.Json.Reader.Cursor
import CrossRef.Json.Reader.Number
import CrossRef.Json.Reader.Text
import CrossRef.Json.Reader.Value
import CrossRef.Span
import CrossRef.Record.Basic
import CrossRef.Record.Schema
import CrossRef.Record.Kinds
import CrossRef.Record.Encode
import CrossRef.Record.Lists
import CrossRef.Snapshot
import CrossRef.Entity
import CrossRef.Resolve
import CrossRef.Navigator
import CrossRef.Error
import CrossRef.Text.Base64
import CrossRef.Wire.Request
import CrossRef.Wire.Response
import CrossRef.Wire.Transport
import CrossRef.Wire.Client
import CrossRef.Wire.OneShot
import CrossRef.Config.Basic
import CrossRef.Store
import CrossRef.Session
import CrossRef.Output
import CrossRef.Host.Files
import CrossRef.Shell.Syntax
import CrossRef.Shell.Run
import CrossRef.Host.Process
import CrossRef.Decimal.Nearest
import CrossRef.Toml.Document
import CrossRef.Toml.Reader
import CrossRef.Toml.Value
import CrossRef.Toml.Parse
import CrossRef.Config.Load
import CrossRef.Cli.Spec
import CrossRef.Cli.Help
import CrossRef.Cli.Suggest
import CrossRef.Cli.Parse
import CrossRef.Cli.Invocation
import CrossRef.Cli.Run
import CrossRef.Host.World
import CrossRef.Main
import CrossRef.Proofs.Index
import CrossRef.Proofs.SelfEquality
import CrossRef.Proofs.Occurrences
import CrossRef.Proofs.Navigation
import CrossRef.Proofs.StoreMap
import CrossRef.Proofs.FindUsagesRace
import CrossRef.Proofs.ClientReads
import CrossRef.Proofs.JsonMaps
import CrossRef.Proofs.FieldReads
import CrossRef.Proofs.RecordEcho
import CrossRef.Proofs.RecordKinds
import CrossRef.Proofs.ReportEcho
import CrossRef.Proofs.Walk
import CrossRef.Proofs.Resolution
import CrossRef.Proofs.Reanalysis
import CrossRef.Proofs.Jumps
import CrossRef.Proofs.DefinitionLookup
import CrossRef.Proofs.Utf8Decoding
import CrossRef.Proofs.ReaderRuns
import CrossRef.Proofs.StringReadBack
import CrossRef.Proofs.JsonReadBack
import CrossRef.Proofs.RequestLines
import CrossRef.Proofs.ResponseDecoding
import CrossRef.Proofs.NaNFreeReads
