import ButtonRelay.Text.Blank
import ButtonRelay.Text.Utf8
import ButtonRelay.Text.GraphemeExtend
import ButtonRelay.Text.Printable
import ButtonRelay.Text.Alphanumeric
import ButtonRelay.Text.Escape
import ButtonRelay.Decimal.Shortest
import ButtonRelay.Device
import ButtonRelay.Delivery
import ButtonRelay.Config
import ButtonRelay.Fault
import ButtonRelay.Log
import ButtonRelay.Payload.Reader
import ButtonRelay.Payload.Format
import ButtonRelay.Payload.Message
import ButtonRelay.Reporter
import ButtonRelay.Toml.Scan
import ButtonRelay.Toml.Value
import ButtonRelay.Toml.Strings
import ButtonRelay.Toml.Numbers
import ButtonRelay.Toml.Inline
import ButtonRelay.Toml.Tree
import ButtonRelay.Toml.Document
import ButtonRelay.Toml.Report
import ButtonRelay.Toml.Flat
import ButtonRelay.Input.Fault
import ButtonRelay.Input.Lines
import ButtonRelay.Input.Channel
import ButtonRelay.Input.Mock
import ButtonRelay.Input.Source
import ButtonRelay.Input.Files
import ButtonRelay.Registry
import ButtonRelay.Queue
import ButtonRelay.Sink
import ButtonRelay.Slot
import ButtonRelay.Producer
import ButtonRelay.Worker
import ButtonRelay.Module
import ButtonRelay.Session
import ButtonRelay.Driver
import ButtonRelay.Host
import ButtonRelay.Locking
import ButtonRelay.Cli.Similar
import ButtonRelay.Cli.Args
import ButtonRelay.Cli.Pattern
import ButtonRelay.Cli.Filter
import ButtonRelay.Cli.Bridge
import ButtonRelay.Main
import ButtonRelay.Proofs.Registry
import ButtonRelay.Proofs.Mock
import ButtonRelay.Proofs.Queue
import ButtonRelay.Proofs.Producer
import ButtonRelay.Proofs.Refinement
import ButtonRelay.Proofs.Interleaving
import ButtonRelay.Proofs.Slot
import ButtonRelay.Proofs.Handle
import ButtonRelay.Proofs.Stats
import ButtonRelay.Proofs.Lines
import ButtonRelay.Proofs.Worker
import ButtonRelay.Proofs.Stream
import ButtonRelay.Proofs.Settings
import ButtonRelay.Proofs.Wait
import ButtonRelay.Proofs.Reader
import ButtonRelay.Proofs.Numbers
import ButtonRelay.Proofs.Strings
import ButtonRelay.Proofs.Values
import ButtonRelay.Proofs.Records
import ButtonRelay.Proofs.Messages
import ButtonRelay.Proofs.Locking
import ButtonRelay.Proofs.Polling
import ButtonRelay.Proofs.Lifecycle
