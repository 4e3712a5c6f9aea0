import Cryptoki.Word
import Cryptoki.Text.Lossy
import Cryptoki.Text.Numeral
import Cryptoki.Text.Reader
import Cryptoki.Text.Binary64
import Cryptoki.Text.Quoted
import Cryptoki.Code
import Cryptoki.Fault
import Cryptoki.Handle.Table
import Cryptoki.Assoc
import Cryptoki.Record
import Cryptoki.Session.User
import Cryptoki.Session.Table
import Cryptoki.Log
import Cryptoki.Mutex.Callbacks
import Cryptoki.Mutex.Contention
import Cryptoki.Library.Call
import Cryptoki.Environment
import Cryptoki.Process
import Cryptoki.Program.Basic
import Cryptoki.Program.Interleaving
import Cryptoki.Module.Load
import Cryptoki.Module.Slots
import Cryptoki.Module.Sessions
import Cryptoki.Host
import Cryptoki.Library.Simulated
import Cryptoki.Library.Scripted
import Cryptoki.Library.Installed
import Cryptoki.Toml.Value
import Cryptoki.Toml.Strings
import Cryptoki.Toml.Scalars
import Cryptoki.Toml.Tables
import Cryptoki.Toml.Document
import Cryptoki.Files
import Cryptoki.Settings.Basic
import Cryptoki.Settings.Defaults
import Cryptoki.Settings.File
import Cryptoki.Settings.Logging
import Cryptoki.CommandLine.Options
import Cryptoki.CommandLine.Parse
import Cryptoki.Probe.Report
import Cryptoki.Probe.Exit
import Cryptoki.Main
import Cryptoki.Proofs.Handle.Packing
import Cryptoki.Proofs.Handle.Invariant
import Cryptoki.Proofs.Handle.Run
import Cryptoki.Proofs.Handle.Refinement
import Cryptoki.Proofs.Handle.Staleness
import Cryptoki.Proofs.Mutex.Exclusion
import Cryptoki.Proofs.Program.Runs
import Cryptoki.Proofs.Program.Deeds
import Cryptoki.Proofs.Process.References
import Cryptoki.Proofs.Process.Accounting
import Cryptoki.Proofs.Session.History
import Cryptoki.Proofs.Session.Table
import Cryptoki.Proofs.Session.Tracking
import Cryptoki.Proofs.Module.Bounds
import Cryptoki.Proofs.Module.Requests
import Cryptoki.Proofs.Module.Sessions
import Cryptoki.Proofs.Host.Operations
import Cryptoki.Proofs.Host.Agreement
import Cryptoki.Proofs.Host.Run
import Cryptoki.Proofs.Host.Validation
import Cryptoki.Proofs.Module.Loading
import Cryptoki.Proofs.Host.Loading
import Cryptoki.Proofs.Host.Steps
import Cryptoki.Proofs.Host.Holding
import Cryptoki.Proofs.Host.LifeCycle
import Cryptoki.Proofs.Library.Tally
import Cryptoki.Proofs.Library.Ledger
import Cryptoki.Proofs.Host.Balance
import Cryptoki.Proofs.Module.Custody
import Cryptoki.Proofs.Module.Callers
import Cryptoki.Proofs.Host.Registries
import Cryptoki.Proofs.Host.Isolation
import Cryptoki.Proofs.Module.Overtaking
import Cryptoki.Proofs.Module.Stranding
import Cryptoki.Proofs.Host.Stragglers
import Cryptoki.Proofs.Host.Tracking
import Cryptoki.Proofs.Host.Traffic
import Cryptoki.Proofs.Host.Rounds
import Cryptoki.Proofs.Host.Crowd
import Cryptoki.Proofs.Host.ManyThreads
import Cryptoki.Proofs.Host.Failures
import Cryptoki.Proofs.Host.Conduct
import Cryptoki.Proofs.Program.Twins
import Cryptoki.Proofs.Library.Veil
import Cryptoki.Proofs.Host.Secrecy
import Cryptoki.Proofs.Probe.Commands
import Cryptoki.Proofs.Probe.Secrecy
import Cryptoki.Proofs.Probe.Stages
import Cryptoki.Proofs.Probe.Cleanup
import Cryptoki.Proofs.Probe.Selection
import Cryptoki.Proofs.Probe.Protocol
import Cryptoki.Proofs.Text.Fields
import Cryptoki.Proofs.Module.Listing
import Cryptoki.Proofs.Module.Labels
import Cryptoki.Proofs.Module.Waiting
import Cryptoki.Proofs.Host.Issuing
import Cryptoki.Proofs.Module.Conservation
import Cryptoki.Proofs.Text.Padding
import Cryptoki.Proofs.Text.Cutting
import Cryptoki.Proofs.Toml.Keys
import Cryptoki.Proofs.Settings.Given
import Cryptoki.Proofs.Settings.Merging
import Cryptoki.Proofs.Host.Issued
import Cryptoki.Proofs.Module.Running
import Cryptoki.Proofs.Probe.SlotReport
import Cryptoki.Proofs.Text.Numerals
import Cryptoki.Proofs.Settings.Selectors
import Cryptoki.Proofs.Settings.Labels
import Cryptoki.Proofs.Handle.Occupancy
