import KeySynth.Batch
import KeySynth.CommandLine.Folder
import KeySynth.CommandLine.Request
import KeySynth.CommandLine.Run
import KeySynth.Config.Basic
import KeySynth.Config.File
import KeySynth.Config.Read
import KeySynth.Config.Write
import KeySynth.Desktop.Basic
import KeySynth.Desktop.Bench
import KeySynth.Engine.Basic
import KeySynth.Engine.Emit
import KeySynth.Engine.Interpret
import KeySynth.Engine.Mouse
import KeySynth.Engine.Reconcile
import KeySynth.Engine.Send
import KeySynth.Event.Basic
import KeySynth.Event.Display
import KeySynth.Event.Tag
import KeySynth.Fault
import KeySynth.Hotstring.CaseTransfer
import KeySynth.Hotstring.Replace
import KeySynth.Key.Code
import KeySynth.Key.Label
import KeySynth.Key.Name
import KeySynth.Key.Scan
import KeySynth.Key.Set
import KeySynth.Key.UsLayout
import KeySynth.Ledger.Basic
import KeySynth.Ledger.LayoutCache
import KeySynth.Main
import KeySynth.Mode
import KeySynth.Modifier.Basic
import KeySynth.Modifier.Plan
import KeySynth.Mouse.Button
import KeySynth.Pause
import KeySynth.Platform
import KeySynth.Pointer.Path
import KeySynth.Pointer.Point
import KeySynth.Proofs.Batch
import KeySynth.Proofs.Config.RoundTrip
import KeySynth.Proofs.Desktop.Editor
import KeySynth.Proofs.Desktop.Keys
import KeySynth.Proofs.Desktop.Recorder
import KeySynth.Proofs.Desktop.Rests
import KeySynth.Proofs.Desktop.Screen
import KeySynth.Proofs.Engine.Act
import KeySynth.Proofs.Engine.Agreement
import KeySynth.Proofs.Engine.AllOrNothing
import KeySynth.Proofs.Engine.Arrival
import KeySynth.Proofs.Engine.Balance
import KeySynth.Proofs.Engine.BlindHold
import KeySynth.Proofs.Engine.CharCode
import KeySynth.Proofs.Engine.Closing
import KeySynth.Proofs.Engine.Counted
import KeySynth.Proofs.Engine.Course
import KeySynth.Proofs.Engine.Cursor
import KeySynth.Proofs.Engine.Delivery
import KeySynth.Proofs.Engine.Emission
import KeySynth.Proofs.Engine.FailedClick
import KeySynth.Proofs.Engine.Flow
import KeySynth.Proofs.Engine.Guard
import KeySynth.Proofs.Engine.Handed
import KeySynth.Proofs.Engine.Held
import KeySynth.Proofs.Engine.Idle
import KeySynth.Proofs.Engine.Journal
import KeySynth.Proofs.Engine.Lock
import KeySynth.Proofs.Engine.Malformed
import KeySynth.Proofs.Engine.Mirror
import KeySynth.Proofs.Engine.NumLock
import KeySynth.Proofs.Engine.Partial
import KeySynth.Proofs.Engine.Persistent
import KeySynth.Proofs.Engine.Quiet
import KeySynth.Proofs.Engine.Reconcile
import KeySynth.Proofs.Engine.Recording
import KeySynth.Proofs.Engine.Repetition
import KeySynth.Proofs.Engine.Restore
import KeySynth.Proofs.Engine.Route
import KeySynth.Proofs.Engine.Signed
import KeySynth.Proofs.Engine.Spoil
import KeySynth.Proofs.Engine.Tape
import KeySynth.Proofs.Engine.Thrift
import KeySynth.Proofs.Engine.Tracking
import KeySynth.Proofs.Engine.Trail
import KeySynth.Proofs.Engine.Typist
import KeySynth.Proofs.Engine.Upkeep
import KeySynth.Proofs.Engine.View
import KeySynth.Proofs.Hotstring.CaseTransfer
import KeySynth.Proofs.Hotstring.Replace
import KeySynth.Proofs.Key.Name
import KeySynth.Proofs.Key.UsLayout
import KeySynth.Proofs.Ledger.LayoutCache
import KeySynth.Proofs.Modifier.Discretion
import KeySynth.Proofs.Modifier.Mask
import KeySynth.Proofs.Modifier.Plan
import KeySynth.Proofs.Modifier.Spoil
import KeySynth.Proofs.Modifier.Thrift
import KeySynth.Proofs.Pointer.Path
import KeySynth.Proofs.Pointer.Words
import KeySynth.Proofs.Script.Append
import KeySynth.Proofs.Script.CodePoint
import KeySynth.Proofs.Script.Quote
import KeySynth.Proofs.Script.Shape
import KeySynth.Proofs.Script.Tokens
import KeySynth.Proofs.Text.Digits
import KeySynth.Proofs.Text.Number
import KeySynth.Proofs.Text.Utf16
import KeySynth.Proofs.Toml.Document
import KeySynth.Proofs.Toml.Plain
import KeySynth.Proofs.Toml.Value
import KeySynth.Proofs.Trigger.Admission
import KeySynth.Proofs.Trigger.Again
import KeySynth.Proofs.Trigger.Decision
import KeySynth.Proofs.Trigger.Echo
import KeySynth.Proofs.Trigger.Effect
import KeySynth.Proofs.Trigger.Level
import KeySynth.Proofs.Trigger.Queue
import KeySynth.Proofs.Trigger.Rank
import KeySynth.Proofs.Trigger.Registry
import KeySynth.Proofs.Trigger.Roster
import KeySynth.Proofs.Trigger.Slots
import KeySynth.Script.Click
import KeySynth.Script.Directive
import KeySynth.Script.Token
import KeySynth.Script.Tokens
import KeySynth.Settings
import KeySynth.Text.Alphabetic
import KeySynth.Text.Blank
import KeySynth.Text.Case.Basic
import KeySynth.Text.Case.Capital
import KeySynth.Text.Case.Lower
import KeySynth.Text.Case.Run
import KeySynth.Text.Case.Upper
import KeySynth.Text.Number
import KeySynth.Text.Utf16
import KeySynth.Toml.Document
import KeySynth.Toml.Moment
import KeySynth.Toml.Number
import KeySynth.Toml.Quoted
import KeySynth.Toml.Scan
import KeySynth.Toml.Table
import KeySynth.Toml.Term
import KeySynth.Toml.Value
import KeySynth.Trigger.Basic
import KeySynth.Trigger.Registry
