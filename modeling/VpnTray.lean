import VpnTray.Actions
import VpnTray.Bus.Document
import VpnTray.Bus.Entries
import VpnTray.Bus.Fault
import VpnTray.Bus.Interface
import VpnTray.Bus.Item
import VpnTray.Bus.Menu
import VpnTray.Bus.Message
import VpnTray.Bus.Names
import VpnTray.Bus.ObjectPath
import VpnTray.Bus.Objects
import VpnTray.Bus.Order
import VpnTray.Bus.Presence
import VpnTray.Bus.Registry
import VpnTray.Bus.Router
import VpnTray.Bus.Session
import VpnTray.Bus.Signature
import VpnTray.Bus.Value
import VpnTray.Calendar
import VpnTray.Client.Account
import VpnTray.Client.Basic
import VpnTray.Client.ExitNodes
import VpnTray.Client.Resource
import VpnTray.Command
import VpnTray.CommandLine
import VpnTray.Config.Basic
import VpnTray.Config.Load
import VpnTray.Config.Reader
import VpnTray.ConnectionInfo.Basic
import VpnTray.ConnectionInfo.Sources
import VpnTray.Daemon
import VpnTray.Decimal.Format
import VpnTray.Decimal.Shortest
import VpnTray.Desktop
import VpnTray.Duration
import VpnTray.Error
import VpnTray.Files
import VpnTray.Icon.Outline
import VpnTray.Icon.Polygon
import VpnTray.Icon.Raster
import VpnTray.Icon.Render
import VpnTray.Json.Fault
import VpnTray.Json.Number
import VpnTray.Json.Skip
import VpnTray.Json.Token
import VpnTray.Lock.Basic
import VpnTray.Lock.Handles
import VpnTray.Main
import VpnTray.Menu.Item
import VpnTray.Menu.Layout
import VpnTray.Menu.Tree
import VpnTray.Monitor.Basic
import VpnTray.Monitor.Running
import VpnTray.Monitor.Schedule
import VpnTray.Path
import VpnTray.Script
import VpnTray.Shell
import VpnTray.State
import VpnTray.Stepped
import VpnTray.Terminal
import VpnTray.Text.Basic
import VpnTray.Text.Blank
import VpnTray.Text.Decimal
import VpnTray.Text.Invisible
import VpnTray.Text.Lines
import VpnTray.Text.Lowercase
import VpnTray.Text.Quoted
import VpnTray.Text.Utf8
import VpnTray.Tray
import VpnTray.Proofs.Tray.Operation
import VpnTray.Proofs.Tray.Run
import VpnTray.Proofs.Tray.Commands
import VpnTray.Proofs.Bus.Registry
import VpnTray.Proofs.Bus.Answer
import VpnTray.Proofs.Tray.Host
import VpnTray.Proofs.Tray.Scene
import VpnTray.Proofs.Tray.Interleaving
import VpnTray.Proofs.Bus.Declarations
import VpnTray.Proofs.Bus.Dispatch
import VpnTray.Proofs.Bus.Reply
import VpnTray.Proofs.Bus.Properties
import VpnTray.Proofs.Menu.Items
import VpnTray.Proofs.Bus.Conformance
import VpnTray.Proofs.Bus.Requests
import VpnTray.Proofs.Bus.MenuReads
import VpnTray.Proofs.Text.Utf8
import VpnTray.Proofs.Text.Blank
import VpnTray.Proofs.Text.Cells
import VpnTray.Proofs.Text.Number
import VpnTray.Proofs.Files.Frame
import VpnTray.Proofs.Lock.Acquire
import VpnTray.Proofs.Lock.Handles
import VpnTray.Proofs.Lock.Race
import VpnTray.Proofs.Shell.Log
import VpnTray.Proofs.Desktop
import VpnTray.Proofs.Client.Elevation
import VpnTray.Proofs.Actions.Undertaking
import VpnTray.Proofs.Actions.Unelevated
import VpnTray.Proofs.Actions.Commands
import VpnTray.Proofs.Client.ExitNodeTable
import VpnTray.Proofs.Client.ExitNodes
import VpnTray.Proofs.Actions.ExitNodes
import VpnTray.Proofs.Actions.ExitNodeActions
import VpnTray.Proofs.Monitor.Checks
import VpnTray.Proofs.Daemon.Life
import VpnTray.Proofs.Client.Resources
import VpnTray.Proofs.Client.Table
import VpnTray.Proofs.Client.ResourceTable
import VpnTray.Proofs.Actions.Resources
import VpnTray.Proofs.ConnectionInfo.Independent
import VpnTray.Proofs.Bus.Service
import VpnTray.Proofs.Icon.Colors
import VpnTray.Proofs.Stepped.Sees
import VpnTray.Proofs.Bus.Inquiry
import VpnTray.Proofs.Client.AccountTable
import VpnTray.Proofs.Monitor.Network
import VpnTray.Proofs.Text.Words
import VpnTray.Proofs.ConnectionInfo.NameServers
import VpnTray.Proofs.ConnectionInfo.Fallbacks
import VpnTray.Proofs.ConnectionInfo.PlainText
import VpnTray.Proofs.Menu.Depth
import VpnTray.Proofs.Bus.GroupedCalls
import VpnTray.Proofs.Bus.LayoutValue
import VpnTray.Proofs.Bus.Exports
import VpnTray.Proofs.Desktop.Copies
import VpnTray.Proofs.Duration
import VpnTray.Proofs.Bus.RegistryRuns
import VpnTray.Proofs.Json.Spelling
import VpnTray.Proofs.Json.Values
import VpnTray.Proofs.Config.Members
import VpnTray.Proofs.Config.Given
import VpnTray.Proofs.Calendar
import VpnTray.Proofs.ConnectionInfo.Since
import VpnTray.Proofs.ConnectionInfo.StartTime
import VpnTray.Proofs.Desktop.Markup
import VpnTray.Proofs.Icon.Crossings
import VpnTray.Proofs.Icon.Pixels
