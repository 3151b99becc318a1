import Sidecar.Binary64
import Sidecar.Call
import Sidecar.CommandLine
import Sidecar.CommandLine.Grammar
import Sidecar.CommandLine.Help
import Sidecar.CommandLine.Run
import Sidecar.CommandLine.Session
import Sidecar.Config
import Sidecar.Config.File
import Sidecar.Duration
import Sidecar.FileTree
import Sidecar.FileTree.Path
import Sidecar.Http.Client
import Sidecar.Http.Failure
import Sidecar.Http.Message
import Sidecar.Http.Record
import Sidecar.Http.Wire
import Sidecar.Intent
import Sidecar.Lifecycle
import Sidecar.Main
import Sidecar.Marker
import Sidecar.Proofs.FileTree.Change
import Sidecar.Proofs.FileTree.LookUp
import Sidecar.Proofs.Lifecycle.History
import Sidecar.Proofs.Lifecycle.Operation
import Sidecar.Proofs.Marker
import Sidecar.Proofs.Peel
import Sidecar.Proofs.Wait.Cut
import Sidecar.Proofs.Wait.CutShort
import Sidecar.Proofs.Wait.Guard
import Sidecar.Proofs.Wait.Scenario
import Sidecar.Proofs.Wait.Step
import Sidecar.Proofs.Wait.Verdict
import Sidecar.Readiness
import Sidecar.Script
import Sidecar.Supervisor
import Sidecar.Supervisor.Monit
import Sidecar.Supervisor.Report
import Sidecar.Text.Base64
import Sidecar.Text.Blank
import Sidecar.Text.Graphic
import Sidecar.Text.Hex
import Sidecar.Text.Quoted
import Sidecar.Text.Search
import Sidecar.Text.Utf8
import Sidecar.Url
import Sidecar.Url.Host
import Sidecar.Url.Percent
import Sidecar.Url.Punycode
import Sidecar.Wait
import Sidecar.Wait.Guard
import Sidecar.Yaml.Document
import Sidecar.Yaml.Event
import Sidecar.Yaml.Record
import Sidecar.Yaml.Source
import Sidecar.Yaml.Token
import Sidecar.Yaml.Token.Block
import Sidecar.Yaml.Token.Plain
import Sidecar.Yaml.Token.Quoted
import Sidecar.Yaml.Token.Scanner
import Sidecar.Yaml.Token.Tag
import Sidecar.Yaml.Value
import Sidecar.Proofs.Wait.Exchange
import Sidecar.Proofs.Wait.Discipline
import Sidecar.Proofs.Wait.Pacing
import Sidecar.Proofs.Lifecycle.Agreement
import Sidecar.Proofs.Report.Item
import Sidecar.Proofs.Report.Sheet
import Sidecar.Proofs.Config.Sound
import Sidecar.Proofs.CommandLine.Limit
import Sidecar.Proofs.Lifecycle.Arbitrator
import Sidecar.Proofs.FileTree.Overlay
import Sidecar.Proofs.Marker.Crew
import Sidecar.Proofs.Lifecycle.Following
import Sidecar.Proofs.Lifecycle.Wiring
import Sidecar.Proofs.Readiness
import Sidecar.Proofs.Wait.Range
import Sidecar.Proofs.Marker.Whole
import Sidecar.Proofs.Yaml.Outline
import Sidecar.Proofs.Yaml.Scalar
import Sidecar.Proofs.Yaml.Scan
import Sidecar.Proofs.Yaml.Tokens
import Sidecar.Proofs.Yaml.Items
import Sidecar.Proofs.Yaml.BrokenOff
import Sidecar.Proofs.Yaml.Entries
import Sidecar.Proofs.Config.Records
import Sidecar.Proofs.Config.Form
import Sidecar.Proofs.Duration.Grammar
import Sidecar.Proofs.Wait.Instant
import Sidecar.Proofs.Http.Form
import Sidecar.Proofs.Supervisor.Acceptance
import Sidecar.Proofs.Report.Case
import Sidecar.Proofs.Report.Edit
import Sidecar.Proofs.Duration.Canonical
import Sidecar.Proofs.Url.Host
import Sidecar.Proofs.Url.Server
import Sidecar.Proofs.Url.Way
import Sidecar.Proofs.Wait.Unreached
import Sidecar.Proofs.Config.Address
