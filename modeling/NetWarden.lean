import NetWarden.Bulk.FlowLogs
import NetWarden.Bulk.Groups
import NetWarden.Bulk.Outcome
import NetWarden.Bulk.Rules
import NetWarden.CommandLine.Arguments
import NetWarden.CommandLine.Ending
import NetWarden.CommandLine.Invocation
import NetWarden.CommandLine.LogFilter
import NetWarden.CommandLine.PolicyCommands
import NetWarden.CommandLine.Program
import NetWarden.CommandLine.SettingsCommands
import NetWarden.CommandLine.StarterSettings
import NetWarden.Decimal.Binary64
import NetWarden.Decimal.Shortest
import NetWarden.Dictionary
import NetWarden.Direction
import NetWarden.Documents
import NetWarden.Failure
import NetWarden.Files
import NetWarden.FlowLog
import NetWarden.Format
import NetWarden.Group
import NetWarden.Inventory
import NetWarden.Json.Basic
import NetWarden.Json.Number
import NetWarden.Json.Pointer
import NetWarden.Json.Printer
import NetWarden.Json.Written
import NetWarden.MatchNotes
import NetWarden.Matching
import NetWarden.NetworkPort
import NetWarden.Policy.Action
import NetWarden.Policy.Basic
import NetWarden.Policy.Filter
import NetWarden.Policy.Kind
import NetWarden.Policy.ValueFilter
import NetWarden.Ports
import NetWarden.Removal
import NetWarden.Rule
import NetWarden.RuleFilter
import NetWarden.RuleQuery
import NetWarden.RuleTemplate
import NetWarden.Run.Basic
import NetWarden.Run.Report
import NetWarden.Run.Resources
import NetWarden.Settings
import NetWarden.Source
import NetWarden.Store.Basic
import NetWarden.Store.Call
import NetWarden.Store.Calls
import NetWarden.Text.Blank
import NetWarden.Text.CaseTable
import NetWarden.Text.HiddenTable
import NetWarden.Text.Lower
import NetWarden.Text.Numeral
import NetWarden.Text.Quoted
import NetWarden.Text.Split
import NetWarden.Validation
import NetWarden.Yaml.Block
import NetWarden.Yaml.Cell
import NetWarden.Yaml.Document
import NetWarden.Yaml.Gap
import NetWarden.Yaml.Lexer
import NetWarden.Yaml.Place
import NetWarden.Yaml.Printer
import NetWarden.Yaml.Scalar
import NetWarden.Yaml.Tag
import NetWarden.Yaml.Token
import NetWarden.Identifier
import NetWarden.Main
import NetWarden.Proofs.Store.Steps
import NetWarden.Proofs.Bulk.Distinct
import NetWarden.Proofs.Store.Effects
import NetWarden.Proofs.Bulk.Deletion
import NetWarden.Proofs.Bulk.Removal
import NetWarden.Proofs.Policy.Accepted
import NetWarden.Proofs.Run.ResourceSets
import NetWarden.Proofs.Run.Verdicts
import NetWarden.Proofs.Run.Narrowing
import NetWarden.Proofs.Run.Policies
import NetWarden.Proofs.Bulk.Accounts
import NetWarden.Proofs.Run.Replay
import NetWarden.Proofs.Bulk.Supply
import NetWarden.Proofs.Bulk.Reach
import NetWarden.Proofs.Bulk.Survival
import NetWarden.Proofs.Run.Invariants
import NetWarden.Proofs.Run.RuleChanges
import NetWarden.Proofs.Run.Confinement
import NetWarden.Proofs.Run.Integrity
import NetWarden.Proofs.Matching.Notes
import NetWarden.Proofs.Run.Notes
import NetWarden.Proofs.Bulk.Failures
import NetWarden.Proofs.Policy.Plans
import NetWarden.Proofs.Run.Selection
import NetWarden.Proofs.Run.Failures
import NetWarden.Proofs.Bulk.Clearing
import NetWarden.Proofs.Run.FreeGroups
import NetWarden.Proofs.Run.Convergence
import NetWarden.Proofs.Validation.RuleFilters
import NetWarden.Proofs.Validation.BlockParts
import NetWarden.Proofs.Matching.Decomposition
import NetWarden.Proofs.Run.FilterChains
import NetWarden.Proofs.Bulk.Faultless
import NetWarden.Proofs.Run.Faultless
import NetWarden.Proofs.Store.Alike
import NetWarden.Proofs.Bulk.Alike
import NetWarden.Proofs.Run.Alike
import NetWarden.Proofs.Run.Footprints
import NetWarden.Proofs.Bulk.Orders
import NetWarden.Proofs.Bulk.Undoing
import NetWarden.Proofs.Matching.Questions
import NetWarden.Proofs.Dictionaries
import NetWarden.Proofs.Files
import NetWarden.Proofs.Json.Scalars
import NetWarden.Proofs.Json.Texts
import NetWarden.Proofs.Records.Sources
import NetWarden.Proofs.Records.Codecs
import NetWarden.Proofs.Json.Places
import NetWarden.Proofs.Yaml.Places
import NetWarden.Proofs.Records.Snapshots
import NetWarden.Proofs.Bulk.Additions
import NetWarden.Proofs.Text.Trimming
import NetWarden.Proofs.Text.Numerals
import NetWarden.Proofs.Ports
import NetWarden.Proofs.Matching.OpenPorts
import NetWarden.Proofs.Policy.ValueFilters
import NetWarden.Proofs.Validation.FirstFaults
import NetWarden.Proofs.Policy.ListedFields
import NetWarden.Proofs.Validation.Attributes
import NetWarden.Proofs.Bulk.Retrieval
import NetWarden.Proofs.Validation.SingleValues
import NetWarden.Proofs.Bulk.NewFlowLogs
import NetWarden.Proofs.Policy.Actions
import NetWarden.Proofs.Store.Answers
import NetWarden.Proofs.Store.Histories
import NetWarden.Proofs.Matching.NoteCalls
import NetWarden.Proofs.Policy.Names
import NetWarden.Proofs.Run.RuleChains
import NetWarden.Proofs.Text.LetterCase
import NetWarden.Proofs.CommandLine.Layers
