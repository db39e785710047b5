import Storyline.Text.Blank
import Storyline.Text.LowerCase
import Storyline.Sorted.Map
import Storyline.Sorted.Set
import Storyline.Json.Reader
import Storyline.Json.Writer
import Storyline.Content.Project
import Storyline.Graph.Wiring
import Storyline.Graph.Reach
import Storyline.Graph.Loop
import Storyline.Validation.Checks
import Storyline.Player.Condition
import Storyline.Player.Reward
import Storyline.Random.Source
import Storyline.Play.Run
import Storyline.Play.Request
import Storyline.Insight.Analysis
import Storyline.Insight.Comparison
import Storyline.Archive.Basic
import Storyline.CommandLine.Basic
import Storyline.Main
import Storyline.Proofs.Graph.Growth
import Storyline.Proofs.Graph.Cycle
import Storyline.Proofs.Graph.BackEdge
import Storyline.Proofs.Validation.Loop
import Storyline.Proofs.Graph.Reachability
import Storyline.Proofs.Text.Tag
import Storyline.Proofs.Validation.Severity
import Storyline.Proofs.Validation.Connection
import Storyline.Proofs.Validation.Record
import Storyline.Proofs.Validation.Verdict
import Storyline.Proofs.Graph.Wiring
import Storyline.Proofs.Play.Lifecycle
import Storyline.Proofs.Play.Completion
import Storyline.Proofs.Play.Course
import Storyline.Proofs.Content.Condition
import Storyline.Proofs.Play.Balance
import Storyline.Proofs.Play.Progress
import Storyline.Proofs.Play.Block
import Storyline.Proofs.Play.Refusal
import Storyline.Proofs.Play.Replay
import Storyline.Proofs.Play.Prerequisite
import Storyline.Proofs.Number.Rounding
import Storyline.Proofs.Play.Duration
import Storyline.Proofs.Play.Chronicle
import Storyline.Proofs.Play.Mutation
import Storyline.Proofs.Play.Failure
import Storyline.Proofs.Play.Halt
import Storyline.Proofs.Play.View
import Storyline.Proofs.Play.Budget
import Storyline.Proofs.Play.Silence
import Storyline.Proofs.Play.Tone
import Storyline.Proofs.Play.Choice
import Storyline.Proofs.Graph.Lookup
import Storyline.Proofs.Play.Inert
import Storyline.Proofs.Validation.QuestReport
import Storyline.Proofs.Validation.Lookup
import Storyline.Proofs.Graph.Joining
import Storyline.Proofs.Validation.Order
import Storyline.Proofs.Graph.Views
import Storyline.Proofs.Graph.Reference
import Storyline.Proofs.Validation.Reference
import Storyline.Proofs.Validation.Stray
import Storyline.Proofs.Validation.Requirement
import Storyline.Proofs.Graph.Recursion
import Storyline.Proofs.Graph.Turn
import Storyline.Proofs.Play.Figure
import Storyline.Proofs.Play.Resource
import Storyline.Proofs.Play.Range
import Storyline.Proofs.Archive.Listing
import Storyline.Proofs.Archive.Decoding
import Storyline.Proofs.Archive.Agreement
import Storyline.Proofs.Json.Record
import Storyline.Proofs.Json.Text
import Storyline.Proofs.Player.Operator
import Storyline.Proofs.Play.Report
import Storyline.Proofs.Play.Deed
import Storyline.Proofs.Play.Assault
import Storyline.Proofs.Play.Gain
import Storyline.Proofs.Play.Level
import Storyline.Proofs.Play.Recovery
import Storyline.Proofs.Text.Occurrence
import Storyline.Proofs.Play.Credit
import Storyline.Proofs.Play.Mention
import Storyline.Proofs.Number.Classes
import Storyline.Proofs.Play.Selection
import Storyline.Proofs.Validation.Incidence
import Storyline.Proofs.Validation.Partition
import Storyline.Proofs.Insight.Aggregate
import Storyline.Proofs.Insight.Timeline
import Storyline.Proofs.Json.Sound
import Storyline.Proofs.Json.Numeral
import Storyline.Proofs.Json.Reread
import Storyline.Proofs.Content.Renewal
import Storyline.Proofs.Content.Rewriting
import Storyline.Proofs.Content.Grammar
import Storyline.Proofs.Graph.Label
import Storyline.Proofs.Play.Proportion
