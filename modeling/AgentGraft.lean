import AgentGraft.Admission
import AgentGraft.Bundle.Cache
import AgentGraft.Bundle.Cluster
import AgentGraft.Bundle.Store
import AgentGraft.Checked
import AgentGraft.Config
import AgentGraft.Endpoint.Address
import AgentGraft.Endpoint.FirstParty
import AgentGraft.Endpoint.Url
import AgentGraft.Environment
import AgentGraft.Footprint
import AgentGraft.Health
import AgentGraft.Java.Injection
import AgentGraft.Java.Spec
import AgentGraft.Log
import AgentGraft.Manifest.Container
import AgentGraft.Manifest.Env
import AgentGraft.Manifest.Pod
import AgentGraft.Mutation.Plan
import AgentGraft.Mutation.Run
import AgentGraft.Number.Binary64
import AgentGraft.Number.Shortest
import AgentGraft.Patch
import AgentGraft.Policy.Decision
import AgentGraft.Policy.Report
import AgentGraft.Proofs.Java.Grafting
import AgentGraft.Proofs.Mutation.Trace
import AgentGraft.Proofs.Mutation.Visits
import AgentGraft.Proofs.Targets.Assignment
import AgentGraft.Schema
import AgentGraft.Service
import AgentGraft.Settings
import AgentGraft.Targets
import AgentGraft.Text.Base64
import AgentGraft.Text.Blank
import AgentGraft.Text.CaseTable
import AgentGraft.Text.CharRange
import AgentGraft.Text.DecimalDigit
import AgentGraft.Text.HiddenDelimiter
import AgentGraft.Text.LowerCase
import AgentGraft.Text.Newline
import AgentGraft.Text.Numeral
import AgentGraft.Text.PrintableTable
import AgentGraft.Text.Quoted
import AgentGraft.Text.Split
import AgentGraft.Text.Utf8
import AgentGraft.Value
import AgentGraft.Value.Json
import AgentGraft.Value.Render
import AgentGraft.Yaml.Cursor
import AgentGraft.Yaml.Datum
import AgentGraft.Yaml.Moment
import AgentGraft.Yaml.Node
import AgentGraft.Yaml.Numeral
import AgentGraft.Yaml.Scalar
import AgentGraft.Yaml.Tag
import AgentGraft.Yaml.Token
import AgentGraft.Proofs.Mutation.Grafted
import AgentGraft.Proofs.Mutation.Readmission
import AgentGraft.Proofs.Manifest.Readers
import AgentGraft.Proofs.Manifest.RoundTrip
import AgentGraft.Proofs.Value.Likeness
import AgentGraft.Proofs.Manifest.Pods
import AgentGraft.Proofs.Patch.Application
import AgentGraft.Proofs.Java.Soundness
import AgentGraft.Proofs.Patch.Transport
import AgentGraft.Proofs.Admission.Verdict
import AgentGraft.Proofs.Environment.Bundles
import AgentGraft.Proofs.Environment.Timeline
import AgentGraft.Proofs.Environment.Totality
import AgentGraft.Proofs.Java.Variables
import AgentGraft.Proofs.Mutation.Completion
import AgentGraft.Proofs.Mutation.Precedence
import AgentGraft.Proofs.Policy.Routing
import AgentGraft.Proofs.Mutation.Telemetry
import AgentGraft.Proofs.Mutation.Handover
import AgentGraft.Proofs.Mutation.Independence
import AgentGraft.Proofs.Environment.Histories
import AgentGraft.Proofs.Environment.Snapshots
import AgentGraft.Proofs.Mutation.Uniqueness
import AgentGraft.Proofs.Mutation.Sources
import AgentGraft.Proofs.Admission.Readmission
import AgentGraft.Proofs.Mutation.Budget
import AgentGraft.Proofs.Environment.Replies
import AgentGraft.Proofs.Environment.Clusters
import AgentGraft.Proofs.Policy.Dependence
import AgentGraft.Proofs.Environment.Agreement
import AgentGraft.Proofs.Mutation.Confinement
import AgentGraft.Proofs.Manifest.Survival
import AgentGraft.Proofs.Manifest.Documents
import AgentGraft.Proofs.Environment.Merge
import AgentGraft.Proofs.Mutation.Security
import AgentGraft.Proofs.Endpoint.Authority
import AgentGraft.Proofs.Endpoint.Grammar
import AgentGraft.Proofs.Text.Utf8
import AgentGraft.Proofs.Text.Base64
import AgentGraft.Proofs.Environment.Secrets
import AgentGraft.Proofs.Java.Shape
import AgentGraft.Proofs.Mutation.Options
import AgentGraft.Proofs.Mutation.Coherence
import AgentGraft.Proofs.Targets.Overlap
import AgentGraft.Proofs.Policy.Growth
import AgentGraft.Proofs.Yaml.Building
import AgentGraft.Proofs.Settings.Sections
import AgentGraft.Proofs.Settings.Override
import AgentGraft.Proofs.Settings.Loading
