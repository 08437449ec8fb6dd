import ParaWorks.Lib.Program
import ParaWorks.Lib.Transition
import ParaWorks.Lib.Tables
import ParaWorks.Lib.Text
import ParaWorks.Lib.Strings
import ParaWorks.Lib.Json
import ParaWorks.Lib.JsonPrinter
import ParaWorks.Lib.Integers
import ParaWorks.Lib.Partial
import ParaWorks.Ledger.Contracts
import ParaWorks.Ledger.CostPolicy
import ParaWorks.Ledger.Session
import ParaWorks.Ledger.Operations
import ParaWorks.Ledger.Closing
import ParaWorks.Ledger.System
import ParaWorks.Ledger.Rows
import ParaWorks.Ledger.Invariant
import ParaWorks.Ledger.Transactions
import ParaWorks.Ledger.RowUpdates
import ParaWorks.Ledger.AdmissionKept
import ParaWorks.Ledger.DispatchKept
import ParaWorks.Ledger.ClosingKept
import ParaWorks.Ledger.Dispatch
import ParaWorks.Ledger.Cap
import ParaWorks.Ledger.Recovery
import ParaWorks.Ledger.Traces
import ParaWorks.Ledger.ClosingRefusals
import ParaWorks.Ledger.Refusals
import ParaWorks.Fingerprints
import ParaWorks.Rollout.Contracts
import ParaWorks.Rollout.Operations
import ParaWorks.Rollout.Control
import ParaWorks.Rollout.System
import ParaWorks.Rollout.Effects
import ParaWorks.Rollout.Versions
import ParaWorks.Rollout.Invariant
import ParaWorks.Rollout.History
import ParaWorks.Rollout.Runs
import ParaWorks.Rollout.Gate
import ParaWorks.Lib.Sql
import ParaWorks.Sources.Authority
import ParaWorks.Sources.Agreement
import ParaWorks.Knowledge.Rows
import ParaWorks.Knowledge.Eligibility
import ParaWorks.Knowledge.Narrowing
import ParaWorks.Knowledge.Documents
import ParaWorks.Answers.Candidates
import ParaWorks.Answers.Rag
import ParaWorks.Answers.Access
import ParaWorks.Knowledge.VectorSql
import ParaWorks.Knowledge.VectorSupport
import ParaWorks.Knowledge.VectorAgreement
import ParaWorks.Retrieval.Scope
import ParaWorks.Retrieval.Contracts
import ParaWorks.Retrieval.KeywordPredicate
import ParaWorks.Retrieval.KeywordResource
import ParaWorks.Retrieval.KeywordRules
import ParaWorks.Retrieval.KeywordScope
import ParaWorks.Ingestion.Events
import ParaWorks.Ingestion.Documents
import ParaWorks.Ingestion.Service
import ParaWorks.Ingestion.Permissions
import ParaWorks.Ingestion.PermissionChanges
import ParaWorks.Ingestion.PermissionRuns
import ParaWorks.Ingestion.Effects
import ParaWorks.Ingestion.EffectViews
import ParaWorks.Ingestion.EffectKeys
import ParaWorks.Ingestion.Mutations
import ParaWorks.Ingestion.Batch
import ParaWorks.Ingestion.BatchRuns
import ParaWorks.Graph.Projection
import ParaWorks.Graph.Pages
import ParaWorks.Graph.Store
import ParaWorks.Graph.Truthful
import ParaWorks.Graph.Reconciliation
import ParaWorks.Graph.Convergence
import ParaWorks.VectorIndex.Tables
import ParaWorks.VectorIndex.Reindex
import ParaWorks.VectorIndex.Commit
import ParaWorks.VectorIndex.Runs
import ParaWorks.VectorIndex.Ready
import ParaWorks.VectorIndex.Convergence
import ParaWorks.Assistant.Delivery
import ParaWorks.Assistant.Finalizers
import ParaWorks.Assistant.Invocation
import ParaWorks.Assistant.Honesty
import ParaWorks.Workflow.Graph
import ParaWorks.Workflow.Service
import ParaWorks.Workflow.Interleavings
import ParaWorks.Workflow.Outcomes
import ParaWorks.Workflow.Recovery
import ParaWorks.Workflow.Stranding
import ParaWorks.Workflow.Sequences
import ParaWorks.AutoReview.Contracts
import ParaWorks.AutoReview.Usage
import ParaWorks.AutoReview.ValidationRows
import ParaWorks.AutoReview.ValidationStore
import ParaWorks.AutoReview.ValidationOperations
import ParaWorks.AutoReview.ValidationClosing
import ParaWorks.AutoReview.Validator
import ParaWorks.AutoReview.StrictUsage
import ParaWorks.Email.Drafts
import ParaWorks.Email.Sending
import ParaWorks.Email.Requests
import ParaWorks.Lib.Patterns
import ParaWorks.Email.Recipients
import ParaWorks.Email.Turns
import ParaWorks.Email.Gating
import ParaWorks.Email.HiddenContacts
import ParaWorks.LiveGate.CaseClaims
import ParaWorks.LiveGate.ClaimedRuns
import ParaWorks.Sessions.RefreshTokens
import ParaWorks.Release.Append
import ParaWorks.Sessions.Families
import ParaWorks.Release.Soundness
import ParaWorks.Release.Operations
import ParaWorks.Release.Appends
import ParaWorks.Release.Recovery
import ParaWorks.Release.Runs
import ParaWorks.Release.Drift
import ParaWorks.Projects.EvidenceVisibility
import ParaWorks.Projects.Memory
import ParaWorks.Projects.Agreement
import ParaWorks.Projects.Attribution
import ParaWorks.ReviewThreads.Graph
import ParaWorks.ReviewThreads.Probe
import ParaWorks.ReviewThreads.Service
import ParaWorks.ReviewThreads.Moves
import ParaWorks.ReviewThreads.Order
import ParaWorks.ReviewThreads.Steps
import ParaWorks.ReviewThreads.Outcomes
import ParaWorks.Ingestion.Chunks
import ParaWorks.Generation.Slots
import ParaWorks.Generation.AnswerSchema
import ParaWorks.Generation.Validation
import ParaWorks.Generation.Verdicts
import ParaWorks.Generation.Prompt
import ParaWorks.Generation.Preparation
import ParaWorks.Generation.Prefixes
import ParaWorks.Generation.Seals
import ParaWorks.Lexical.Documents
import ParaWorks.Lexical.Projection
import ParaWorks.Lexical.Agreement
import ParaWorks.AutoReview.CostShares
import ParaWorks.Evidence.BoundedRows
import ParaWorks.Generation.StorageDecimals
import ParaWorks.Ledger.ExactJson
import ParaWorks.Ledger.Rounding
import ParaWorks.Lib.Base64
import ParaWorks.Lib.SessionEvents
import ParaWorks.Lib.TracedText
import ParaWorks.Lib.Windows
import ParaWorks.Requests.AssistantContext
import ParaWorks.Requests.Recency
import ParaWorks.Retention.Pruning
import ParaWorks.Retention.Selection
import ParaWorks.Sessions.TokenChecks
import ParaWorks.SlackAgent.Graph
import ParaWorks.SlackAgent.Guards
import ParaWorks.VectorStore.Narrowing
import ParaWorks.ProviderUsage.Parsers
import ParaWorks.ReviewV21.Reconciliation
import ParaWorks.Lib.JsonCodec
import ParaWorks.ProviderSafety.Blocks
import ParaWorks.ProviderSafety.Commands
import ParaWorks.ProviderSafety.History
