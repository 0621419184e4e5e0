import Troubleshooter.Adapter.Client
import Troubleshooter.Adapter.Handler
import Troubleshooter.Admission.Containment
import Troubleshooter.Admission.Soundness
import Troubleshooter.Decision.Agreement
import Troubleshooter.Decision.Attribution
import Troubleshooter.Decision.CodeBounds
import Troubleshooter.Decision.LineNumbers
import Troubleshooter.Decision.LocalCode
import Troubleshooter.Decision.Overrides
import Troubleshooter.Gateway.Accounts
import Troubleshooter.Gateway.Agents
import Troubleshooter.Gateway.Builtins
import Troubleshooter.Gateway.Concurrency
import Troubleshooter.Gateway.Durability
import Troubleshooter.Gateway.Identity
import Troubleshooter.Gateway.Queries
import Troubleshooter.Gateway.Quotas
import Troubleshooter.Gateway.Remapping
import Troubleshooter.Gateway.Server
import Troubleshooter.Gateway.Summaries
import Troubleshooter.Library.Upsert
import Troubleshooter.Masking.Exposure
import Troubleshooter.Masking.Keys
import Troubleshooter.Masking.Leaves
import Troubleshooter.Platform.Accounting
import Troubleshooter.Platform.Briefing
import Troubleshooter.Platform.ChatPlatform
import Troubleshooter.Platform.Confidence
import Troubleshooter.Platform.Decryption
import Troubleshooter.Platform.Gates
import Troubleshooter.Platform.Hearing
import Troubleshooter.Platform.Idempotency
import Troubleshooter.Platform.Images
import Troubleshooter.Platform.Importing
import Troubleshooter.Platform.LocalAgents
import Troubleshooter.Platform.Ownership
import Troubleshooter.Platform.Publication
import Troubleshooter.Platform.References
import Troubleshooter.Platform.Replies
import Troubleshooter.Platform.Secrecy
import Troubleshooter.Platform.Statements
import Troubleshooter.Platform.UserIDs
import Troubleshooter.Storage.Agreement
import Troubleshooter.Storage.Comparison
import Troubleshooter.Storage.Writers
import Troubleshooter.System.Commission
import Troubleshooter.System.Noninterference
