import FlowOps.Reconciliation.Checkpoint
import FlowOps.Reconciliation.Settlement
import FlowOps.Reconciliation.Replayability
import FlowOps.Reconciliation.EscrowReorg
import FlowOps.Reconciliation.EscrowAccounting
import FlowOps.Contracts.EscrowSimulation
import FlowOps.Contracts.AgentRegistry
import FlowOps.Contracts.DirectoryVersions
import FlowOps.Contracts.ASCPSettlement
import FlowOps.Contracts.VerdictAuthority
import FlowOps.Contracts.SpendCaps
import FlowOps.ControlPlane.Provenance
import FlowOps.ControlPlane.Processes
import FlowOps.Signer.NonceStore
import FlowOps.Signer.Resumption
import FlowOps.Signer.FreezeFile
import FlowOps.Signer.Exposure
import FlowOps.Journals.Reopening
import FlowOps.Ascp.ExecutionAuthorization
import FlowOps.Bearer.LedgerReplay
import FlowOps.Keeper.Chains
import FlowOps.Leadership.Promotion
import FlowOps.Orchestration.Deadlines
import FlowOps.Verifier.StructuredData
import FlowOps.Pkg.UrlPath
