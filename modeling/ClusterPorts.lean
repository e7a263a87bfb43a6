import ClusterPorts.Demo.Embedding
import ClusterPorts.Demo.Validation
import ClusterPorts.Main
import ClusterPorts.Proofs.Provision.Retry
import ClusterPorts.Proofs.Provision.Rollback
import ClusterPorts.Proofs.Provision.Soundness
import ClusterPorts.Proofs.Provision.Acceptance
import ClusterPorts.Proofs.Provision.Batches
import ClusterPorts.Proofs.Network.Transcript
import ClusterPorts.Proofs.Provision.Repetition
import ClusterPorts.Proofs.Provision.Warrants
import ClusterPorts.Proofs.Provision.Revocation
import ClusterPorts.Proofs.Provision.Convergence
import ClusterPorts.Proofs.Azure.Rehearsal
import ClusterPorts.Proofs.Azure.Refinement
import ClusterPorts.Proofs.Network.Rewriting
import ClusterPorts.Proofs.Provision.Isolation
import ClusterPorts.Proofs.Provision.Reporting
import ClusterPorts.Proofs.Azure.Secrets
import ClusterPorts.Proofs.Azure.Inquiries
import ClusterPorts.Proofs.Provision.Allocation
import ClusterPorts.Proofs.Provision.Conflicts
import ClusterPorts.Proofs.Provision.Traces
import ClusterPorts.Proofs.CommandLine.Ending
import ClusterPorts.Proofs.Azure.Deadline
import ClusterPorts.Proofs.CommandLine.Flattening
import ClusterPorts.Proofs.Port.Listing
import ClusterPorts.Proofs.Provision.Capacity
import ClusterPorts.Proofs.Provision.Reordering
import ClusterPorts.Proofs.Provision.Search
