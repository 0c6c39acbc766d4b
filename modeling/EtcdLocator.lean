import EtcdLocator.Locator.Script
import EtcdLocator.Locator.Session
import EtcdLocator.Main
import EtcdLocator.Proofs.Scan
import EtcdLocator.Proofs.Decision
import EtcdLocator.Proofs.Handles
import EtcdLocator.Proofs.History
import EtcdLocator.Proofs.Stable
import EtcdLocator.Proofs.Lockstep
import EtcdLocator.Proofs.Coherence
import EtcdLocator.Proofs.Leadership
import EtcdLocator.Proofs.Inspection
import EtcdLocator.Proofs.Extension
import EtcdLocator.Proofs.Lifecycle
import EtcdLocator.Proofs.Requests
import EtcdLocator.Proofs.Accepted
import EtcdLocator.Proofs.Durations
import EtcdLocator.Proofs.Documents
import EtcdLocator.Proofs.Renderings
import EtcdLocator.Proofs.Listing
import EtcdLocator.Proofs.Sections
import EtcdLocator.Proofs.Material
import EtcdLocator.Proofs.Naming
import EtcdLocator.Proofs.Columns
import EtcdLocator.Proofs.Messages
import EtcdLocator.Proofs.Told
