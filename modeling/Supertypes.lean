import Supertypes.Hierarchy.Reach
import Supertypes.Registry.Dump
import Supertypes.Registry.Query
import Supertypes.Registry.Run
import Supertypes.Registry.Verify
import Supertypes.Session
import Supertypes.Proofs.Codec
import Supertypes.Proofs.Slots
import Supertypes.Proofs.Placement
import Supertypes.Proofs.FirstServed
import Supertypes.Proofs.Searching
import Supertypes.Proofs.Abandoning
import Supertypes.Proofs.Optimality
import Supertypes.Proofs.Growth
import Supertypes.Proofs.Coherence
import Supertypes.Proofs.Exactness
import Supertypes.Proofs.Verification
import Supertypes.Proofs.Arrangement
import Supertypes.Proofs.Ancestry
import Supertypes.Proofs.Supers
import Supertypes.Proofs.Building
import Supertypes.Proofs.Budgets
import Supertypes.Proofs.LongerSearches
import Supertypes.Proofs.Issuing
import Supertypes.Proofs.Use
import Supertypes.Proofs.Contents
import Supertypes.Proofs.Zones
import Supertypes.Proofs.Precedence
import Supertypes.Proofs.Subtyping
import Supertypes.Proofs.Lossless
import Supertypes.Proofs.Strategies
import Supertypes.Proofs.Reports
import Supertypes.Proofs.Inventory
import Supertypes.Proofs.Identities
import Supertypes.Proofs.InterfaceOrder
import Supertypes.Proofs.Publication
import Supertypes.Proofs.Lineage
import Supertypes.Proofs.Rejections
