import Hex8.Cli.FileSystem
import Hex8.Main
import Hex8.Proofs.Acceptance
import Hex8.Proofs.BusOrder
import Hex8.Proofs.Coupling
import Hex8.Proofs.Disassembly
import Hex8.Proofs.Footprint
import Hex8.Proofs.LabelUse
import Hex8.Proofs.ListingRoundTrip
import Hex8.Proofs.MemoryImage
import Hex8.Proofs.TraceConsistency
import Hex8.Proofs.TracerWindow
import Hex8.Proofs.Tracking
import Hex8.Proofs.Verification
import Hex8.Proofs.VerifyAll
import Hex8.Proofs.Rules
import Hex8.Proofs.Furthest
import Hex8.Proofs.LineIndependence
import Hex8.Proofs.LazyStream
import Hex8.Proofs.ErrorPlaces
import Hex8.Proofs.Refinement
import Hex8.Proofs.Relocation
import Hex8.Proofs.ErrorFronts
import Hex8.Proofs.LayoutEdits
import Hex8.Proofs.Serving
import Hex8.Proofs.WellFormedRecords
import Hex8.Proofs.AssembleTool
import Hex8.Proofs.LineEffects
import Hex8.Proofs.Literals
import Hex8.Proofs.TraceComparison
import Hex8.Proofs.MemoryPrints
