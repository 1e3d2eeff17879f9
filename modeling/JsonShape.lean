import JsonShape.Main
import JsonShape.Proofs.Admission
import JsonShape.Proofs.Blanks
import JsonShape.Proofs.Bounds
import JsonShape.Proofs.Calls
import JsonShape.Proofs.Canonical
import JsonShape.Proofs.Chains
import JsonShape.Proofs.Constructible
import JsonShape.Proofs.Direct
import JsonShape.Proofs.Dispatch
import JsonShape.Proofs.Dotted
import JsonShape.Proofs.Exclusive
import JsonShape.Proofs.Fairness
import JsonShape.Proofs.Lines
import JsonShape.Proofs.Numbering
import JsonShape.Proofs.Obtainable
import JsonShape.Proofs.Plain
import JsonShape.Proofs.PostOrder
import JsonShape.Proofs.Rejections
import JsonShape.Proofs.Reordering
import JsonShape.Proofs.Repeated
import JsonShape.Proofs.Schemas
import JsonShape.Proofs.Session
import JsonShape.Proofs.Settled
import JsonShape.Proofs.Splitting
import JsonShape.Proofs.Stable
import JsonShape.Proofs.Tags
import JsonShape.Proofs.Titles
import JsonShape.Proofs.Trailing
import JsonShape.Proofs.Undeclared
