import StridedReduction.Argument
import StridedReduction.Array.Basic
import StridedReduction.Array.Call
import StridedReduction.Array.ListedCorrection
import StridedReduction.Array.Operations
import StridedReduction.Array.Quotient
import StridedReduction.Array.SeededFold
import StridedReduction.Array.Steps
import StridedReduction.Array.Unchecked
import StridedReduction.CallStack
import StridedReduction.Capability
import StridedReduction.Complex
import StridedReduction.Count
import StridedReduction.Difference
import StridedReduction.Element.Basic
import StridedReduction.Element.Compound
import StridedReduction.Element.Descriptor
import StridedReduction.Element.ItemType
import StridedReduction.Element.Promotion
import StridedReduction.Element.Spelling
import StridedReduction.Element.SpellingFault
import StridedReduction.Element.Text
import StridedReduction.Element.TimeStep
import StridedReduction.Failure
import StridedReduction.Float.Basic
import StridedReduction.Float.Decimal
import StridedReduction.Float.Encoding
import StridedReduction.Float.Format
import StridedReduction.Fold
import StridedReduction.Moments
import StridedReduction.Proofs.Addressing
import StridedReduction.Proofs.Agreement
import StridedReduction.Proofs.AxisOrder
import StridedReduction.Proofs.AxisPermutation
import StridedReduction.Proofs.AxisReduction
import StridedReduction.Proofs.Broadcast
import StridedReduction.Proofs.Buffer
import StridedReduction.Proofs.Cells
import StridedReduction.Proofs.Checks
import StridedReduction.Proofs.ConstantElements
import StridedReduction.Proofs.Counts
import StridedReduction.Proofs.CrossedAxes
import StridedReduction.Proofs.DegreesOfFreedom
import StridedReduction.Proofs.Derivation
import StridedReduction.Proofs.DifferenceBuffers
import StridedReduction.Proofs.DifferenceRounds
import StridedReduction.Proofs.Differences
import StridedReduction.Proofs.Enumeration
import StridedReduction.Proofs.ExactMoments
import StridedReduction.Proofs.ExactSums
import StridedReduction.Proofs.FloatArithmetic
import StridedReduction.Proofs.FloatOrder
import StridedReduction.Proofs.FloatSigns
import StridedReduction.Proofs.Grouping
import StridedReduction.Proofs.Indices
import StridedReduction.Proofs.IntegerElements
import StridedReduction.Proofs.IntegerMeans
import StridedReduction.Proofs.InterleavedFold
import StridedReduction.Proofs.KeptPositions
import StridedReduction.Proofs.LaneFolds
import StridedReduction.Proofs.LaneMoments
import StridedReduction.Proofs.LeadingProducts
import StridedReduction.Proofs.MappedElements
import StridedReduction.Proofs.Memory
import StridedReduction.Proofs.MemoryOrder
import StridedReduction.Proofs.NeutralElements
import StridedReduction.Proofs.Outcomes
import StridedReduction.Proofs.Outlines
import StridedReduction.Proofs.PartialResults
import StridedReduction.Proofs.PermutedReductions
import StridedReduction.Proofs.Rearrangement
import StridedReduction.Proofs.Reduction
import StridedReduction.Proofs.Reproducibility
import StridedReduction.Proofs.RoundedMoments
import StridedReduction.Proofs.RoundedQuotients
import StridedReduction.Proofs.RoundedVariances
import StridedReduction.Proofs.RunningFold
import StridedReduction.Proofs.RunningProduct
import StridedReduction.Proofs.SeededFolds
import StridedReduction.Proofs.Selection
import StridedReduction.Proofs.Telescoping
import StridedReduction.Proofs.TightestAxis
import StridedReduction.Proofs.Tiling
import StridedReduction.Proofs.Traversal
import StridedReduction.Proofs.Variance
import StridedReduction.Proofs.WarningFrames
import StridedReduction.Proofs.WordRing
import StridedReduction.Requirement
import StridedReduction.Signature
import StridedReduction.Strided
import StridedReduction.Text.Numeral
import StridedReduction.Text.Quoted
import StridedReduction.View.Addressing
import StridedReduction.View.Basic
import StridedReduction.View.Slice
import StridedReduction.Word
