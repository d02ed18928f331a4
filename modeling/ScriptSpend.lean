import ScriptSpend.Policy.Document
import ScriptSpend.Script.Assembly
import ScriptSpend.Script.Wire
import ScriptSpend.Spend.Session
import ScriptSpend.Proofs.AssemblyRoundTrip
import ScriptSpend.Proofs.Commitment
import ScriptSpend.Proofs.Conditionals
import ScriptSpend.Proofs.EmptySignature
import ScriptSpend.Proofs.Finality
import ScriptSpend.Proofs.PayToKeyHash
import ScriptSpend.Proofs.CanonicalSignatures
import ScriptSpend.Proofs.OpenConditionals
import ScriptSpend.Proofs.LenientActions
import ScriptSpend.Proofs.RelaxedPolicies
import ScriptSpend.Proofs.FaultlessActions
import ScriptSpend.Proofs.FaultlessOperations
import ScriptSpend.Proofs.CheckedOperations
import ScriptSpend.Proofs.FaultlessSpends
import ScriptSpend.Proofs.FailedSteps
import ScriptSpend.Proofs.SingleSteps
import ScriptSpend.Proofs.StepBudget
import ScriptSpend.Proofs.UniquePushes
import ScriptSpend.Proofs.SignedText
import ScriptSpend.Proofs.ConfinedSpends
import ScriptSpend.Proofs.UncommittedParts
import ScriptSpend.Proofs.EarlyReturns
import ScriptSpend.Proofs.ComposedScripts
import ScriptSpend.Proofs.ElementLimit
import ScriptSpend.Proofs.MultiSigFootprint
import ScriptSpend.Proofs.SignatureEncoding
import ScriptSpend.Proofs.NumberWidths
import ScriptSpend.Proofs.ExactArithmetic
import ScriptSpend.Proofs.Shifts
import ScriptSpend.Proofs.ShortestPushes
import ScriptSpend.Proofs.DepthMoves
import ScriptSpend.Proofs.ChunkDeletion
import ScriptSpend.Proofs.OppositeSignatures
import ScriptSpend.Proofs.CanonicalNumbers
