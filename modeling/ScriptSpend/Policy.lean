import ScriptSpend.Text.Hex

/-!
# Policies

A policy says which rules a spend must keep beyond those of evaluation itself, and how much it may
use. Five of the rules have a bit in a set of flags.

## Main definitions

* `Policy`: the rules and limits; its default is the standard rule set
* `Policy.ofFlags`, `Policy.flags`: the rules that have a bit, read from and written as flags
-/

namespace ScriptSpend

/-- The rules that a spend must keep and the limits it must respect. The default is the standard
rule set: every requirement and no bound on the number of steps. -/
structure Policy where
  /-- The most bytes that a stack element may be given by a push, a concatenation or a widening. -/
  maxElementSize : UInt64 := 1024 * 1024 * 1024
  /-- The most keys in one check of several signatures. -/
  maxMultisigKeys : UInt32 := 0x7fffffff
  /-- Pushes and numbers take the fewest bytes. -/
  requireMinimalPush : Bool := true
  /-- Unlocking scripts only push. -/
  requirePushOnlyUnlocking : Bool := true
  /-- Signatures have a low `s`. -/
  requireLowS : Bool := true
  /-- One item is left at the end. -/
  requireCleanStack : Bool := true
  /-- The unused item of a check of several signatures is empty. -/
  requireNullDummy : Bool := true
  /-- The most chunks that may be executed. -/
  maxSteps : Option UInt64 := none
  deriving DecidableEq

/-- Flags that belong to no rule. -/
structure FlagsError where
  unsupported : UInt32
  deriving DecidableEq

/-- The text of a refusal of flags. -/
def FlagsError.message (e : FlagsError) : String :=
  "unsupported verification flags: 0x" ++ Hex.ofNat e.unsupported.toNat

namespace Policy

/-- The bit for low `s`. -/
def lowSFlag : UInt32 := 0x008

/-- The bit for the empty unused item. -/
def nullDummyFlag : UInt32 := 0x010

/-- The bit for unlocking scripts that only push. -/
def pushOnlyFlag : UInt32 := 0x020

/-- The bit for minimal pushes and numbers. -/
def minimalPushFlag : UInt32 := 0x040

/-- The bit for the clean stack. -/
def cleanStackFlag : UInt32 := 0x100

/-- All bits that belong to a rule. -/
def supportedFlags : UInt32 :=
  minimalPushFlag ||| pushOnlyFlag ||| lowSFlag ||| nullDummyFlag ||| cleanStackFlag

/-- The policy with the rules of the given flags and the default limits. -/
def ofFlags (bits : UInt32) : Except FlagsError Policy :=
  let unsupported := bits &&& ~~~supportedFlags
  -- A bit without a rule is refused, not ignored.
  if unsupported ≠ 0 then .error ⟨unsupported⟩
  else
    .ok
      { requireMinimalPush := bits &&& minimalPushFlag != 0
        requirePushOnlyUnlocking := bits &&& pushOnlyFlag != 0
        requireLowS := bits &&& lowSFlag != 0
        requireCleanStack := bits &&& cleanStackFlag != 0
        requireNullDummy := bits &&& nullDummyFlag != 0 }

/-- The flags of the rules that a policy requires. -/
def flags (policy : Policy) : UInt32 :=
  let flag (required : Bool) (bit : UInt32) : UInt32 := if required then bit else 0
  flag policy.requireMinimalPush minimalPushFlag
    ||| flag policy.requirePushOnlyUnlocking pushOnlyFlag
    ||| flag policy.requireLowS lowSFlag
    ||| flag policy.requireCleanStack cleanStackFlag
    ||| flag policy.requireNullDummy nullDummyFlag

/-- The policy with a bound on the number of steps. -/
def withMaxSteps (policy : Policy) (steps : UInt64) : Policy :=
  { policy with maxSteps := some steps }

end Policy

end ScriptSpend
