import ScriptSpend.Policy

/-!
# Policies in documents

A policy may be given in a document, as named settings or as a sequence of settings in a fixed
order. Settings that are left out keep the standard value, and names that belong to no setting are
ignored. A setting of the wrong kind or out of range spoils the document.

## Main definitions

* `Policy.Document`: what a document can hold, as far as policies tell it apart
* `Policy.ofDocument?`: the policy of a document
-/

namespace ScriptSpend.Policy

/-- A value in a document. -/
inductive Setting where
  | null
  | bool (b : Bool)
  | natural (n : Nat)
  | other

/-- A document. -/
inductive Document where
  | null
  | named (settings : List (String × Setting))
  | ordered (settings : List Setting)
  | other

namespace Setting

/-- A truth value. -/
def asBool? : Setting → Option Bool
  | bool b => some b
  | _ => none

/-- A number of 32 bits. -/
def asUInt32? : Setting → Option UInt32
  | natural n => if n < UInt32.size then some (UInt32.ofNat n) else none
  | _ => none

/-- A number of 64 bits. -/
def asUInt64? : Setting → Option UInt64
  | natural n => if n < UInt64.size then some (UInt64.ofNat n) else none
  | _ => none

/-- A number of 64 bits or its absence. -/
def asBound? : Setting → Option (Option UInt64)
  | null => some none
  | setting => setting.asUInt64?.map some

end Setting

/-- The names of the settings in the order in which a sequence gives them. -/
def settingNames : List String :=
  ["max_script_element_size", "max_multisig_key_count", "require_minimal_push",
    "require_push_only_unlocking_scripts", "require_low_s_signatures", "require_clean_stack",
    "require_null_dummy", "max_steps"]

/-- The policy with one setting changed. -/
def set? (policy : Policy) (name : String) (value : Setting) : Option Policy :=
  match name with
  | "max_script_element_size" => value.asUInt64?.map fun n => { policy with maxElementSize := n }
  | "max_multisig_key_count" => value.asUInt32?.map fun n => { policy with maxMultisigKeys := n }
  | "require_minimal_push" => value.asBool?.map fun b => { policy with requireMinimalPush := b }
  | "require_push_only_unlocking_scripts" =>
    value.asBool?.map fun b => { policy with requirePushOnlyUnlocking := b }
  | "require_low_s_signatures" => value.asBool?.map fun b => { policy with requireLowS := b }
  | "require_clean_stack" => value.asBool?.map fun b => { policy with requireCleanStack := b }
  | "require_null_dummy" => value.asBool?.map fun b => { policy with requireNullDummy := b }
  | "max_steps" => value.asBound?.map fun n => { policy with maxSteps := n }
  | _ => some policy

/-- The policy with several settings changed. -/
def setAll? (policy : Policy) : List (String × Setting) → Option Policy
  | [] => some policy
  | (name, value) :: rest => (policy.set? name value).bind fun changed => changed.setAll? rest

/-- The policy of a document; nothing if the document is refused. -/
def ofDocument? : Document → Option Policy
  | .null => some {}
  | .named settings => setAll? {} settings
  -- A sequence may be shorter than the list of settings, but not longer.
  | .ordered settings =>
    if settingNames.length < settings.length then none else setAll? {} (settingNames.zip settings)
  | .other => none

end ScriptSpend.Policy
