import BiometricSession.Action.Basic

/-!
# Probes

A diagnostic action that uses everything an action can reach.  It asks the
hardware for a listing, expects removals only, and finishes with the first one
that leaves nothing remaining.
-/

namespace BiometricSession

/-- A diagnostic action that passes for one of the given kind. -/
structure Probe where
  kind : ClientKind
  deriving DecidableEq, Repr

namespace Probe

/-- A removal makes the probe use everything in its reach: it signals failure
and success, delivers the removal, and reports an error made of the numbers of
the removal. -/
def removed (probe : Probe) (scope : Scope) (identifier : BiometricIdentifier)
    (remaining : Int32) : Call Bool := do
  Call.emit
    [.probed scope.listening scope.setting.modality.logTag scope.setting.descriptor.owner
      scope.setting.modality.vendorCode]
  scope.signalFailure
  scope.signalSuccess
  let failure ← scope.deliver (.removed identifier remaining)
  Call.emit [.probeSent failure]
  scope.reportError probe.kind identifier.device remaining identifier.biometric
  return remaining ≤ 0

instance : HardwareAction Probe where
  kind := kind
  request _ := .enumerate
  filter _ := none
  respond scope probe
    | .removed identifier remaining =>
        ⟨probe, (probe.removed scope identifier remaining).run⟩
    | result => HardwareAction.unexpected probe probe.kind result

end Probe

end BiometricSession
