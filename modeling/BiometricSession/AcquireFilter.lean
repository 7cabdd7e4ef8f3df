import BiometricSession.Inspect

/-!
# Filters on acquisition messages

A client need not hear of every acquisition.  A filter names the standard
codes and the vendor codes to keep back; which list counts depends on whether
the acquisition is of the vendor's own kind.
-/

namespace BiometricSession

/-- Lists of acquisition messages that the client does not hear of. -/
structure AcquireFilter where
  /-- Acquisition code that refers to the vendor code. -/
  vendorSentinel : Int32
  /-- Standard codes to keep back. -/
  standard : List Int32
  /-- Vendor codes to keep back. -/
  vendor : List Int32
  deriving DecidableEq, Repr

namespace AcquireFilter

def empty (vendorSentinel : Int32) : AcquireFilter :=
  ⟨vendorSentinel, [], []⟩

/-- A message is kept back if its vendor code is listed, for messages of the
vendor's own kind, and if its standard code is listed, for all others. -/
def ignores (filter : AcquireFilter) (info vendorCode : Int32) : Bool :=
  if info = filter.vendorSentinel then
    filter.vendor.contains vendorCode
  else
    filter.standard.contains info

instance : Inspect AcquireFilter where
  inspect filter :=
    Inspect.record "AcquireFilter"
      [Inspect.part "vendor_sentinel" (inspect filter.vendorSentinel),
        Inspect.part "standard" (inspect filter.standard),
        Inspect.part "vendor" (inspect filter.vendor)]

end AcquireFilter

end BiometricSession
