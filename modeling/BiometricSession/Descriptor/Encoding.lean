import BiometricSession.Codes
import BiometricSession.Data.Decoder
import BiometricSession.Descriptor

/-!
# Descriptors as data

Descriptors of sessions and templates, kinds and modalities travel as data
values.  Decoding what was encoded gives the same thing back.
-/

namespace BiometricSession

namespace Modality

def encode (modality : Modality) : Data :=
  .text modality.name

def decoder : Decoder Modality :=
  Decoder.choice (all.map fun modality => (modality.name, modality))

end Modality

namespace ClientKind

def encode (kind : ClientKind) : Data :=
  .text kind.name

def decoder : Decoder ClientKind :=
  Decoder.choice (all.map fun kind => (kind.name, kind))

end ClientKind

namespace SessionDescriptor

def encode (descriptor : SessionDescriptor) : Data :=
  .table
    [("target_user_id", .int32 descriptor.targetUser),
      ("group_id", .int32 descriptor.group),
      ("is_restricted", .bool descriptor.restricted),
      ("owner", .text descriptor.owner),
      ("cookie", .int32 descriptor.cookie),
      ("hardware_device_id", .uint64 descriptor.device)]

/-- The fields of a descriptor, all of which must be there. -/
def record : RecordDecoder SessionDescriptor :=
  SessionDescriptor.mk
    <$> .required "target_user_id" .int32
    <*> .required "group_id" .int32
    <*> .required "is_restricted" .bool
    <*> .required "owner" .text
    <*> .required "cookie" .int32
    <*> .required "hardware_device_id" .uint64

def decoder : Decoder SessionDescriptor :=
  record.decoder "struct SessionDescriptor"

end SessionDescriptor

namespace BiometricIdentifier

def encode (identifier : BiometricIdentifier) : Data :=
  .table
    [("biometric_id", .int32 identifier.biometric),
      ("group_id", .int32 identifier.group),
      ("device_id", .uint64 identifier.device),
      ("name", .text identifier.name)]

/-- The fields of an identifier; a template need not have a name. -/
def record : RecordDecoder BiometricIdentifier :=
  BiometricIdentifier.mk
    <$> .required "biometric_id" .int32
    <*> .required "group_id" .int32
    <*> .required "device_id" .uint64
    <*> .withDefault "name" .text ""

def decoder : Decoder BiometricIdentifier :=
  record.decoder "struct BiometricIdentifier"

end BiometricIdentifier

end BiometricSession
