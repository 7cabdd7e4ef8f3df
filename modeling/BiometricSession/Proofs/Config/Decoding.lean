import BiometricSession.Config.Basic
import BiometricSession.Proofs.Data.Record

/-!
# Configurations are decoded as what was encoded

Each part of a configuration, and so the whole, is decoded from the data that
stands for it, whatever notation the data was written in.
-/

namespace BiometricSession

open RecordDecoder

variable (source : Notation)

theorem Modality.decoder_encode (modality : Modality) :
    Modality.decoder source modality.encode = .ok modality := by
  cases modality <;> rfl

theorem codes_encoded (codes : List Int32) :
    Decoder.list .int32 source (.list (codes.map .int32)) = .ok codes :=
  Decoder.list_encoded (Decoder.int32_encoded source) codes

theorem EnrollConfig.decoder_encode (config : EnrollConfig) (title : String) :
    EnrollConfig.record.decoder title source config.encode = .ok config := by
  apply Accepts.decoder_table
  · have acquire := codes_encoded source config.acquireIgnorelist
    have vendor := codes_encoded source config.vendorIgnorelist
    have timeout := Decoder.uint32_encoded source config.timeoutSeconds
    exact (((accepts_withDefault rfl acquire _).map EnrollConfig.mk).seq
      (accepts_withDefault rfl vendor _)).seq (accepts_withDefault rfl timeout _)
  · simp

theorem AuthenticateConfig.decoder_encode (config : AuthenticateConfig) (title : String) :
    AuthenticateConfig.record.decoder title source config.encode = .ok config := by
  apply Accepts.decoder_table
  · have acquire := codes_encoded source config.acquireIgnorelist
    have vendor := codes_encoded source config.vendorIgnorelist
    have limit := Decoder.uint32_encoded source config.maxFailedAttempts
    exact (((accepts_withDefault rfl acquire _).map AuthenticateConfig.mk).seq
      (accepts_withDefault rfl vendor _)).seq (accepts_withDefault rfl limit _)
  · simp

theorem HapticsConfig.decoder_encode (config : HapticsConfig) (title : String) :
    HapticsConfig.record.decoder title source config.encode = .ok config := by
  apply Accepts.decoder_table
  · have success := Decoder.bool_encoded source config.successDefault
    have error := Decoder.bool_encoded source config.errorDefault
    exact ((accepts_withDefault rfl success _).map HapticsConfig.mk).seq
      (accepts_withDefault rfl error _)
  · simp

/-- A configuration is decoded from what it is encoded as. -/
theorem MonitorConfig.decoder_encode (config : MonitorConfig) :
    MonitorConfig.decoder source config.encode = .ok config := by
  apply Accepts.decoder_table
  · have modality := config.modality.decoder_encode source
    have enroll := config.enroll.decoder_encode source "struct EnrollConfig"
    have authenticate := config.authenticate.decoder_encode source "struct AuthenticateConfig"
    have haptics := config.haptics.decoder_encode source "struct HapticsConfig"
    exact ((((accepts_withDefault rfl modality _).map MonitorConfig.mk).seq
      (accepts_withDefault rfl enroll _)).seq (accepts_withDefault rfl authenticate _)).seq
      (accepts_withDefault rfl haptics _)
  · simp

end BiometricSession
