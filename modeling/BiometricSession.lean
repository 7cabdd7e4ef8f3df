import BiometricSession.Action.Probe
import BiometricSession.Death.Cascade
import BiometricSession.Json.Reader
import BiometricSession.Main
import BiometricSession.Proofs.Action.Orderly
import BiometricSession.Proofs.Death.Cascade
import BiometricSession.Proofs.Death.History
import BiometricSession.Proofs.Death.LinkLife
import BiometricSession.Proofs.Death.Returning
import BiometricSession.Proofs.Death.Recorded
import BiometricSession.Proofs.Session.Hardware
import BiometricSession.Proofs.Session.Hearing
import BiometricSession.Proofs.Session.Life
import BiometricSession.Proofs.Session.Outcome
import BiometricSession.Proofs.Session.Soundness
import BiometricSession.Proofs.World.Cancellation
import BiometricSession.Proofs.World.Hearing
import BiometricSession.Proofs.World.Life
import BiometricSession.Proofs.World.Run
import BiometricSession.Proofs.World.Termination
import BiometricSession.Proofs.Action.Scoped
import BiometricSession.Proofs.Session.Holding
import BiometricSession.Proofs.World.Links
import BiometricSession.Proofs.World.Linked
import BiometricSession.Proofs.Session.Mourning
import BiometricSession.Proofs.World.Lasting
import BiometricSession.Proofs.World.Mourning
import BiometricSession.Proofs.World.Stopping
import BiometricSession.Proofs.World.Orphans
import BiometricSession.Proofs.Session.Numbering
import BiometricSession.Proofs.World.Mirror
import BiometricSession.Proofs.World.Interference
import BiometricSession.Proofs.Session.Aging
import BiometricSession.Proofs.World.Past
import BiometricSession.Proofs.Session.Handover
import BiometricSession.Proofs.World.Lifetime
import BiometricSession.Proofs.World.Handover
import BiometricSession.Proofs.Session.Veil
import BiometricSession.Proofs.Session.Crash
import BiometricSession.Proofs.Session.Teardown
import BiometricSession.Proofs.World.Veil
import BiometricSession.Proofs.World.Poison
import BiometricSession.Proofs.World.Rightful
import BiometricSession.Proofs.World.Teardown
import BiometricSession.Proofs.Action.Composed
import BiometricSession.Proofs.Action.Reports
import BiometricSession.Proofs.Action.Muted
import BiometricSession.Proofs.Session.Likeness
import BiometricSession.Proofs.World.Likeness
import BiometricSession.Proofs.World.Muted
import BiometricSession.Proofs.Session.Vetted
import BiometricSession.Proofs.World.Vetted
import BiometricSession.Proofs.Session.Filtering
import BiometricSession.Proofs.World.Filtering
import BiometricSession.Proofs.Session.Audit
import BiometricSession.Proofs.World.Audit
import BiometricSession.Proofs.Replay.Lines
import BiometricSession.Proofs.Replay.Scene
import BiometricSession.Proofs.Replay.Blocks
import BiometricSession.Proofs.Replay.Account
import BiometricSession.Proofs.Replay.Backing
import BiometricSession.Proofs.Replay.Probing
import BiometricSession.Proofs.Text.Decimal
import BiometricSession.Proofs.Text.Reader
import BiometricSession.Proofs.Toml.Scalar
import BiometricSession.Proofs.Toml.Statement
import BiometricSession.Proofs.Toml.Document
import BiometricSession.Proofs.Data.Decoder
import BiometricSession.Proofs.Data.Record
import BiometricSession.Proofs.Config.Decoding
import BiometricSession.Proofs.Config.RoundTrip
import BiometricSession.Proofs.Action.Telling
import BiometricSession.Proofs.Session.Verdict
import BiometricSession.Proofs.Session.Rejections
import BiometricSession.Proofs.World.Rejections
import BiometricSession.Proofs.World.Verdict
import BiometricSession.Proofs.World.Lockout
import BiometricSession.Proofs.World.Leaks
import BiometricSession.Proofs.Session.Feedback
import BiometricSession.Proofs.World.Feedback
import BiometricSession.Proofs.Replay.Likeness
import BiometricSession.Proofs.Replay.Sections
import BiometricSession.Proofs.Action.Breaking
import BiometricSession.Proofs.Session.Breaking
import BiometricSession.Proofs.Replay.Breaking
import BiometricSession.Proofs.Replay.Parting
import BiometricSession.Proofs.Cookie
import BiometricSession.Proofs.Replay.Cookies
import BiometricSession.Proofs.Replay.Format
import BiometricSession.Proofs.Config.Objects
import BiometricSession.Proofs.Replay.Reading
