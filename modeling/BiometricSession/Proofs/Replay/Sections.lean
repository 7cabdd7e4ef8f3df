import BiometricSession.Proofs.Replay.Account
import BiometricSession.Proofs.Replay.Likeness

/-!
# Which part of the configuration a replay depends on

A configuration has a section for enrollments, one for authentications, and one about
haptics.  Each session takes something from its own section only: an enrollment which
acquisitions it keeps back, and the time it may take, which goes to the hardware and shows in
no line; an authentication what its section says.  Both need to know the modality, whose
vendor code a filter asks about, and both vibrate.  Removals and enumerations do neither, so
that no configuration makes them show anything else.
-/

namespace BiometricSession

/-! ## What a session does not distinguish -/

/-- An action that may differ from another in the time that it may take. -/
inductive BuiltinAction.Retimed : BuiltinAction → BuiltinAction → Prop
  | same (action : BuiltinAction) : Retimed action action
  | enrollment (authToken : List UInt8) (filter : AcquireFilter) (time other : UInt32) :
      Retimed (.enroll ⟨authToken, time, filter⟩) (.enroll ⟨authToken, other, filter⟩)

theorem BuiltinAction.Retimed.kind_eq {action other : BuiltinAction}
    (retimed : action.Retimed other) : other.kind = action.kind := by
  cases retimed <;> rfl

theorem BuiltinAction.Counts.kind_eq {before after : BuiltinAction}
    (counts : Counts before after) : after.kind = before.kind := by
  cases counts <;> rfl

/-- Settings that a session of some kind does not distinguish.  Only enrollments and
authentications vibrate. -/
def ClientKind.Overlooks : ClientKind → Setting → Setting → Prop
  | enroll, setting, other | authenticate, setting, other => setting = other
  | remove, setting, other | enumerate, setting, other =>
      other.descriptor = setting.descriptor

theorem ClientKind.Overlooks.descriptor_eq {kind : ClientKind} {setting other : Setting}
    (overlooks : kind.Overlooks setting other) : other.descriptor = setting.descriptor := by
  cases kind with
  | enroll | authenticate => exact congrArg Setting.descriptor overlooks.symm
  | remove | enumerate => exact overlooks

namespace Session

/-- What a session makes of an event depends neither on the time that it may take nor on
anything in its setting that it does not distinguish. -/
theorem reaction_overlooks {session : Session BuiltinAction} {other : BuiltinAction}
    (retimed : session.action.Retimed other) {setting otherSetting : Setting}
    (overlooks : session.action.kind.Overlooks setting otherSetting) (answers : Answers)
    (event : HardwareEvent) :
    let reaction := session.reaction setting answers event
    let image := (session.recast other).reaction otherSetting answers event
    reaction.action.Retimed image.action ∧ image.emission = reaction.emission := by
  obtain ⟨action, phase, cancelled, done, token, link, listening, destroyed, poisoned⟩ :=
    session
  obtain ⟨descriptor, modality, haptics⟩ := setting
  obtain ⟨otherDescriptor, otherModality, otherHaptics⟩ := otherSetting
  obtain rfl : otherDescriptor = descriptor := overlooks.descriptor_eq
  cases retimed with
  | enrollment authToken filter time time' =>
      cases overlooks
      cases event with
      | acquired | error => exact ⟨.enrollment .., rfl⟩
      | result outcome => cases outcome <;> exact ⟨.enrollment .., rfl⟩
  | same =>
      cases action with
      | enroll | authenticate =>
          cases overlooks
          exact ⟨.same _, rfl⟩
      | remove | enumerate =>
          cases event with
          | acquired | error => exact ⟨.same _, rfl⟩
          | result outcome => cases outcome <;> exact ⟨.same _, rfl⟩

end Session

/-! ## Worlds -/

theorem Effect.attempts_filter {shown : Effect → Bool}
    (keeps : ∀ event answer, shown (.delivery event answer) = true) (effects : List Effect) :
    attempts (effects.filter shown) = attempts effects := by
  unfold attempts
  rw [List.filterMap_filter]
  congr 1
  funext effect
  cases effect with
  | delivery event answer => simp [keeps, attempt?]
  | _ => simp [attempt?]

/-- Worlds in which a session of some kind may take another time, and may have another setting
that it does not distinguish.  What it requests when it starts does not count. -/
def Likeness.overlooking (kind : ClientKind) : Likeness BuiltinAction where
  shown _ effect := !effect.tellsRequest
  settings := kind.Overlooks
  actions _ action other := action.kind = kind ∧ action.Retimed other
  listeners _ := Eq
  preferences := Eq
  shown_unlink _ _ _ _ := rfl
  told := by
    rintro position listener _ effects others rfl shows
    have attempts_eq (list : List Effect) :
        Effect.attempts (list.filter fun effect => !effect.tellsRequest) =
          Effect.attempts list :=
      Effect.attempts_filter (fun _ _ => rfl) list
    rw [← attempts_eq effects, shows, attempts_eq]
  sessions := by
    rintro position setting otherSetting session other listener _ tastes _ hal refusal overlooks
      ⟨rfl, retimed⟩ rfl rfl
    have descriptor_eq := overlooks.descriptor_eq
    have lastWords : (session.recast other).lastWords otherSetting
        (.given hal tastes listener refusal) =
          session.lastWords setting (.given hal tastes listener refusal) := by
      unfold Session.lastWords
      rw [show HardwareAction.kind (session.recast other).action = _ from retimed.kind_eq]
      simp only [Scope.reportError, Scope.user, Scope.device, Session.scope, descriptor_eq]
      rfl
    refine ⟨⟨rfl, retimed⟩, retimed.kind_eq, ?_, descriptor_eq, rfl, rfl, rfl, ?_, ?_, ?_⟩
    · rintro ⟨effect, tells, shows⟩
      simp [tells] at shows
    · intro event
      obtain ⟨kept, emission_eq⟩ :=
        Session.reaction_overlooks retimed overlooks (.given hal tastes listener refusal) event
      have counts := Session.counts_reaction setting (.given hal tastes listener refusal)
        session event
      refine ⟨⟨counts.kind_eq, kept⟩, by rw [emission_eq], ?_, by rw [emission_eq]⟩
      rw [emission_eq]
      exact .refl _
    · rw [lastWords]
    · rw [lastWords]

/-! ## Lines -/

namespace ReplayLine

/-- Whether a line shows that the hardware is asked to start. -/
def isStart : ReplayLine → Bool
  | halStart .. => true
  | _ => false

end ReplayLine

theorem Likeness.covers_overlooking (kind : ClientKind) :
    (overlooking kind).Covers fun line => !line.isStart := by
  intro position effect line isLine counted
  cases effect with
  | halStart descriptor request answer =>
      obtain rfl := Option.some.inj isLine
      cases counted
  | notice => cases isLine
  | _ => rfl

theorem Operation.isStart_of_shows {descriptor : SessionDescriptor} {stopStatus : Int32}
    {operation : Operation} {line : ReplayLine}
    (shown : operation.shows descriptor stopStatus line) : line.isStart = false := by
  cases line with
  | halStart =>
      cases operation with
      | start | destroy | callback => cases shown
      | stop | clientDied => cases shown
  | _ => rfl

theorem ScriptEvent.isStart_of_shows {script : ReplayScript} {cookie : Int32}
    {event : ScriptEvent} {line : ReplayLine} (shown : event.shows script cookie line) :
    line.isStart = false := by
  unfold shows at shown
  split at shown
  · exact Operation.isStart_of_shows shown
  · rw [shown]
    rfl

/-- After the start, no event asks the hardware to start again. -/
theorem EventLines.Accounts.isStart_eq_false {script : ReplayScript} {cookie : Int32}
    {event : ScriptEvent} {block : EventLines} (accounts : block.Accounts script cookie event)
    {line : ReplayLine} (member : line ∈ block.lines) : line.isStart = false := by
  rcases accounts.line_cases member with rfl | ⟨notified, rfl⟩ | shown | closes
  · rfl
  · rfl
  · exact ScriptEvent.isStart_of_shows shown
  · cases line with
    | halStart => cases event <;> cases closes
    | _ => rfl

/-! ## Sections -/

/-- Configurations that agree on what a session of some kind takes from them. -/
def MonitorConfig.AgreesFor : ClientKind → MonitorConfig → MonitorConfig → Prop
  | .enroll, config, other =>
      config.modality = other.modality ∧
        config.enroll.acquireIgnorelist = other.enroll.acquireIgnorelist ∧
        config.enroll.vendorIgnorelist = other.enroll.vendorIgnorelist ∧
        config.haptics = other.haptics
  | .authenticate, config, other =>
      config.modality = other.modality ∧ config.authenticate = other.authenticate ∧
        config.haptics = other.haptics
  | .remove, _, _ | .enumerate, _, _ => True

namespace ReplayScript

variable (script : ReplayScript) (config : MonitorConfig)

/-- A replay asks the hardware to start once, at its beginning. -/
theorem lines_runWith_eq_cons (processes : Nat → ProcessTable) (owner : Option UInt32)
    (strangers : Nat → Bool) (token : Option (ClientToken Nat)) (cookie : Int32) :
    let lines := (script.runWith processes config owner strangers token cookie).lines
    lines = .halStart script.session.kind script.hal.startStatus ::
      lines.filter fun line => !line.isStart := by
  intro lines
  obtain ⟨monitor, after, blocks, played, all⟩ :=
    script.runWith_in_blocks config processes owner strangers token cookie
  have later : ∀ line ∈ blocks.flatMap (·.lines) ++
      (if ScriptEvent.destroy ∈ script.events then [] else [ReplayLine.destroyed]),
      (!line.isStart) = true := by
    intro line member
    rcases List.mem_append.mp member with inBlock | ending
    · obtain ⟨block, isBlock, isLine⟩ := List.mem_flatMap.mp inBlock
      obtain ⟨event, accounts⟩ := EventLines.exists_accounted played.accounts isBlock
      simp [accounts.isStart_eq_false isLine]
    · split at ending
      · cases ending
      · rw [List.mem_singleton.mp ending]
        rfl
  have all : lines = _ := all
  rw [all, List.filter_append, List.filter_eq_self.mpr later]
  rfl

end ReplayScript

namespace MonitorConfig

variable {config other : MonitorConfig}

theorem AgreesFor.overlooks {kind : ClientKind} (agree : AgreesFor kind config other)
    (descriptor : SessionDescriptor) :
    kind.Overlooks (config.setting descriptor) (other.setting descriptor) := by
  cases kind with
  | enroll =>
      obtain ⟨modality_eq, _, _, haptics_eq⟩ := agree
      simp only [ClientKind.Overlooks, setting, modality_eq, haptics_eq]
  | authenticate =>
      obtain ⟨modality_eq, _, haptics_eq⟩ := agree
      simp only [ClientKind.Overlooks, setting, modality_eq, haptics_eq]
  | remove | enumerate => rfl

theorem AgreesFor.retimed {spec : SessionSpec} (agree : AgreesFor spec.kind config other) :
    (spec.action config).kind = spec.kind ∧
      (spec.action config).Retimed (spec.action other) := by
  unfold SessionSpec.action
  cases isKind : spec.kind with
  | enroll =>
      rw [isKind] at agree
      obtain ⟨modality_eq, standard_eq, vendor_eq, _⟩ := agree
      refine ⟨rfl, ?_⟩
      simp only [enrollment, enrollFilter, modality_eq, standard_eq, vendor_eq]
      exact .enrollment ..
  | authenticate =>
      rw [isKind] at agree
      obtain ⟨modality_eq, section_eq, _⟩ := agree
      refine ⟨rfl, ?_⟩
      simp only [authentication, authenticateFilter, modality_eq, section_eq]
      exact .same _
  | remove | enumerate => exact ⟨rfl, .same _⟩

end MonitorConfig

/-- A replay depends on the configuration only through what its kind of session takes from it.
Under any two configurations that agree on the modality, on the acquisitions which enrollments
keep back, and on haptics, an enrollment shows the same lines; an authentication does so if
they agree on the modality, on the whole section about authentications, and on haptics; a
removal or an enumeration under any two.  Both replays take their cookie from the same
counter. -/
theorem ReplayScript.replay_depends_on_own_section (script : ReplayScript)
    {config other : MonitorConfig}
    (agree : MonitorConfig.AgreesFor script.session.kind config other)
    (processes : Nat → ProcessTable) (owner : Option UInt32) (strangers : Nat → Bool)
    (token : Option (ClientToken Nat)) (counter : CookieCounter) :
    (script.runWith processes config owner strangers token
        (script.session.takeCookie counter).1).lines =
      (script.runWith processes other owner strangers token
        (script.session.takeCookie counter).1).lines := by
  let kind := script.session.kind
  have same := script.filter_lines_runWith (Likeness.covers_overlooking kind)
    (agree.overlooks (script.session.descriptor (script.session.takeCookie counter).1))
    agree.retimed (fun _ => rfl) rfl processes owner strangers token
  rw [lines_runWith_eq_cons, same, ← lines_runWith_eq_cons]

/-- Two configurations that disagree on the time an enrollment may take and on all that
authentications take.  The enrollment keeps back what its own section lists, and not the
acquisition that only the other section lists; a rejection, which is none of its results,
finishes it under either. -/
theorem ReplayScript.replay_depends_on_own_section_enroll :
    let spec : SessionSpec := ⟨.enroll, 10, 20, false, "owner", 42, 1, 0, 0, [1, 2], true⟩
    let script : ReplayScript := ⟨spec, .standard, .standard,
      [.acquired AcquiredCode.partialImage 0, .acquired AcquiredCode.tooFast 0,
        .enrollResult 7 1, .authenticated 7 false []]⟩
    let config : MonitorConfig :=
      ⟨.fingerprint, ⟨[AcquiredCode.partialImage], [9], 60⟩, ⟨[], [], 5⟩, ⟨true, false⟩⟩
    let other : MonitorConfig :=
      ⟨.fingerprint, ⟨[AcquiredCode.partialImage], [9], 5⟩,
        ⟨[AcquiredCode.tooFast], [3], 1⟩, ⟨true, false⟩⟩
    let processes (_ : Nat) : ProcessTable := ⟨fun _ => true⟩
    let lines (config : MonitorConfig) : List ReplayLine :=
      (script.runWith processes config none (fun _ => false) (some (.fresh none))
        (script.session.takeCookie .initial).1).lines
    MonitorConfig.AgreesFor script.session.kind config other ∧
      lines config =
        [.halStart .enroll 0, .status .start 0, .verdict .acquired false,
          .delivered (.acquired 1 AcquiredCode.tooFast 0), .verdict .acquired false,
          .haptic .click, .delivered (.enrollResult 7 1), .verdict .enrollResult false,
          .verdict .authenticated true, .destroyed] ∧
      lines config = lines other := by
  intro spec script config other processes lines
  have agree : MonitorConfig.AgreesFor script.session.kind config other :=
    ⟨rfl, rfl, rfl, rfl⟩
  exact ⟨agree, by decide,
    replay_depends_on_own_section script agree processes none (fun _ => false)
      (some (.fresh none)) .initial⟩

end BiometricSession
