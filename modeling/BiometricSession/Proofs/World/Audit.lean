import BiometricSession.Proofs.Session.Audit
import BiometricSession.Proofs.World.Hearing
import BiometricSession.Proofs.World.Vetted
import Mathlib.Data.List.Basic

/-!
# The audit trail

From the making of a session to its being given up, the metrics hear of every acquisition
and every error that the session handles, of a lockout and of a leak, in the order in which
these happen, and of nothing else.  Neither the filter nor the listener has a say in that;
the listener may only not break off a call.
-/

namespace BiometricSession

/-- What a deed is to leave on record of the session of a kind at a position. -/
def WorldDeed.record (position : Nat) (kind : ClientKind) (deed : WorldDeed BuiltinAction) :
    List Effect :=
  match deed.before.monitor? position, deed.command with
  | some monitor, .perform number operation =>
      if number = position then
        monitor.session.operationRecord kind monitor.setting (deed.before.answers monitor)
          operation
      else
        []
  | some monitor, .drop number =>
      if number = position then monitor.session.leakRecord kind monitor.setting else []
  | _, _ => []

/-- The death of clients leaves nothing on record. -/
theorem Course.unrecorded {setting : Setting} {first last : Session BuiltinAction}
    {life : List SessionDeed} (course : Course setting first life last)
    (deaths : ∀ deed ∈ life, deed.operation = .clientDied true) :
    (life.flatMap (·.effects)).filter (·.audited) = [] := by
  induction course with
  | start => rfl
  | @perform middle life course answers operation ih =>
      rw [List.forall_mem_append] at deaths
      obtain rfl : operation = .clientDied true := deaths.2 _ (List.mem_singleton.mpr rfl)
      rw [List.flatMap_append, List.filter_append, ih deaths.1, List.flatMap_singleton]
      exact Session.unrecorded_clientDied setting answers middle true

namespace World

variable {world : World BuiltinAction} {position : Nat}

/-- A command that asks sessions only to hear of deaths leaves nothing on record. -/
theorem unrecorded_obey {command : WorldCommand BuiltinAction}
    (deaths : command.asks = (· = .clientDied true))
    (noMake : ∀ setting action token listener,
      command ≠ .make setting action token listener)
    (noDrop : command ≠ .drop position) :
    (effectsOf position (world.obey command).happenings).filter (·.audited) = [] := by
  have follows := obey_follows world command position noMake noDrop
  rw [deaths] at follows
  cases found : world.monitor? position with
  | none => rw [(follows.absent found).2, List.filter_nil]
  | some monitor =>
      obtain ⟨later, life, _, _, course, shows, deaths⟩ := follows.present monitor found
      rw [shows]
      exact course.unrecorded deaths

/-- A command leaves on record what it is to leave. -/
theorem recorded_obey (command : WorldCommand BuiltinAction) {kind : ClientKind}
    (sameKind : ∀ monitor, world.monitor? position = some monitor →
      monitor.session.action.kind = kind)
    (steady : Steady (WorldDeed.deliveries position ⟨world, command, world.obey command⟩)) :
    (effectsOf position (world.obey command).happenings).filter (·.audited) =
      WorldDeed.record position kind ⟨world, command, world.obey command⟩ := by
  cases command with
  | make setting action token listener =>
      have silent := effects_make_silent world setting action token listener position
      rw [Effect.filter_audited_eq_nil silent]
      unfold WorldDeed.record
      cases world.monitor? position <;> rfl
  | perform number operation =>
      by_cases here : number = position
      · subst here
        cases found : world.monitor? number with
        | none => simp [obey, WorldDeed.record, found]
        | some monitor =>
            rw [WorldDeed.deliveries, obey_perform found] at steady
            rw [obey_perform found]
            simp only [perform, WorldStep.map_happenings, effectsOf_effects, if_true] at steady ⊢
            rw [Session.recorded_perform _ _ _ _ steady, sameKind monitor found]
            simp [WorldDeed.record, found]
      · have owes : WorldDeed.record position kind
            ⟨world, .perform number operation, world.obey (.perform number operation)⟩ = [] := by
          cases standing : world.monitor? position <;> simp [WorldDeed.record, standing, here]
        rw [owes]
        cases found : world.monitor? number with
        | none => simp [obey, found]
        | some monitor =>
            rw [obey_perform found, WorldStep.map_happenings,
              (perform_other found operation here).2, List.filter_nil]
  | drop number =>
      by_cases here : number = position
      · subst here
        cases found : world.monitor? number with
        | none => simp [obey, WorldDeed.record, found]
        | some monitor =>
            rw [obey_drop found]
            simp only [drop, WorldStep.map_happenings, effectsOf_effects, if_true]
            rw [Session.recorded_drop, sameKind monitor found]
            simp [WorldDeed.record, found]
      · have owes : WorldDeed.record position kind
            ⟨world, .drop number, world.obey (.drop number)⟩ = [] := by
          cases standing : world.monitor? position <;> simp [WorldDeed.record, standing, here]
        rw [owes]
        cases found : world.monitor? number with
        | none => simp [obey, found]
        | some monitor =>
            rw [obey_drop found, WorldStep.map_happenings, (drop_other found here).2,
              List.filter_nil]
  | notifyDeath | watch | unlink | setHal | setPreference | setListener =>
      refine Eq.trans (unrecorded_obey rfl ?_ ?_) ?_
      · simp
      · simp
      · unfold WorldDeed.record
        cases world.monitor? position <;> rfl

/-- An acquisition that a session handles is recorded before any other call is made. -/
theorem calls_acquired {monitor : Monitor BuiltinAction}
    (found : world.monitor? position = some monitor) (isOpen : monitor.session.isOpen = true)
    (info vendor : Int32) :
    ∃ later, callsOf position
        (world.obey (.perform position (.callback (.acquired info vendor)))).happenings =
      .acquiredMetric monitor.session.action.kind info vendor
        monitor.setting.descriptor.targetUser :: later := by
  obtain ⟨later, shows⟩ := Session.acquired_first monitor.setting (world.answers monitor)
    info vendor isOpen
  have reported : monitor.session.recovery.filter (·.callsOut) = [] :=
    List.filter_eq_nil_iff.mpr fun effect reports => by
      simp [Session.recovery_callsOut reports]
  refine ⟨later.filter (·.callsOut), ?_⟩
  rw [obey_perform found, callsOf]
  simp only [perform, WorldStep.map_happenings, effectsOf_effects, if_true]
  rw [shows, List.filter_append, reported, List.nil_append, List.filter_cons_of_pos rfl]

/-- In a run in which a session is made, the session is always found as it was made. -/
theorem found_as_made (world : World BuiltinAction) (setting : Setting)
    (action : BuiltinAction) (token : Option Nat) (listener : Option Listener)
    (commands : List (WorldCommand BuiltinAction)) {deed : WorldDeed BuiltinAction}
    (member : deed ∈ world.deeds (.make setting action token listener :: commands))
    {monitor : Monitor BuiltinAction}
    (found : deed.before.monitor? world.monitors.length = some monitor) :
    monitor.setting = setting ∧
      monitor.session.action.terms setting = action.terms setting := by
  obtain ⟨earlier, later, split⟩ := List.append_of_mem member
  obtain ⟨first, second, same, _, before, _, _⟩ := deeds_split split
  rw [before] at found
  rcases first with _ | ⟨making, first⟩
  · exact absurd (lt_length_of_monitor? found) (Nat.lt_irrefl _)
  · obtain ⟨rfl, _⟩ := List.cons.inj same
    exact standing_make world setting action token listener first found

/-- The audit trail is complete and raw.  A session is made with one of the four actions, and
whatever a run does after that, as long as the session's listener breaks off no call: the
metrics and the sink of user activity hear of the session just what its deeds are to leave on
record, in order; an acquisition that it handles is recorded before any other call is made;
and an error is delivered right after its record, with the session's cookie. -/
theorem audit_trail_is_complete (world : World BuiltinAction) (setting : Setting)
    (action : BuiltinAction) (token : Option Nat) (listener : Option Listener)
    (commands : List (WorldCommand BuiltinAction))
    (steady : Steady (deliveries world.monitors.length
      (world.deeds (.make setting action token listener :: commands)))) :
    let position := world.monitors.length
    let deeds := world.deeds (.make setting action token listener :: commands)
    let user := setting.descriptor.targetUser
    (effectsDuring position deeds).filter (·.audited) =
        deeds.flatMap (·.record position action.kind) ∧
      (∀ deed ∈ deeds, ∀ info vendor monitor,
        deed.command = .perform position (.callback (.acquired info vendor)) →
          deed.before.monitor? position = some monitor → monitor.session.isOpen = true →
            ∃ later, callsOf position deed.step.happenings =
              .acquiredMetric action.kind info vendor user :: later) ∧
        ∀ earlier device error vendor cookie answer later,
          effectsDuring position deeds =
              earlier ++ .delivery (.error device error vendor cookie) answer :: later →
            cookie = setting.descriptor.cookie ∧
              ∃ before, earlier = before ++ [.errorMetric action.kind error vendor user] := by
  intro position deeds user
  have vetted := vetted_run world setting action token listener commands
  have asMade {deed} (member : deed ∈ deeds) {monitor}
      (found : deed.before.monitor? position = some monitor) :=
    found_as_made world setting action token listener commands member found
  refine ⟨?_, ?_, ?_⟩
  · unfold effectsDuring
    rw [List.filter_flatMap]
    refine List.flatMap_congr ?_
    intro deed member
    have calm : Steady (deed.deliveries position) := fun delivery isDelivery =>
      steady delivery (List.mem_flatMap.mpr ⟨deed, member, isDelivery⟩)
    have done := step_of_mem_deeds member
    obtain ⟨before, command, step⟩ := deed
    obtain rfl : step = before.obey command := done
    refine recorded_obey command ?_ calm
    intro monitor found
    exact congrArg Terms.kind (asMade member found).2
  · intro deed member info vendor monitor isEvent found isOpen
    have done := step_of_mem_deeds member
    obtain ⟨rfl, sameTerms⟩ := asMade member found
    obtain ⟨before, command, step⟩ := deed
    obtain rfl : step = before.obey command := done
    simp only at isEvent found
    subst isEvent
    have sameKind : monitor.session.action.kind = action.kind := congrArg Terms.kind sameTerms
    exact sameKind ▸ calls_acquired found isOpen info vendor
  · intro earlier device error vendor cookie answer later split
    exact vetted.recorded split

/-- Two acquisitions, of which the first is kept back and the second is good, and two
rejections, of which the second locks the user out, leave four entries on record; the error
after that is dropped, and so is the session, which is finished, without a record of a
leak. -/
theorem audit_trail_is_complete_lockout :
    let setting : Setting := ⟨⟨10, 20, false, "owner", 42, 1⟩, .fingerprint, .standard true⟩
    let action : BuiltinAction := .authenticate (.fresh 7 ⟨6, [1], []⟩ 2)
    let listener : Listener := .failingAfter none .sent
    let event (event : HardwareEvent) : WorldCommand BuiltinAction :=
      .perform 0 (.callback event)
    let rejection := event (.result (.authenticated default false []))
    let commands := [.perform 0 .start, event (.acquired 1 0), rejection,
      event (.acquired AcquiredCode.good 0), rejection, event (.error 1 3 0), .drop 0]
    let deeds :=
      (fresh [none]).deeds (.make setting action (some 0) (some listener) :: commands)
    Steady (deliveries 0 deeds) ∧
      (effectsDuring 0 deeds).filter (·.audited) =
        [.acquiredMetric .authenticate 1 0 10,
          .acquiredMetric .authenticate AcquiredCode.good 0 10, .userActivity 10,
          .errorMetric .authenticate ErrorCode.lockout 0 10] ∧
        (effectsDuring 0 deeds).filter (·.audited) =
          deeds.flatMap (·.record 0 .authenticate) := by
  intro setting action listener event rejection commands deeds
  have steady : Steady (deliveries 0 deeds) := by decide
  exact ⟨steady, by decide, (audit_trail_is_complete (fresh [none]) setting action (some 0)
    (some listener) commands steady).1⟩

end World

end BiometricSession
