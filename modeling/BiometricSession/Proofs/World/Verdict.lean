import BiometricSession.Proofs.World.Rejections

/-!
# Every event gets the verdict that it deserves

In every run, an event finishes the session that handles it exactly when it should: if it
concludes the session, which for a rejection depends on how many came before it, or if the
client could not be told of something other than an error.  A session that is finished has
ended; any other session stays as it is but for its count of rejections.
-/

namespace BiometricSession

/-- Soundness of a session lasts. -/
theorem Session.soundness_lasts {Action : Type} [HardwareAction Action] :
    Lasting (Session.Sound : Session Action → Prop) fun _ => True where
  perform setting answers _ operation sound :=
    ⟨Session.sound_perform setting answers operation sound, fun _ _ => trivial⟩
  drop _ _ _ _ _ _ := trivial

/-- A deed in which the session at a position, made with an action, handles an event after some
rejections, and answers whether that has finished it. -/
structure WorldDeed.Judges (position : Nat) (action : BuiltinAction) (rejections : Nat)
    (event : HardwareEvent) (before after : Session BuiltinAction) (finished : Bool)
    (deed : WorldDeed BuiltinAction) : Prop where
  answer : deed.step.ending = .returned (.reply (.verdict finished))
  finished_iff : finished = true ↔ event.Concludes action.kind action.limit rejections ∨
    ∃ delivery ∈ deed.deliveries position,
      delivery.event.isError = false ∧ delivery.answer ≠ .sent
  silent : ∀ result, event = .result result → result.kind ≠ action.kind →
    World.callsOf position deed.step.happenings = []
  ended : finished = true → after.done = true ∧ after.phase = .terminated
  kept : finished = false → after = { before with action := after.action }

namespace World

variable {world : World BuiltinAction} {position : Nat} {setting : Setting}
  {action : BuiltinAction} {token : Option Nat} {listener : Option Listener}

/-- From its making on, a session is found to be sound. -/
theorem found_sound {commands : List (WorldCommand BuiltinAction)}
    {deed : WorldDeed BuiltinAction}
    (member : deed ∈ world.deeds (.make setting action token listener :: commands))
    {monitor : Monitor BuiltinAction}
    (found : deed.before.monitor? world.monitors.length = some monitor) :
    monitor.session.Sound := by
  obtain ⟨linked, monitors, _⟩ := make_eq world setting action token listener
  have place := monitor?_append world _ monitors world.monitors.length
  rw [if_pos rfl] at place
  rcases List.mem_cons.mp member with rfl | later
  · exact absurd (lt_length_of_monitor? found) (Nat.lt_irrefl _)
  · have made : StaysAt Session.Sound world.monitors.length
        (world.obey (.make setting action token listener)).world :=
      .of_found place (Session.sound_make action listener.isSome linked)
    exact (made.deeds Session.soundness_lasts commands deed later).1.within monitor found

/-- A session gives a due verdict on an event that it handles. -/
theorem judges_obey {monitor : Monitor BuiltinAction}
    (found : world.monitor? position = some monitor) (isOpen : monitor.session.isOpen = true)
    {count : Nat} (tallied : monitor.session.Tallied action count) {event : HardwareEvent}
    {deed : WorldDeed BuiltinAction}
    (isDeed : deed = ⟨world, .perform position (.callback event),
      world.obey (.perform position (.callback event))⟩)
    (steady : Steady (deed.deliveries position)) :
    ∃ finished after listener,
      deed.step.world.monitor? position = some ⟨monitor.setting, after, listener⟩ ∧
        deed.Judges position action count event monitor.session after finished := by
  subst isDeed
  obtain ⟨listener, present⟩ := monitor?_perform found (.callback event)
  have effects := effectsOf_obey_perform found (.callback event)
  have untold : Effect.deliveries monitor.session.recovery = [] :=
    Effect.deliveries_eq_nil fun effect member => Session.recovery_callsOut member
  have sameKind : monitor.session.action.kind = action.kind := by
    rw [tallied.action_eq, BuiltinAction.kind_afterRejections]
  rw [WorldDeed.deliveries, effects] at steady
  obtain ⟨finished, returned, performed⟩ := Session.handled isOpen steady
  have verdict := Session.finishes_iff (tallied.locksOut_iff isOpen) returned
  rw [sameKind] at verdict
  refine ⟨finished, (monitor.session.perform monitor.setting (world.answers monitor)
    (.callback event)).session, listener, ?_, ?_, ?_, ?_, ?_, ?_⟩
  · rw [obey_perform found, WorldStep.map_world, present]
  · rw [obey_perform found, WorldStep.map_ending, perform, performed]
    rfl
  · rw [WorldDeed.deliveries, effects, performed, Effect.deliveries_append, untold]
    exact verdict
  · rintro result rfl foreign
    rw [callsOf, effects, Session.calls_callback, if_pos isOpen]
    exact Session.callsOut_foreign (sameKind ▸ foreign)
  · rintro rfl
    rw [performed]
    exact ⟨rfl, rfl⟩
  · rintro rfl
    rw [performed]
    rfl

/-- An event finishes a session just if that is due.  A session is made with one of the four
actions, and whatever a run does after that, as long as the session's listener breaks off no
call: an event that finds the session not ended is answered, and the answer is that the session
is finished just if the event concludes it or the client could not be told of something other
than an error; a result of another kind reaches nobody; a finished session has ended; and any
other session keeps all of its state but its action. -/
theorem events_get_due_verdicts (world : World BuiltinAction) (setting : Setting)
    (action : BuiltinAction) (isNew : action.isNew = true) (token : Option Nat)
    (listener : Option Listener) (commands : List (WorldCommand BuiltinAction))
    (steady : Steady (deliveries world.monitors.length
      (world.deeds (.make setting action token listener :: commands)))) :
    let position := world.monitors.length
    ∀ earlier deed later event monitor,
      world.deeds (.make setting action token listener :: commands) =
          earlier ++ deed :: later →
        deed.command = .perform position (.callback event) →
          deed.before.monitor? position = some monitor →
            monitor.session.phase ≠ .terminated →
              ∃ finished after listener,
                deed.step.world.monitor? position = some ⟨setting, after, listener⟩ ∧
                  deed.Judges position action (rejections position earlier) event
                    monitor.session after finished := by
  intro position earlier deed later event monitor split isEvent found live
  have member : deed ∈ world.deeds (.make setting action token listener :: commands) := by
    rw [split]
    exact List.mem_append_right _ List.mem_cons_self
  have undone : monitor.session.done = false := by
    rw [Bool.eq_false_iff]
    exact fun done => live ((found_sound member found).terminated_iff.mpr (.inl done))
  have isOpen : monitor.session.isOpen = true := Session.isOpen_of_live undone live
  have tallied := found_tallied isNew steady split found
  obtain ⟨rfl, _⟩ := found_as_made world setting action token listener commands member found
  exact judges_obey found isOpen tallied (deed_eq member isEvent) (steady_of_mem steady member)

/-- Of two rejections the second one reaches the limit, so that its verdict ends the session,
though the client takes both. -/
theorem events_get_due_verdicts_lockout :
    let setting : Setting := ⟨⟨10, 20, false, "owner", 42, 1⟩, .fingerprint, .standard true⟩
    let action : BuiltinAction := .authenticate (.fresh 7 (.empty 6) 2)
    let listener : Listener := .failingAfter none .sent
    let rejection : WorldCommand BuiltinAction :=
      .perform 0 (.callback (.result (.authenticated default false [])))
    let opening : List (WorldCommand BuiltinAction) :=
      [.make setting action none (some listener), .perform 0 .start, rejection,
        .perform 0 (.callback (.acquired 1 0))]
    let before := (fresh []).after opening
    Steady (deliveries 0 ((fresh []).deeds (opening ++ [rejection]))) ∧
      rejections 0 ((fresh []).deeds opening) = 1 ∧
        (before.obey rejection).ending = .returned (.reply (.verdict true)) ∧
          ∃ monitor, (before.obey rejection).world.monitor? 0 = some monitor ∧
            monitor.session.done = true ∧ monitor.session.phase = .terminated := by
  intro setting action listener rejection opening before
  have steady : Steady (deliveries 0 ((fresh []).deeds (opening ++ [rejection]))) := by decide
  have reached : rejections 0 ((fresh []).deeds opening) + 1 = action.limit := by decide
  have split : (fresh []).deeds (opening ++ [rejection]) =
      (fresh []).deeds opening ++ [⟨before, rejection, before.obey rejection⟩] :=
    deeds_append (fresh []) opening [rejection]
  cases found : before.monitor? 0 with
  | none => exact absurd found (by decide)
  | some monitor =>
      have live : (before.monitor? 0).all (·.session.phase != .terminated) = true := by decide
      rw [found, Option.all_some, bne_iff_ne] at live
      obtain ⟨finished, after, _, present, judges⟩ :=
        events_get_due_verdicts (fresh []) setting action (by decide) none (some listener) _
          steady _ _ _ _ monitor split rfl found live
      obtain rfl : finished = true :=
        judges.finished_iff.mpr (.inl (.lockedOut rfl (by decide) reached _ _))
      exact ⟨steady, by decide, judges.answer, _, present, judges.ended rfl⟩

end World

end BiometricSession
