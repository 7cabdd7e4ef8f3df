import BiometricSession.Proofs.Session.Teardown
import BiometricSession.Proofs.World.Mirror
import BiometricSession.Proofs.World.Rightful
import BiometricSession.Proofs.World.TornDown
import BiometricSession.Proofs.World.Veil

/-!
# Death and destruction in either order

A client may die just before its session is destroyed or just after.  Both orders lead
to the same tokens and to a session that is torn down; of the order it remembers whether
it was cancelled, and nothing that can be asked of it afterwards depends on that.

The other sessions of the client are told either way, but the hardware may answer their
stops otherwise when the first session has asked it before them.  Then the order decides
which of them count as cancelled, and it decides nothing else.
-/

namespace BiometricSession

namespace Monitor

variable {Action : Type} [HardwareAction Action]

/-- An operation that lets go of the token does not concern the listener. -/
theorem performed_of_releases (monitor : Monitor Action) (answers : Answers)
    {operation : Operation} (releases : operation.releases = true) :
    monitor.performed answers operation =
      { monitor with
        session := (monitor.session.perform monitor.setting answers operation).session } := by
  apply performed_of_untold
  rw [Effect.attempts_eq_map_deliveries, Session.deliveries_of_releases _ _ _ releases]
  rfl

/-- The session with its setting and its listener, without the memory of a
cancellation. -/
def uncancelled (monitor : Monitor Action) : Monitor Action :=
  { monitor with session := monitor.session.uncancelled }

theorem performed_destroy (monitor : Monitor Action) (answers : Answers) :
    monitor.performed answers .destroy =
      { monitor with session := monitor.session.destroyedSession } := by
  rw [monitor.performed_of_releases answers rfl,
    (monitor.session.destroy_returned monitor.setting answers).2]

end Monitor

/-- Hardware that answers all stops alike. -/
def Hal.StopsAlike (hal : Hal) : Prop :=
  ∀ call, hal.stop call = hal.stop 0

theorem Hal.StopsAlike.after_eq {hal : Hal} (stopsAlike : hal.StopsAlike)
    {effects : List Effect} (noStart : ∀ effect ∈ effects, effect.asksStart = false) :
    hal.after effects = hal := by
  have starts : effects.countP (·.asksStart) = 0 :=
    List.countP_eq_zero.mpr fun effect member => by simp [noStart effect member]
  have stops (call : Nat) : hal.stop (call + effects.countP (·.asksStop)) = hal.stop call :=
    (stopsAlike _).trans (stopsAlike call).symm
  simp only [Hal.after, starts, stops, Nat.add_zero]

namespace World

variable {Action : Type} {world : World Action} {position number token : Nat}
  {monitor : Monitor Action}

/-- A world in which sessions and links are in order and the hardware answers. -/
structure InOrder (world : World Action) : Prop where
  sound : world.Sound
  tidy : world.Tidy
  rightful : world.Rightful
  answering : world.hal.AnswersStops

variable [HardwareAction Action]

/-- The world once a token has died and then a session was destroyed. -/
def deathFirst (world : World Action) (token position : Nat) : World Action :=
  world.after [.notifyDeath token, .perform position .destroy]

/-- The world once a session was destroyed and then a token has died. -/
def destroyFirst (world : World Action) (token position : Nat) : World Action :=
  world.after [.perform position .destroy, .notifyDeath token]

theorem deathFirst_eq
    (found : (world.notifyDeath token).world.monitor? position = some monitor) :
    world.deathFirst token position =
      ((world.notifyDeath token).world.perform position monitor .destroy).world := by
  simp only [deathFirst, after_cons, after_nil, (obey_notifyDeath world token).1,
    obey_perform found, WorldStep.map_world]

theorem destroyFirst_eq (found : world.monitor? position = some monitor) :
    world.destroyFirst token position =
      ((world.perform position monitor .destroy).world.notifyDeath token).world := by
  simp only [destroyFirst, after_cons, after_nil, (obey_notifyDeath _ token).1,
    obey_perform found, WorldStep.map_world]

theorem monitor?_destroyed (found : world.monitor? position = some monitor) :
    (world.perform position monitor .destroy).world.monitor? position =
      some { monitor with session := monitor.session.destroyedSession } := by
  rw [monitor?_performed found, Monitor.performed_destroy]

theorem hal_destroy (world : World Action) (position : Nat) (monitor : Monitor Action) :
    (world.perform position monitor .destroy).world.hal = world.hal :=
  Hal.after_eq_self _ fun effect member =>
    Effect.unasked_of_quiet (Session.destroy_silent _ _ _ effect member)

/-- When a token dies, nobody asks the hardware to start. -/
theorem hal_tellAll (stopsAlike : world.hal.StopsAlike) (links : List (DeathLink Nat)) :
    (tellAll links world).world.hal = world.hal := by
  induction links generalizing world with
  | nil => rfl
  | cons link links ih =>
      unfold tellAll
      cases found : world.monitor? link.recipient with
      | none => exact ih stopsAlike
      | some monitor =>
          have same :
              (world.perform link.recipient monitor (.clientDied true)).world.hal = world.hal :=
            stopsAlike.after_eq (Session.asksStart_of_releases _ _ _ rfl)
          simp only
          cases (world.perform link.recipient monitor (.clientDied true)).ending with
          | crashed crash => exact same
          | returned reply => exact (ih (same.symm ▸ stopsAlike)).trans same

theorem hal_notifyDeath (stopsAlike : world.hal.StopsAlike) (token : Nat) :
    (world.notifyDeath token).world.hal = world.hal := by
  rcases World.notifyDeath_cases world token with ⟨state, _, _, told⟩ | ⟨_, nothing⟩
  · have marked : (world.bereft token state).hal.StopsAlike := stopsAlike
    rw [told]
    exact hal_tellAll marked state.links
  · rw [nothing]

variable [ScopedAction Action]

theorem InOrder.destroy (inOrder : world.InOrder)
    (found : world.monitor? position = some monitor) :
    (world.perform position monitor .destroy).world.InOrder := by
  have obeyed : (world.obey (.perform position .destroy)).world =
      (world.perform position monitor .destroy).world := by
    rw [obey_perform found, WorldStep.map_world]
  rw [← obeyed]
  refine ⟨inOrder.sound.obey _, inOrder.tidy.obey _,
    inOrder.rightful.obey inOrder.sound inOrder.tidy _, ?_⟩
  rw [obeyed, hal_destroy]
  exact inOrder.answering

/-! ## The sessions -/

omit [ScopedAction Action] in
/-- What a session has gone through when a token has died while the hardware answers. -/
theorem InOrder.notifyDeath_cases (inOrder : world.InOrder)
    (found : world.monitor? position = some monitor) (token : Nat) :
    let death := world.notifyDeath token
    (world.Lists token position ∧
        ∃ answers : Answers, (∃ call, answers.stop = world.hal.stop call) ∧
          death.world.monitor? position =
              some (monitor.performed answers (.clientDied true)) ∧
            effectsOf position death.happenings =
              (monitor.session.perform monitor.setting answers (.clientDied true)).effects) ∨
      ¬ world.Lists token position ∧ death.world.monitor? position = some monitor ∧
        effectsOf position death.happenings = [] := by
  intro death
  by_cases listed : world.Lists token position
  · obtain ⟨answers, hears, effects, present⟩ :=
      notifyDeath_listed inOrder.sound inOrder.tidy inOrder.answering listed found
    exact .inl ⟨listed, answers, hears, present, effects⟩
  · obtain ⟨stays, nothing⟩ := notifyDeath_other listed
    exact .inr ⟨listed, stays.trans found, nothing⟩

omit [ScopedAction Action] in
theorem InOrder.survives (inOrder : world.InOrder)
    (found : world.monitor? position = some monitor) (token : Nat) :
    ∃ mourning, (world.notifyDeath token).world.monitor? position = some mourning := by
  rcases inOrder.notifyDeath_cases found token with ⟨_, _, _, present, _⟩ | ⟨_, present, _⟩
  · exact ⟨_, present⟩
  · exact ⟨_, present⟩

theorem InOrder.lists_destroy (inOrder : world.InOrder)
    (found : world.monitor? position = some monitor) (other : number ≠ position) :
    (world.perform position monitor .destroy).world.Lists token number ↔
      world.Lists token number := by
  have tokens_eq := tokens_perform world position monitor .destroy
  rw [if_pos rfl] at tokens_eq
  refine ⟨lists_of_sheds (tokens_eq ▸ .released world monitor.session), ?_⟩
  rintro ⟨state, known, listed⟩
  obtain ⟨entry, isEntry, isNumber⟩ := List.mem_map.mp listed
  unfold Lists
  rw [tokens_eq]
  by_cases holds : ∃ link, monitor.session.Holds token link
  · obtain ⟨link, holds⟩ := holds
    have owns := inOrder.rightful position monitor token link found holds
    refine ⟨state.without link, by rw [released_of_holds holds, known]; rfl, ?_⟩
    have kept : entry.number ≠ link := by
      intro same
      exact other (isNumber.symm.trans (owns.own state entry known isEntry same))
    exact List.mem_map.mpr ⟨entry, List.mem_filter.mpr ⟨isEntry, by simpa using kept⟩, isNumber⟩
  · exact ⟨state, by rw [released_of_not_holds (not_exists.mp holds), known], listed⟩

/-- Another session hears of the death in both orders or in neither.  So the order shows in
no view of it that does not depend on what the hardware answers to its stop. -/
theorem InOrder.others_alike (inOrder : world.InOrder)
    (found : world.monitor? position = some monitor) (token : Nat)
    (other : number ≠ position) {View : Type} (view : Monitor Action → View)
    (blind : ∀ (neighbour : Monitor Action) (first second : Answers),
      (∃ call, first.stop = world.hal.stop call) →
        (∃ call, second.stop = world.hal.stop call) →
          view (neighbour.performed first (.clientDied true)) =
            view (neighbour.performed second (.clientDied true))) :
    ((world.deathFirst token position).monitor? number).map view =
      ((world.destroyFirst token position).monitor? number).map view := by
  -- a token lists the same neighbours before and after the destruction, which leaves them
  -- alone
  obtain ⟨mourning, isMourning⟩ := inOrder.survives found token
  have apart := (perform_other found .destroy (Ne.symm other)).1
  have destroyed := inOrder.destroy found
  rw [deathFirst_eq isMourning, destroyFirst_eq found,
    (perform_other isMourning .destroy (Ne.symm other)).1]
  cases present : world.monitor? number with
  | none =>
      rw [((follows_notifyDeath world token number).absent present).1,
        ((follows_notifyDeath _ token number).absent (apart.trans present)).1]
  | some neighbour =>
      rcases inOrder.notifyDeath_cases present token with
        ⟨listed, first, hears, told, _⟩ | ⟨unlisted, untold, _⟩
      · rcases destroyed.notifyDeath_cases (apart.trans present) token with
          ⟨_, second, hearsToo, toldToo, _⟩ | ⟨unlisted, _⟩
        · rw [hal_destroy] at hearsToo
          rw [told, toldToo]
          exact congrArg some (blind neighbour first second hears hearsToo)
        · exact absurd ((inOrder.lists_destroy found other).mpr listed) unlisted
      · rcases destroyed.notifyDeath_cases (apart.trans present) token with
          ⟨listed, _⟩ | ⟨_, untoldToo, _⟩
        · exact absurd ((inOrder.lists_destroy found other).mp listed) unlisted
        · rw [untold, untoldToo]

/-- The order decides at most whether another session counts as cancelled. -/
theorem InOrder.others (inOrder : world.InOrder)
    (found : world.monitor? position = some monitor) (token : Nat)
    (other : number ≠ position) :
    ((world.deathFirst token position).monitor? number).map Monitor.uncancelled =
      ((world.destroyFirst token position).monitor? number).map Monitor.uncancelled := by
  refine inOrder.others_alike found token other Monitor.uncancelled ?_
  rintro neighbour first second ⟨call, hears⟩ ⟨callToo, hearsToo⟩
  obtain ⟨code, answer⟩ := inOrder.answering call
  obtain ⟨codeToo, answerToo⟩ := inOrder.answering callToo
  have same := Session.clientDied_uncancelled neighbour.setting neighbour.session true
    (hears.trans answer) (hearsToo.trans answerToo)
  rw [neighbour.performed_of_releases first rfl, neighbour.performed_of_releases second rfl]
  exact congrArg (fun session => { neighbour with session }) same

/-- Hardware that answers all stops alike makes the order the same to the others. -/
theorem InOrder.others_of_stopsAlike (inOrder : world.InOrder)
    (stopsAlike : world.hal.StopsAlike)
    (found : world.monitor? position = some monitor) (token : Nat)
    (other : number ≠ position) :
    (world.deathFirst token position).monitor? number =
      (world.destroyFirst token position).monitor? number := by
  have same := inOrder.others_alike found token other id <| by
    rintro neighbour first second ⟨call, hears⟩ ⟨callToo, hearsToo⟩
    have alike : first.stop = second.stop :=
      (hears.trans (stopsAlike call)).trans (hearsToo.trans (stopsAlike callToo)).symm
    simp only [Monitor.performed,
      Session.clientDied_congr neighbour.setting neighbour.session alike]
  simpa only [Option.map_id_fun, id] using same

/-- The order is the same to a session that the token does not list. -/
theorem InOrder.others_of_unlisted (inOrder : world.InOrder)
    (found : world.monitor? position = some monitor) (other : number ≠ position)
    (unlisted : ¬ world.Lists token number) :
    (world.deathFirst token position).monitor? number = world.monitor? number ∧
      (world.destroyFirst token position).monitor? number = world.monitor? number := by
  obtain ⟨mourning, isMourning⟩ := inOrder.survives found token
  have apart := (perform_other found .destroy (Ne.symm other)).1
  rw [deathFirst_eq isMourning, destroyFirst_eq found,
    (perform_other isMourning .destroy (Ne.symm other)).1]
  refine ⟨(notifyDeath_other unlisted).1, ?_⟩
  exact (notifyDeath_other fun listed =>
    unlisted ((inOrder.lists_destroy found other).mp listed)).1.trans apart

/-! ## The tokens -/

theorem Tidy.tokens_notifyDeath (tidy : world.Tidy) (token : Nat) :
    (world.notifyDeath token).world.tokens = world.tokens.modify token ClientToken.dead := by
  rcases World.notifyDeath_cases world token with ⟨state, known, _, told⟩ | ⟨gone, nothing⟩
  · rw [told, tokens_tellAll, List.modify_eq_set_getElem?, known]
    rfl
  · rw [nothing]
    refine (modify_eq_self fun state known => ?_).symm
    cases alive : state.alive with
    | true => exact absurd (by simp [aliveAt, known, alive]) gone
    | false => simp [ClientToken.dead, ← alive, ← (tidy token state known).dead_bare alive]

omit [HardwareAction Action] [ScopedAction Action] in
/-- Whether a link is removed from a dead token or before the token dies is the same. -/
theorem released_of_dead {after : World Action}
    (died : after.tokens = world.tokens.modify token ClientToken.dead)
    (session : Session Action) :
    after.released session = (world.released session).modify token ClientToken.dead := by
  unfold released
  rw [died]
  cases session.token with
  | none => rfl
  | some home =>
      cases session.link with
      | none => rfl
      | some link =>
          by_cases here : home = token
          · subst here
            simp only [List.modify_modify_eq]
            rfl
          · exact (List.modify_modify_ne _ _ _ here).symm

omit [HardwareAction Action] [ScopedAction Action] in
/-- A dying token takes a link with it that is not removed. -/
theorem dead_of_released {session : Session Action}
    (own : ∀ home link, session.Holds home link → home = token) :
    (world.released session).modify token ClientToken.dead =
      world.tokens.modify token ClientToken.dead := by
  unfold released
  cases held : session.token with
  | none => rfl
  | some home =>
      cases linked : session.link with
      | none => rfl
      | some link =>
          obtain rfl := own home link ⟨held, linked⟩
          simp only [List.modify_modify_eq]
          rfl

theorem InOrder.tokens_eq (inOrder : world.InOrder)
    (found : world.monitor? position = some monitor) (token : Nat) :
    (world.deathFirst token position).tokens = (world.destroyFirst token position).tokens := by
  have died := inOrder.tidy.tokens_notifyDeath token
  have destroyed := tokens_perform world position monitor .destroy
  rw [if_pos rfl] at destroyed
  rw [destroyFirst_eq found, (inOrder.destroy found).tidy.tokens_notifyDeath, destroyed]
  -- a session that was told holds no link any more, so that destroying it removes none;
  -- one that was not told still removes its own
  rcases inOrder.notifyDeath_cases found token with
    ⟨listed, answers, ⟨call, hears⟩, told, _⟩ | ⟨_, untold, _⟩
  · obtain ⟨code, answer⟩ := inOrder.answering call
    have returned := (Session.clientDied_answered monitor.setting true
      (inOrder.sound position monitor found) (hears.trans answer)).1
    have bare := Session.bare_perform (inOrder.sound position monitor found) rfl returned
    rw [deathFirst_eq told, tokens_perform, if_pos rfl, dead_of_released]
    · rw [← died]
      simp only [Monitor.performed, released, bare.token_eq]
    · intro home link holds
      exact ((inOrder.rightful position monitor home link found holds).only token listed).symm
  · rw [deathFirst_eq untold, tokens_perform, if_pos rfl]
    exact released_of_dead died monitor.session

/-! ## The destroyed session -/

/-- The session is torn down in either order and differs in the memory of a cancellation
at most. -/
theorem InOrder.own (inOrder : world.InOrder)
    (found : world.monitor? position = some monitor) (token : Nat) :
    ∃ mourned : Session Action,
      (world.deathFirst token position).monitor? position =
          some { monitor with session := mourned } ∧
        (world.destroyFirst token position).monitor? position =
            some { monitor with session := monitor.session.destroyedSession } ∧
          mourned.TornDown ∧ monitor.session.destroyedSession.TornDown ∧
            mourned.atRest = monitor.session.destroyedSession.atRest := by
  have sound := inOrder.sound position monitor found
  have tornDown := sound.destroyedSession.tornDown rfl
  have destroyed := inOrder.destroy found
  have gone := monitor?_destroyed found
  have second : (world.destroyFirst token position).monitor? position =
      some { monitor with session := monitor.session.destroyedSession } := by
    rw [destroyFirst_eq found]
    rcases destroyed.notifyDeath_cases gone token with
      ⟨_, answers, _, told, _⟩ | ⟨_, untold, _⟩
    · rw [told, Monitor.performed_of_releases _ _ rfl, tornDown.perform]
    · exact untold
  rcases inOrder.notifyDeath_cases found token with
    ⟨_, answers, ⟨call, hears⟩, told, _⟩ | ⟨_, untold, _⟩
  · obtain ⟨code, answer⟩ := inOrder.answering call
    have first := monitor?_destroyed told
    rw [← deathFirst_eq told, monitor.performed_of_releases answers rfl] at first
    have mournedSound := Session.sound_perform monitor.setting answers (.clientDied true) sound
    exact ⟨_, first, second, mournedSound.destroyedSession.tornDown rfl, tornDown,
      Session.destroy_after_death monitor.setting sound (hears.trans answer)⟩
  · have first := monitor?_destroyed untold
    rw [← deathFirst_eq untold] at first
    exact ⟨_, first, second, tornDown, tornDown, rfl⟩

/-! ## What can be told afterwards -/

/-- If the hardware answers all stops alike, nothing that sessions share tells the orders
apart, and no session does once those that have ended forget whether they were
cancelled. -/
theorem InOrder.alike (inOrder : world.InOrder) (stopsAlike : world.hal.StopsAlike)
    (found : world.monitor? position = some monitor) (token : Nat) :
    (world.deathFirst token position).veiled .rest =
      (world.destroyFirst token position).veiled .rest := by
  obtain ⟨mourning, isMourning⟩ := inOrder.survives found token
  have death := shares_notifyDeath world token
  have deathAfter := shares_notifyDeath (world.perform position monitor .destroy).world token
  have length_eq := (follows_notifyDeath world token position).length_eq
  have stillAlike : (world.perform position monitor .destroy).world.hal.StopsAlike := by
    rw [hal_destroy]
    exact stopsAlike
  refine veiled_eq .rest (inOrder.tokens_eq found token) ?_ ?_ ?_ ?_ ?_
  · rw [deathFirst_eq isMourning, destroyFirst_eq found, hal_destroy,
      hal_notifyDeath stopsAlike, hal_notifyDeath stillAlike, hal_destroy]
  · rw [deathFirst_eq isMourning, destroyFirst_eq found, deathAfter.preferences_eq]
    exact death.preferences_eq
  · rw [deathFirst_eq isMourning, destroyFirst_eq found, deathAfter.strangers_eq]
    exact death.strangers_eq
  · rw [deathFirst_eq isMourning, destroyFirst_eq found,
      (follows_notifyDeath _ token position).length_eq]
    simpa [perform, settle] using length_eq
  · intro number
    by_cases here : number = position
    · subst here
      obtain ⟨mourned, first, second, _, _, alike⟩ := inOrder.own found token
      rw [first, second]
      exact congrArg (fun session => some { monitor with session }) alike
    · rw [inOrder.others_of_stopsAlike stopsAlike found token here]

omit [ScopedAction Action] in
theorem InOrder.unheard (inOrder : world.InOrder)
    (found : world.monitor? position = some monitor) (token : Nat) :
    ∀ deed ∈ world.deeds [.notifyDeath token, .perform position .destroy],
      deed.deliveries position = [] := by
  obtain ⟨mourning, isMourning⟩ := inOrder.survives found token
  have dying : Effect.deliveries
      (effectsOf position (world.obey (.notifyDeath token)).happenings) = [] := by
    rw [(obey_notifyDeath world token).2]
    rcases inOrder.notifyDeath_cases found token with
      ⟨_, answers, _, _, told⟩ | ⟨_, _, untold⟩
    · rw [told]
      exact Session.deliveries_of_releases _ _ _ rfl
    · rw [untold]
      rfl
  have leaving : Effect.deliveries (effectsOf position
      ((world.obey (.notifyDeath token)).world.obey (.perform position .destroy)).happenings) =
        [] := by
    rw [(obey_notifyDeath world token).1, obey_perform isMourning]
    simp only [WorldStep.map_happenings, perform, effectsOf_effects, if_true]
    exact Session.deliveries_of_releases _ _ _ rfl
  exact List.forall_mem_cons.mpr ⟨dying, List.forall_mem_singleton.mpr leaving⟩

/-- A session that is destroyed first reaches nobody any more. -/
theorem InOrder.uncalled (inOrder : world.InOrder)
    (found : world.monitor? position = some monitor) (token : Nat) :
    ∀ deed ∈ world.deeds [.perform position .destroy, .notifyDeath token],
      callsOf position deed.step.happenings = [] := by
  have sound := inOrder.sound position monitor found
  have gone := monitor?_destroyed found
  have leaving : callsOf position (world.obey (.perform position .destroy)).happenings = [] := by
    rw [obey_perform found]
    simp only [callsOf, WorldStep.map_happenings, perform, effectsOf_effects, if_true]
    refine List.filter_eq_nil_iff.mpr fun effect member => ?_
    simp [Session.destroy_silent _ _ _ effect member]
  have dying : callsOf position
      ((world.obey (.perform position .destroy)).world.obey (.notifyDeath token)).happenings =
        [] := by
    rw [obey_perform found, WorldStep.map_world, (obey_notifyDeath _ token).2, callsOf]
    rcases (inOrder.destroy found).notifyDeath_cases gone token with
      ⟨_, answers, _, _, told⟩ | ⟨_, _, untold⟩
    · rw [told]
      refine List.filter_eq_nil_iff.mpr fun effect member => ?_
      have terminated := (sound.destroyedSession.tornDown rfl).terminated
      simp [(Session.perform_of_terminated _ _ _ terminated).2.1 effect member]
    · rw [untold]
      rfl
  exact List.forall_mem_cons.mpr ⟨leaving, List.forall_mem_singleton.mpr dying⟩

omit [ScopedAction Action] in
/-- Worlds that differ only in what ended sessions remember of a cancellation answer
every command in the same way, and the same happens in them. -/
theorem answers_of_alike {first second : World Action}
    (alike : first.veiled .rest = second.veiled .rest) (later : List (WorldCommand Action)) :
    (first.deeds later).map (fun deed => (deed.step.ending, deed.step.happenings)) =
      (second.deeds later).map fun deed => (deed.step.ending, deed.step.happenings) := by
  have shown (happenings : List Happening) :
      happenings.filter (Happening.visible (.rest : Veil Action)) = happenings := by
    refine List.filter_eq_self.mpr fun happening _ => ?_
    cases happening <;> rfl
  have same := congrArg (List.map fun step => (step.ending, step.happenings))
    (deeds_seen alike later)
  simpa only [List.map_map, Function.comp_def, WorldStep.seen, shown] using same

/-- What comes of the death of a token and the destruction of a session in a world, in
either order. -/
structure EitherOrder (world : World Action) (token position : Nat)
    (monitor : Monitor Action) : Prop where
  /-- The session is torn down, with the action and the verdict that it had, and remembers
  of the order whether it was cancelled. -/
  own : ∃ mourned spared : Session Action,
    (world.deathFirst token position).monitor? position =
        some { monitor with session := mourned } ∧
      (world.destroyFirst token position).monitor? position =
          some { monitor with session := spared } ∧
        mourned.TornDown ∧ spared.TornDown ∧
          mourned = { spared with cancelled := mourned.cancelled } ∧
            spared.done = monitor.session.done ∧ spared.action = monitor.session.action
  tokens_eq :
    (world.deathFirst token position).tokens = (world.destroyFirst token position).tokens
  dead : ∀ state, (world.destroyFirst token position).tokens[token]? = some state →
    state.alive = false ∧ state.links = []
  /-- The other sessions remember of the order at most whether they were cancelled. -/
  others : ∀ number, number ≠ position →
    ((world.deathFirst token position).monitor? number).map Monitor.uncancelled =
      ((world.destroyFirst token position).monitor? number).map Monitor.uncancelled
  /-- Those that the token does not list are left alone. -/
  unlisted : ∀ number, number ≠ position → ¬ world.Lists token number →
    (world.deathFirst token position).monitor? number = world.monitor? number ∧
      (world.destroyFirst token position).monitor? number = world.monitor? number
  /-- In neither order does the session tell its client anything. -/
  unheard : ∀ deed ∈ world.deeds [.notifyDeath token, .perform position .destroy] ++
      world.deeds [.perform position .destroy, .notifyDeath token],
    deed.deliveries position = []
  /-- Once destroyed, the session calls neither the hardware nor anybody else. -/
  uncalled : ∀ deed ∈ world.deeds [.perform position .destroy, .notifyDeath token],
    callsOf position deed.step.happenings = []
  /-- Whatever is asked of the session afterwards is answered alike, and the same happens,
  however its collaborators answer by then. -/
  continued : ∀ later, (∀ command ∈ later, command.isAbout position = true) →
    ((world.deathFirst token position).deeds later).map
        (fun deed => (deed.step.ending, deed.step.happenings)) =
      ((world.destroyFirst token position).deeds later).map
        fun deed => (deed.step.ending, deed.step.happenings)
  /-- If the hardware answers all stops alike, the other sessions do not remember the order
  at all, and whatever is asked of the world afterwards is answered alike. -/
  indifferent : world.hal.StopsAlike →
    (∀ number, number ≠ position →
      (world.deathFirst token position).monitor? number =
        (world.destroyFirst token position).monitor? number) ∧
    ∀ later,
      ((world.deathFirst token position).deeds later).map
          (fun deed => (deed.step.ending, deed.step.happenings)) =
        ((world.destroyFirst token position).deeds later).map
          fun deed => (deed.step.ending, deed.step.happenings)

/-- In every run, while the hardware answers, a token that dies before a session is
destroyed leaves the same tokens and the same sessions as one that dies after, but for
what sessions remember of a cancellation; of the destroyed session nothing depends on
that any more. -/
theorem death_and_destruction_commute (processes : List (Option UInt32))
    (commands : List (WorldCommand Action)) (position token : Nat) {monitor : Monitor Action}
    (found : ((fresh processes).after commands).monitor? position = some monitor)
    (answering : ((fresh processes).after commands).hal.AnswersStops) :
    EitherOrder ((fresh processes).after commands) token position monitor := by
  have freshSound : (fresh processes : World Action).Sound := sound_fresh processes
  have freshTidy : (fresh processes : World Action).Tidy := tidy_fresh processes
  have inOrder : ((fresh processes).after commands).InOrder :=
    ⟨freshSound.after commands, freshTidy.after commands,
      (rightful_fresh processes).after freshSound freshTidy commands, answering⟩
  generalize (fresh processes : World Action).after commands = world at *
  obtain ⟨mourned, first, second, tornDown, tornDownToo, alike⟩ := inOrder.own found token
  have differ := Session.eq_of_atRest_eq alike tornDown.terminated tornDownToo.terminated
  have remains : TornAlike position (world.deathFirst token position)
      (world.destroyFirst token position) := .torn first second tornDown tornDownToo alike
  refine ⟨⟨mourned, _, first, second, tornDown, tornDownToo, differ, rfl, rfl⟩,
    inOrder.tokens_eq found token, ?_, fun number => inOrder.others found token,
    fun number => inOrder.others_of_unlisted found, ?_, inOrder.uncalled found token,
    remains.deeds, ?_⟩
  · intro state known
    rw [destroyFirst_eq found, (inOrder.destroy found).tidy.tokens_notifyDeath,
      List.getElem?_modify_eq] at known
    obtain ⟨before, _, rfl⟩ := Option.map_eq_some_iff.mp known
    exact ⟨rfl, rfl⟩
  · intro deed member
    rcases List.mem_append.mp member with deathFirst | destroyFirst
    · exact inOrder.unheard found token deed deathFirst
    · exact WorldDeed.deliveries_eq_of_calls (inOrder.uncalled found token deed destroyFirst)
  · intro stopsAlike
    exact ⟨fun number => inOrder.others_of_stopsAlike stopsAlike found token,
      answers_of_alike (inOrder.alike stopsAlike found token)⟩

/-- A running session whose client dies before it is destroyed asks the hardware to stop
and remembers that; one that is destroyed first does not.  A start, an event, a second
destruction and its being given up do not tell the two apart, whatever the hardware
answers by then, and a second session of the same client is told of the death either
way. -/
theorem death_and_destruction_commute_running :
    let setting : Setting := ⟨⟨10, 20, false, "owner", 42, 1⟩, .fingerprint, .standard true⟩
    let listener : Listener := .failingAfter none (.refused .channelClosed)
    let making : WorldCommand BuiltinAction := .make setting .enumerate (some 0) listener
    let commands : List (WorldCommand BuiltinAction) := [making, making, .perform 0 .start]
    let world := (fresh [none]).after commands
    let later : List (WorldCommand BuiltinAction) :=
      [.setHal (.steady (.status 0) (.crash 5)), .perform 0 .start,
        .perform 0 (.callback (.error 0 1 0)), .perform 0 .destroy, .drop 0]
    ((world.deathFirst 0 0).monitor? 0).map (·.session.cancelled) = some true ∧
      ((world.destroyFirst 0 0).monitor? 0).map (·.session.cancelled) = some false ∧
        (world.deathFirst 0 0).tokens = (world.destroyFirst 0 0).tokens ∧
          (world.deathFirst 0 0).monitor? 1 = (world.destroyFirst 0 0).monitor? 1 ∧
            ((world.deathFirst 0 0).deeds later).map
                (fun deed => (deed.step.ending, deed.step.happenings)) =
              ((world.destroyFirst 0 0).deeds later).map
                fun deed => (deed.step.ending, deed.step.happenings) := by
  intro setting listener making commands world later
  have either : EitherOrder world 0 0 _ :=
    death_and_destruction_commute [none] commands 0 0 rfl fun _ => ⟨0, rfl⟩
  have mourned : ((world.deathFirst 0 0).monitor? 0).map (·.session.cancelled) = some true := by
    decide +kernel
  have spared : ((world.destroyFirst 0 0).monitor? 0).map (·.session.cancelled) = some false := by
    decide +kernel
  exact ⟨mourned, spared, either.tokens_eq, (either.indifferent fun _ => rfl).1 1 (by decide),
    either.continued later (by decide)⟩

/-- Hardware that accepts the first stop and refuses the second makes the order show in
another session: it stays uncancelled if the first session has asked before it, and is
cancelled if that was destroyed first and did not ask. -/
theorem cancellation_of_others_depends_on_order :
    let setting : Setting := ⟨⟨10, 20, false, "owner", 42, 1⟩, .fingerprint, .standard true⟩
    let listener : Listener := .failingAfter none (.refused .channelClosed)
    let making : WorldCommand BuiltinAction := .make setting .enumerate (some 0) listener
    let hal : Hal := ⟨fun _ => .status 0, fun call => .status (if call = 0 then 0 else 5)⟩
    let commands : List (WorldCommand BuiltinAction) :=
      [making, making, .perform 0 .start, .perform 1 .start, .setHal hal]
    let world := (fresh [none]).after commands
    world.hal.AnswersStops ∧
      ((world.deathFirst 0 0).monitor? 1).map (·.session.cancelled) = some false ∧
        ((world.destroyFirst 0 0).monitor? 1).map (·.session.cancelled) = some true ∧
          (world.deathFirst 0 0).monitor? 1 ≠ (world.destroyFirst 0 0).monitor? 1 := by
  intro setting listener making hal commands world
  obtain ⟨uncancelled, cancelled⟩ :
      ((world.deathFirst 0 0).monitor? 1).map (·.session.cancelled) = some false ∧
        ((world.destroyFirst 0 0).monitor? 1).map (·.session.cancelled) = some true := by
    decide +kernel +revert
  refine ⟨fun call => ⟨_, rfl⟩, uncancelled, cancelled, ?_⟩
  intro same
  rw [same, cancelled] at uncancelled
  cases uncancelled

end World

end BiometricSession
