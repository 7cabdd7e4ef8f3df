import BiometricSession.Proofs.Session.Numbering
import BiometricSession.Proofs.World.Mourning

/-!
# A session by itself

A world with many sessions is set beside a world in which one of them is alone.
The two agree on that session, on the life of its client's token, and on whether
the token lists it; only the numbers of links differ.  A command that concerns the
session does the same to it in both worlds, and every other command leaves it alone
in the larger one.
-/

namespace BiometricSession

/-- Of its collaborators' answers, a session hears only that of the hardware to a
stop when it handles its client's death. -/
theorem Session.clientDied_congr {Action : Type} [HardwareAction Action] (setting : Setting)
    (session : Session Action) {first second : Answers} (same : first.stop = second.stop)
    (clearListener : Bool) :
    session.perform setting first (.clientDied clearListener) =
      session.perform setting second (.clientDied clearListener) := by
  simp only [perform, clientDied, cancel, same]

namespace Monitor

variable {Action : Type} {first second : Monitor Action}

/-- Sessions that differ in the number of their link only, with the same setting and
the same listener. -/
structure Alike (first second : Monitor Action) : Prop where
  setting_eq : first.setting = second.setting
  session_eq : first.session.unnumbered = second.session.unnumbered
  listener_eq : first.listener = second.listener

theorem Alike.token_eq (alike : Alike first second) :
    first.session.token = second.session.token := by
  have same := congrArg Session.token alike.session_eq
  exact same

theorem Alike.linked_iff (alike : Alike first second) :
    (∃ link, first.session.link = some link) ↔ ∃ link, second.session.link = some link := by
  have same := congrArg (Option.isSome ·.link) alike.session_eq
  simp only [Session.unnumbered, Option.isSome_map] at same
  rw [← Option.isSome_iff_exists, ← Option.isSome_iff_exists, same]

theorem Alike.holds_iff (alike : Alike first second) {token : Nat} :
    (∃ link, first.session.Holds token link) ↔ ∃ link, second.session.Holds token link := by
  have linked := alike.linked_iff
  constructor
  · rintro ⟨link, holds⟩
    obtain ⟨other, isOther⟩ := linked.mp ⟨link, holds.link_eq⟩
    exact ⟨other, alike.token_eq.symm.trans holds.token_eq, isOther⟩
  · rintro ⟨link, holds⟩
    obtain ⟨other, isOther⟩ := linked.mpr ⟨link, holds.link_eq⟩
    exact ⟨other, alike.token_eq.trans holds.token_eq, isOther⟩

variable [HardwareAction Action] [ScopedAction Action]

omit [ScopedAction Action] in
theorem performed_congr {monitor : Monitor Action} {answers others : Answers}
    {operation : Operation}
    (same : monitor.session.perform monitor.setting answers operation =
      monitor.session.perform monitor.setting others operation) :
    monitor.performed answers operation = monitor.performed others operation := by
  simp only [performed, same]

theorem Alike.perform (alike : Alike first second) (answers : Answers)
    (operation : Operation) :
    (first.session.perform first.setting answers operation).unnumbered =
      (second.session.perform second.setting answers operation).unnumbered := by
  rw [Session.perform_unnumbered, Session.perform_unnumbered, alike.setting_eq,
    alike.session_eq]

theorem Alike.performed (alike : Alike first second) (answers : Answers)
    (operation : Operation) :
    Alike (first.performed answers operation) (second.performed answers operation) := by
  have same := alike.perform answers operation
  have attempts := congrArg (fun step => Effect.attempts step.effects) same
  simp only [Step.unnumbered, Effect.attempts_unnumbered] at attempts
  refine ⟨alike.setting_eq, congrArg Step.session same, ?_⟩
  simp only [Monitor.performed, alike.listener_eq, attempts]

omit [ScopedAction Action] in
theorem Alike.drop (alike : Alike first second) (answers : Answers) :
    (first.session.drop first.setting answers).effects.map (·.unnumbered) =
        (second.session.drop second.setting answers).effects.map (·.unnumbered) ∧
      (first.session.drop first.setting answers).ending =
        (second.session.drop second.setting answers).ending := by
  have forgets := Session.drop_unnumbered first.setting answers first.session
  have same := Session.drop_unnumbered second.setting answers second.session
  rw [alike.setting_eq, alike.session_eq, same, Emission.mk.injEq] at forgets
  rw [alike.setting_eq]
  exact ⟨forgets.1.symm, forgets.2.symm⟩

end Monitor

/-! ## What concerns a session -/

namespace WorldCommand

variable {Action : Type}

/-- Whether a command changes what sessions share, or removes a link on behalf of
somebody else than its session. -/
def disturbs : WorldCommand Action → Bool
  | .unlink .. | .setHal _ | .setPreference .. => true
  | _ => false

/-- Whether a command is a matter of the session at a position: its making, its own
operations, and the deaths of its client, which stands behind the given token. -/
def concerns (position : Nat) (home : Option Nat) (world : World Action) :
    WorldCommand Action → Bool
  | .make .. => world.monitors.length == position
  | .perform number _ | .drop number | .setListener number _ => number == position
  | .notifyDeath token | .watch _ token _ => home == some token
  | .unlink .. | .setHal _ | .setPreference .. => false

/-- Whether a command is addressed to one session, which answers it. -/
def addressed : WorldCommand Action → Bool
  | .perform .. | .drop _ | .setListener .. => true
  | _ => false

/-- A command for the first session of a world. -/
def alone : WorldCommand Action → WorldCommand Action
  | .perform _ operation => .perform 0 operation
  | .drop _ => .drop 0
  | .setListener _ listener => .setListener 0 listener
  | command => command

theorem isUnlink_of_calm {command : WorldCommand Action} (calm : command.disturbs = false) :
    command.isUnlink = false := by
  cases command with
  | unlink => cases calm
  | _ => rfl

theorem retunes_of_calm {command : WorldCommand Action} (calm : command.disturbs = false) :
    command.retunes = false := by
  cases command with
  | setHal | setPreference => cases calm
  | _ => rfl

theorem disturbs_alone (command : WorldCommand Action) :
    command.alone.disturbs = command.disturbs := by
  cases command <;> rfl

end WorldCommand

namespace World

variable {Action : Type} {world whole alone : World Action} {position : Nat}
  {home : Option Nat}

/-- What a token answers to a session that wants its link removed hangs on the life
of the token only. -/
theorem Linked.unlinkRefusal_eq (linked : world.Linked) {monitor : Monitor Action}
    (found : world.monitor? position = some monitor) {token link : Nat}
    (holds : monitor.session.Holds token link) :
    world.unlinkRefusal monitor.session =
      if world.aliveAt token = some true then none else some .notLinked := by
  obtain ⟨state, known, listed⟩ := linked.holding position monitor token link found holds
  have alive : world.aliveAt token = some state.alive := by simp [aliveAt, known]
  simp only [unlinkRefusal, holds.token_eq, holds.link_eq, known, alive, Option.some.injEq]
  cases lives : state.alive with
  | true =>
      have present : state.links.any (·.number == link) = true :=
        List.any_eq_true.mpr ⟨_, listed lives, by simp⟩
      simp [ClientToken.unlink, present]
  | false =>
      simp [ClientToken.unlink, (linked.tidy token state known).dead_bare lives]

theorem unlinkRefusal_of_free {session : Session Action}
    (free : ∀ token link, ¬ session.Holds token link) :
    world.unlinkRefusal session = none := by
  unfold unlinkRefusal
  cases held : session.token with
  | none => rfl
  | some token =>
      cases linked : session.link with
      | none => rfl
      | some link => exact absurd ⟨held, linked⟩ (free token link)

/-- Apart from the number of the link, what a token says to the wish to be linked to
it hangs on its life only. -/
theorem Making.unnumberedAnswer {given : Option Nat}
    {linked : Option (Nat × Except TokenError Nat)} {tokens : List (ClientToken Nat)}
    (making : Making world given linked tokens) :
    linked.map Session.unnumberedAnswer =
      given.bind fun token => (world.aliveAt token).map fun alive =>
        (token, if alive then .ok 0 else .error .alreadyDead) := by
  cases making with
  | unlinked unknown =>
      cases given with
      | none => rfl
      | some token => simp [World.aliveAt, unknown token rfl]
  | refused isGiven known gone =>
      simp [isGiven, World.aliveAt, known, gone, Session.unnumberedAnswer, Except.map]
  | linked isGiven known alive =>
      simp [isGiven, World.aliveAt, known, alive, Session.unnumberedAnswer, Except.map]

/-! ## Two worlds side by side -/

/-- Two worlds that share their hardware, which answers every call alike and breaks off
no stop, and their users' preferences. -/
structure Neighbours (whole alone : World Action) : Prop where
  linked : whole.Linked
  aloneLinked : alone.Linked
  hal_eq : alone.hal = whole.hal
  preferences_eq : alone.preferences = whole.preferences
  steady : ∃ start code, whole.hal = .steady start (.status code)

/-- The session at a position of a world is alone in the other world, as far as
itself and its client's token are concerned. -/
structure Mirrors (position : Nat) (home : Option Nat) (whole alone : World Action) :
    Prop where
  length_eq : alone.monitors.length = if position < whole.monitors.length then 1 else 0
  alike : Option.Rel Monitor.Alike (whole.monitor? position) (alone.monitor? 0)
  alive : ∀ token, home = some token → alone.aliveAt token = whole.aliveAt token
  lists : ∀ token, alone.Lists token 0 ↔ whole.Lists token position
  own : ∀ token, whole.Lists token position ∨ whole.HoldsAt position token →
    home = some token

section Action

variable [HardwareAction Action] [ScopedAction Action] {command : WorldCommand Action}

omit [ScopedAction Action] in
/-- Steady hardware stays as it is when it is asked. -/
theorem hal_obey_of_steady {start stop : HalAnswer} (steady : world.hal = .steady start stop)
    (calm : command.disturbs = false) : (world.obey command).world.hal = world.hal := by
  obtain ⟨effects, further⟩ := (shares_obey world (WorldCommand.retunes_of_calm calm)).hal
  rw [further, steady, Hal.steady_after]

namespace Neighbours

theorem obey_left (neighbours : Neighbours whole alone) (calm : command.disturbs = false) :
    Neighbours (whole.obey command).world alone := by
  obtain ⟨start, code, steady⟩ := neighbours.steady
  have hal := hal_obey_of_steady steady calm
  have shares := shares_obey whole (WorldCommand.retunes_of_calm calm)
  refine ⟨neighbours.linked.obey (WorldCommand.isUnlink_of_calm calm),
    neighbours.aloneLinked, ?_, ?_, start, code, ?_⟩
  · rw [hal, neighbours.hal_eq]
  · rw [shares.preferences_eq, neighbours.preferences_eq]
  · rw [hal, steady]

theorem obey_right (neighbours : Neighbours whole alone) (calm : command.disturbs = false) :
    Neighbours whole (alone.obey command).world := by
  obtain ⟨start, code, steady⟩ := neighbours.steady
  have hal := hal_obey_of_steady (neighbours.hal_eq.trans steady) calm
  have shares := shares_obey alone (WorldCommand.retunes_of_calm calm)
  refine ⟨neighbours.linked, neighbours.aloneLinked.obey (WorldCommand.isUnlink_of_calm calm),
    ?_, ?_, neighbours.steady⟩
  · rw [hal, neighbours.hal_eq]
  · rw [shares.preferences_eq, neighbours.preferences_eq]

end Neighbours

namespace Mirrors

variable {after : World Action}

omit [HardwareAction Action] [ScopedAction Action] in
/-- A change of the larger world that leaves the session alone. -/
theorem left (mirrors : Mirrors position home whole alone)
    (length_iff : position < after.monitors.length ↔ position < whole.monitors.length)
    (same : after.monitor? position = whole.monitor? position)
    (alive : ∀ token, home = some token → after.aliveAt token = whole.aliveAt token)
    (lists : ∀ token, after.Lists token position ↔ whole.Lists token position) :
    Mirrors position home after alone where
  length_eq := by
    simp only [length_iff]
    exact mirrors.length_eq
  alike := by
    rw [same]
    exact mirrors.alike
  alive token isHome := by
    rw [alive token isHome]
    exact mirrors.alive token isHome
  lists token := by
    rw [lists]
    exact mirrors.lists token
  own token related := by
    rw [lists, holdsAt_of_same same] at related
    exact mirrors.own token related

theorem notifyDeath_other (mirrors : Mirrors position home whole alone)
    (linked : whole.Linked) {token : Nat} (other : home ≠ some token) :
    Mirrors position home (whole.notifyDeath token).world alone ∧
      (whole.notifyDeath token).world.monitor? position = whole.monitor? position ∧
        effectsOf position (whole.notifyDeath token).happenings = [] := by
  have unlisted : ¬ whole.Lists token position := fun listed =>
    other (mirrors.own token (.inl listed))
  obtain ⟨same, nothing⟩ := World.notifyDeath_other unlisted
  have length_eq := (follows_notifyDeath whole token position).length_eq
  refine ⟨mirrors.left (by rw [length_eq]) same ?_ ?_, same, nothing⟩
  · intro own isHome
    rw [aliveAt_notifyDeath, if_neg]
    rintro rfl
    exact other isHome
  · intro own
    rw [lists_notifyDeath linked.tidy]
    refine and_iff_left_of_imp ?_
    rintro listed rfl
    exact unlisted listed

/-- A command that does not concern the session leaves it alone. -/
theorem obey_other (mirrors : Mirrors position home whole alone) (linked : whole.Linked)
    (calm : command.disturbs = false) (apart : command.concerns position home whole = false) :
    Mirrors position home (whole.obey command).world alone ∧
      (whole.obey command).world.monitor? position = whole.monitor? position ∧
        effectsOf position (whole.obey command).happenings = [] := by
  have idle : Mirrors position home whole alone ∧
      whole.monitor? position = whole.monitor? position ∧ effectsOf position [] = [] :=
    ⟨mirrors, rfl, rfl⟩
  cases command with
  | make setting action given listener =>
      have other : whole.monitors.length ≠ position := by
        simpa [WorldCommand.concerns] using apart
      obtain ⟨answer, tokens, making, made⟩ := making whole setting action given listener
      have tokens_eq : (whole.make setting action given listener).world.tokens = tokens := by
        rw [made]
      have found : (whole.make setting action given listener).world.monitor? position =
          whole.monitor? position :=
        (monitor?_append whole _ (by rw [made]) position).trans (if_neg other)
      refine ⟨mirrors.left ?_ found (fun token _ => making.aliveAt tokens_eq) ?_, found, ?_⟩
      · simp only [obey, WorldStep.map_world, made, List.length_append, List.length_singleton]
        omega
      · intro token
        rw [obey, WorldStep.map_world, making.lists tokens_eq]
        simp [Ne.symm other]
      · rw [obey, WorldStep.map_happenings, made, effectsOf_effects, if_neg other]
  | perform number operation =>
      have other : number ≠ position := by simpa [WorldCommand.concerns] using apart
      cases found : whole.monitor? number with
      | none => simpa [obey, found] using idle
      | some monitor =>
          obtain ⟨same, nothing⟩ := perform_other found operation other
          rw [obey_perform found]
          refine ⟨mirrors.left ?_ same
            (fun token _ => aliveAt_perform whole number monitor operation) ?_, same, nothing⟩
          · rw [WorldStep.map_world, (follows_perform found operation position).length_eq]
          · intro token
            rw [WorldStep.map_world, linked.lists_perform found operation]
            simp [Ne.symm other]
  | drop number =>
      have other : number ≠ position := by simpa [WorldCommand.concerns] using apart
      cases found : whole.monitor? number with
      | none => simpa [obey, found] using idle
      | some monitor =>
          obtain ⟨same, nothing⟩ := drop_other found other
          rw [obey_drop found]
          refine ⟨mirrors.left ?_ same (fun token _ => aliveAt_drop whole number monitor) ?_,
            same, nothing⟩
          · simp [World.drop, settle]
          · intro token
            rw [WorldStep.map_world, linked.lists_drop found]
            simp [Ne.symm other]
  | notifyDeath token =>
      have other : home ≠ some token := by simpa [WorldCommand.concerns] using apart
      rw [(obey_notifyDeath whole token).1, (obey_notifyDeath whole token).2]
      exact mirrors.notifyDeath_other linked other
  | watch processes token process =>
      have other : home ≠ some token := by simpa [WorldCommand.concerns] using apart
      have watched := obey_watch whole processes token process
      split at watched
      · rw [watched.1, watched.2]
        exact mirrors.notifyDeath_other linked other
      · rw [watched.1, watched.2]
        exact idle
  | unlink | setHal | setPreference => cases calm
  | setListener number listener =>
      have other : number ≠ position := by simpa [WorldCommand.concerns] using apart
      cases found : whole.monitor? number with
      | none => simpa [obey, found] using idle
      | some monitor =>
          have settled : (whole.setListener number monitor listener).monitor? position =
              if number = position then some { monitor with listener := some listener }
              else whole.monitor? position :=
            monitor?_settle (lt_length_of_monitor? found) _ [] position
          rw [if_neg other] at settled
          have set : whole.obey (.setListener number listener) =
              (whole.setListener number monitor listener).still .noted := by
            simp [obey, found]
          rw [set]
          exact ⟨mirrors.left (by simp [World.setListener]) settled (fun _ _ => rfl)
            fun _ => Iff.rfl, settled, rfl⟩

omit [HardwareAction Action] [ScopedAction Action] in
theorem both (mirrors : Mirrors position home whole alone) :
    (whole.monitor? position = none ∧ alone.monitor? 0 = none) ∨
      ∃ monitor other, whole.monitor? position = some monitor ∧
        alone.monitor? 0 = some other ∧ monitor.Alike other := by
  have alike := mirrors.alike
  cases found : whole.monitor? position <;> cases isOther : alone.monitor? 0 <;>
    rw [found, isOther] at alike <;> cases alike
  · exact .inl ⟨rfl, rfl⟩
  · rename_i alike
    exact .inr ⟨_, _, rfl, rfl, alike⟩

omit [HardwareAction Action] [ScopedAction Action] in
theorem holdsAt_iff (mirrors : Mirrors position home whole alone) (token : Nat) :
    alone.HoldsAt 0 token ↔ whole.HoldsAt position token := by
  rcases mirrors.both with ⟨absent, gone⟩ | ⟨monitor, other, found, isOther, alike⟩
  · exact iff_of_false (not_holdsAt gone) (not_holdsAt absent)
  · rw [World.holdsAt_iff isOther, World.holdsAt_iff found]
    exact alike.holds_iff.symm

omit [HardwareAction Action] [ScopedAction Action] in
/-- The session gets the same answers in both worlds. -/
theorem answers_eq (mirrors : Mirrors position home whole alone)
    (neighbours : Neighbours whole alone) {monitor other : Monitor Action}
    (found : whole.monitor? position = some monitor)
    (isOther : alone.monitor? 0 = some other) (alike : monitor.Alike other) :
    alone.answers other = whole.answers monitor := by
  -- the tokens know the link under different numbers, but a session without a link is
  -- never refused, and one with a link only once the token is dead
  have refusal : alone.unlinkRefusal other.session = whole.unlinkRefusal monitor.session := by
    by_cases held : ∃ token, whole.HoldsAt position token
    · obtain ⟨token, held⟩ := held
      obtain ⟨link, holds⟩ := (World.holdsAt_iff found).mp held
      obtain ⟨copy, holdsCopy⟩ := alike.holds_iff.mp ⟨link, holds⟩
      rw [neighbours.linked.unlinkRefusal_eq found holds,
        neighbours.aloneLinked.unlinkRefusal_eq isOther holdsCopy,
        mirrors.alive token (mirrors.own token (.inr held))]
    · have free : ∀ token link, ¬ monitor.session.Holds token link :=
        fun token link holds => held ⟨token, (World.holdsAt_iff found).mpr ⟨link, holds⟩⟩
      have freeCopy : ∀ token link, ¬ other.session.Holds token link := by
        intro token link holds
        obtain ⟨own, holds⟩ := alike.holds_iff.mpr ⟨link, holds⟩
        exact free token own holds
      rw [unlinkRefusal_of_free free, unlinkRefusal_of_free freeCopy]
  unfold answers
  rw [refusal, neighbours.hal_eq, neighbours.preferences_eq, alike.listener_eq]

omit [HardwareAction Action] [ScopedAction Action] in
/-- A change of both worlds that makes no difference between them. -/
theorem step (mirrors : Mirrors position home whole alone) {after copy : World Action}
    (length_eq : after.monitors.length = whole.monitors.length)
    (copy_length_eq : copy.monitors.length = alone.monitors.length)
    (alike : Option.Rel Monitor.Alike (after.monitor? position) (copy.monitor? 0))
    (alive : ∀ token, home = some token → copy.aliveAt token = after.aliveAt token)
    (lists : ∀ token, copy.Lists token 0 ↔ after.Lists token position)
    (listed : ∀ token, after.Lists token position → whole.Lists token position)
    (held : ∀ token, after.HoldsAt position token → whole.HoldsAt position token) :
    Mirrors position home after copy where
  length_eq := by
    rw [copy_length_eq, length_eq]
    exact mirrors.length_eq
  alike := alike
  alive := alive
  lists := lists
  own token related := mirrors.own token (related.imp (listed token) (held token))

end Mirrors

end Action

end World

end BiometricSession
