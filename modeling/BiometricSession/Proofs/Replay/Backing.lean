import BiometricSession.Proofs.Replay.Lines

/-!
# Which process backs a token

A client's token may be backed by a process, but nothing that happens to the token or to its
sessions depends on which process that is.  So a world whose tokens are backed by another
process goes through the same steps, and a replay shows the same lines.
-/

namespace BiometricSession

/-! ## Tokens -/

namespace ClientToken

variable {Recipient : Type}

/-- The same token, backed by a process or by none. -/
def backedBy (process : Option UInt32) (token : ClientToken Recipient) : ClientToken Recipient :=
  { token with process }

variable (process : Option UInt32) (token : ClientToken Recipient)

@[simp]
theorem alive_backedBy : (token.backedBy process).alive = token.alive :=
  rfl

theorem link_backedBy (recipient : Recipient) :
    (token.backedBy process).link recipient =
      (token.link recipient).map fun (number, linked) => (number, linked.backedBy process) := by
  unfold link
  rw [alive_backedBy]
  split <;> rfl

theorem unlink_backedBy (number : Nat) :
    (token.backedBy process).unlink number =
      (token.unlink number).map (·.backedBy process) := by
  change (if token.links.any (·.number == number) then _ else _) = _
  unfold unlink
  split <;> rfl

theorem die_backedBy :
    (token.backedBy process).die =
      token.die.map fun (links, dead) => (links, dead.backedBy process) := by
  unfold die
  rw [alive_backedBy]
  split <;> rfl

end ClientToken

/-! ## Worlds -/

namespace World

variable {Action : Type}

/-- The same world, with all tokens backed by a process or by none. -/
def backedBy (process : Option UInt32) (world : World Action) : World Action :=
  { world with tokens := world.tokens.map (·.backedBy process) }

variable (process : Option UInt32) (world : World Action)

@[simp]
theorem monitor?_backedBy (position : Nat) :
    (world.backedBy process).monitor? position = world.monitor? position :=
  rfl

theorem getElem?_tokens_backedBy (position : Nat) :
    (world.backedBy process).tokens[position]? =
      world.tokens[position]?.map (·.backedBy process) :=
  List.getElem?_map

theorem unlinkRefusal_backedBy (session : Session Action) :
    (world.backedBy process).unlinkRefusal session = world.unlinkRefusal session := by
  unfold unlinkRefusal
  split
  · rename_i position link held linked
    rw [getElem?_tokens_backedBy]
    cases world.tokens[position]? with
    | none => rfl
    | some token =>
        simp only [Option.map_some, ClientToken.unlink_backedBy]
        cases token.unlink link <;> rfl
  · rfl

theorem answers_backedBy (monitor : Monitor Action) :
    (world.backedBy process).answers monitor = world.answers monitor := by
  simp only [answers, unlinkRefusal_backedBy]
  rfl

theorem applyEffect_backedBy (tokens : List (ClientToken Nat)) (effect : Effect) :
    applyEffect (tokens.map (·.backedBy process)) effect =
      (applyEffect tokens effect).map (·.backedBy process) := by
  unfold applyEffect
  split
  · rename_i position link
    apply List.ext_getElem?
    intro other
    rw [List.getElem?_modify, List.getElem?_map, List.getElem?_map, List.getElem?_modify]
    cases tokens[other]? with
    | none => rfl
    | some token =>
        by_cases here : position = other
        · simp only [if_pos here, Option.map_some, Option.map_eq_map,
            ClientToken.unlink_backedBy]
          cases token.unlink link <;> rfl
        · simp only [if_neg here, Option.map_some, Option.map_eq_map]
  · rfl

theorem foldl_applyEffect_backedBy (effects : List Effect) (tokens : List (ClientToken Nat)) :
    effects.foldl applyEffect (tokens.map (·.backedBy process)) =
      (effects.foldl applyEffect tokens).map (·.backedBy process) := by
  induction effects generalizing tokens with
  | nil => rfl
  | cons effect effects ih => rw [List.foldl_cons, List.foldl_cons, applyEffect_backedBy, ih]

theorem settle_backedBy (position : Nat) (monitor : Option (Monitor Action))
    (effects : List Effect) :
    (world.backedBy process).settle position monitor effects =
      (world.settle position monitor effects).backedBy process := by
  simp only [settle, backedBy, foldl_applyEffect_backedBy]

end World

/-- The same step of a world with its tokens backed by a process or by none. -/
def WorldStep.backedBy {Action Value : Type} (process : Option UInt32)
    (step : WorldStep Action Value) : WorldStep Action Value :=
  { step with world := step.world.backedBy process }

namespace World

variable {Action : Type} (process : Option UInt32) (world : World Action)

theorem make_backedBy (setting : Setting) (action : Action) (token : Option Nat)
    (listener : Option Listener) :
    (world.backedBy process).make setting action token listener =
      (world.make setting action token listener).backedBy process := by
  have linking : (do
        let number ← token
        let token ← (world.backedBy process).tokens[number]?
        return (number, token.link world.monitors.length)) =
      Option.map
        (fun answer => (answer.1, answer.2.map fun made => (made.1, made.2.backedBy process)))
        (do
          let number ← token
          let token ← world.tokens[number]?
          return (number, token.link world.monitors.length)) := by
    cases token with
    | none => rfl
    | some number =>
        simp only [getElem?_tokens_backedBy, bind, Option.bind_some]
        cases world.tokens[number]? with
        | none => rfl
        | some state =>
            simp only [Option.map_some, Option.bind_some, ClientToken.link_backedBy]
            rfl
  have length_eq : (world.backedBy process).monitors.length = world.monitors.length := rfl
  unfold make
  simp only [length_eq, linking]
  cases (do
      let number ← token
      let token ← world.tokens[number]?
      return (number, token.link world.monitors.length) :
        Option (Nat × Except TokenError (Nat × ClientToken Nat))) with
  | none => rfl
  | some answer =>
      obtain ⟨number, error | ⟨link, state⟩⟩ := answer
      · rfl
      · simp only [Option.map_some, Except.map, backedBy, WorldStep.backedBy, List.map_set]

section Action

variable [HardwareAction Action]

theorem perform_backedBy (position : Nat) (monitor : Monitor Action) (operation : Operation) :
    (world.backedBy process).perform position monitor operation =
      (world.perform position monitor operation).backedBy process := by
  simp only [perform, answers_backedBy, settle_backedBy]
  rfl

theorem drop_backedBy (position : Nat) (monitor : Monitor Action) :
    (world.backedBy process).drop position monitor =
      (world.drop position monitor).backedBy process := by
  simp only [drop, answers_backedBy, settle_backedBy]
  rfl

theorem tellAll_backedBy (links : List (DeathLink Nat)) :
    tellAll links (world.backedBy process) = (tellAll links world).backedBy process := by
  induction links generalizing world with
  | nil => rfl
  | cons link links ih =>
      unfold tellAll
      rw [monitor?_backedBy]
      cases world.monitor? link.recipient with
      | none => exact congrArg (WorldStep.map _) (ih world)
      | some monitor =>
          simp only [perform_backedBy]
          cases ended : (world.perform link.recipient monitor (.clientDied true)).ending with
          | crashed crash =>
              simp only [WorldStep.backedBy, ended]
          | returned reply =>
              simp only [WorldStep.backedBy, ended, ih]

theorem notifyDeath_backedBy (position : Nat) :
    (world.backedBy process).notifyDeath position =
      (world.notifyDeath position).backedBy process := by
  unfold notifyDeath
  rw [getElem?_tokens_backedBy]
  cases known : world.tokens[position]? with
  | none => rfl
  | some state =>
      simp only [Option.map_some, Option.bind_some, ClientToken.die_backedBy]
      cases state.die with
      | none => rfl
      | some death =>
          obtain ⟨links, dead⟩ := death
          have bereft : ({ world.backedBy process with
              tokens := (world.backedBy process).tokens.set position (dead.backedBy process) } :
                World Action) =
              ({ world with tokens := world.tokens.set position dead } : World Action).backedBy
                process := by
            simp [backedBy, List.map_set]
          simp only [Option.map_some, bereft, tellAll_backedBy]

end Action

end World

/-! ## Replays -/

/-- The same step of a replay with its tokens backed by a process or by none. -/
def ReplayStep.backedBy (process : Option UInt32) (step : ReplayStep) : ReplayStep :=
  { step with world := step.world.backedBy process }

theorem ReplayStep.andThen_backedBy (process : Option UInt32) (first : ReplayStep)
    {next : World BuiltinAction → ReplayStep}
    (same : ∀ world, next (world.backedBy process) = (next world).backedBy process) :
    (first.backedBy process).andThen next = (first.andThen next).backedBy process := by
  simp only [andThen, backedBy, same]

namespace Replay

variable (process : Option UInt32) (world : World BuiltinAction)

theorem report_backedBy {Value : Type} (step : WorldStep BuiltinAction Value)
    (line? : Value → Option ReplayLine) :
    report (step.backedBy process) line? = (report step line?).backedBy process :=
  rfl

theorem perform_backedBy (operation : Operation) :
    perform operation (world.backedBy process) = (perform operation world).backedBy process := by
  unfold perform
  rw [World.monitor?_backedBy]
  cases world.monitor? 0 with
  | none => rfl
  | some monitor => simp only [World.perform_backedBy, report_backedBy]

theorem clientDeath_backedBy :
    clientDeath (world.backedBy process) = (clientDeath world).backedBy process := by
  rw [clientDeath, World.notifyDeath_backedBy, report_backedBy]
  rfl

theorem checkOwner_backedBy (processes : ProcessTable) (owner : Option UInt32) :
    checkOwner processes owner (world.backedBy process) =
      (checkOwner processes owner world).backedBy process := by
  unfold checkOwner
  rw [World.getElem?_tokens_backedBy]
  cases owner with
  | none => rfl
  | some watched =>
      cases world.tokens[0]? with
      | none => rfl
      | some token =>
          simp only [Option.map_some, ClientToken.alive_backedBy, clientDeath_backedBy]
          cases WatchFinding.of token.alive (processes.alive watched) <;> rfl

theorem happen_backedBy (spec : SessionSpec) (event : ScriptEvent) :
    happen spec event (world.backedBy process) = (happen spec event world).backedBy process := by
  unfold happen
  cases event.operation? spec with
  | some operation => exact perform_backedBy process world operation
  | none =>
      have tokens : (world.backedBy process).tokens = world.tokens.map (·.backedBy process) := rfl
      simp only [tokens]
      cases world.tokens with
      | nil => rfl
      | cons token others => exact clientDeath_backedBy process world

theorem happenAll_backedBy (owner : Option UInt32) (spec : SessionSpec)
    (processes : Nat → ProcessTable) (events : List ScriptEvent) :
    happenAll owner spec processes events (world.backedBy process) =
      (happenAll owner spec processes events world).backedBy process := by
  induction events generalizing processes world with
  | nil => rfl
  | cons event events ih =>
      unfold happenAll
      rw [checkOwner_backedBy, ReplayStep.andThen_backedBy, ReplayStep.andThen_backedBy]
      · intro world
        exact ih world _
      · intro world
        exact happen_backedBy process world spec event

theorem leave_backedBy : leave (world.backedBy process) = (leave world).backedBy process := by
  unfold leave
  rw [World.monitor?_backedBy]
  cases world.monitor? 0 with
  | none => rfl
  | some monitor => simp only [World.drop_backedBy, report_backedBy]

end Replay

namespace ReplayScript

variable (process : Option UInt32) (script : ReplayScript) (config : MonitorConfig)
  (strangers : Nat → Bool)

theorem make_backedBy (token : Option (ClientToken Nat)) (cookie : Int32) :
    script.make config strangers (token.map (·.backedBy process)) cookie =
      (script.make config strangers token cookie).backedBy process := by
  have around : script.surroundings strangers (token.map (·.backedBy process)) =
      (script.surroundings strangers token).backedBy process := by
    cases token <;> rfl
  unfold make
  rw [around, Option.map_map, World.make_backedBy]
  rfl

/-- A replay goes the same way, whichever process backs the client's token. -/
theorem runWith_backedBy (processes : Nat → ProcessTable) (owner : Option UInt32)
    (token : Option (ClientToken Nat)) (cookie : Int32) :
    script.runWith processes config owner strangers (token.map (·.backedBy process)) cookie =
      (script.runWith processes config owner strangers token cookie).backedBy process := by
  have played : ((script.make config strangers (token.map (·.backedBy process)) cookie).andThen
        (Replay.perform .start)).andThen
          (Replay.happenAll owner script.session processes script.events) =
      (((script.make config strangers token cookie).andThen (Replay.perform .start)).andThen
        (Replay.happenAll owner script.session processes script.events)).backedBy process := by
    rw [make_backedBy, ReplayStep.andThen_backedBy, ReplayStep.andThen_backedBy]
    · intro world
      exact Replay.happenAll_backedBy process world owner _ _ _
    · intro world
      exact Replay.perform_backedBy process world _
  have leaving := fun step => ReplayStep.andThen_backedBy process step
    (Replay.leave_backedBy process)
  unfold runWith
  dsimp only
  rw [played]
  split
  · exact leaving _
  · rw [ReplayStep.andThen_backedBy process _ fun world =>
      Replay.perform_backedBy process world .destroy]
    exact leaving _

end ReplayScript

end BiometricSession
