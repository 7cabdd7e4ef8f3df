import BiometricSession.Proofs.Session.Mourning
import BiometricSession.Proofs.World.Hearing
import BiometricSession.Proofs.World.Lasting
import BiometricSession.Proofs.World.Linked

/-!
# The death of a client

A token that dies tells every session on its list that still exists, in the order
in which they were linked.  Telling them is nothing but performing one operation
on each, in the world in which the token is dead and lists nobody.  As a token
lists nobody twice, every session is told once and asks the hardware to stop at
most once; nobody else is touched.  The sessions that were told are silenced.
-/

namespace BiometricSession

namespace World

variable {Action : Type} {world : World Action} {position : Nat}

/-- Those of some positions at which there is a session. -/
def existing (world : World Action) (positions : List Nat) : List Nat :=
  positions.filter fun position => (world.monitor? position).isSome

/-- How many of some recipients still exist although there is no session of that
number. -/
def elsewhere (world : World Action) (recipients : List Nat) : Nat :=
  recipients.countP fun recipient =>
    (world.monitor? recipient).isNone && world.strangers recipient

/-- The commands that let sessions hear of their client's death, one after the
other. -/
def tidings (positions : List Nat) : List (WorldCommand Action) :=
  positions.map fun position => .perform position (.clientDied true)

theorem mem_existing {positions : List Nat} :
    position ∈ world.existing positions ↔
      position ∈ positions ∧ ∃ monitor, world.monitor? position = some monitor := by
  simp [existing, Option.isSome_iff_exists]

theorem elsewhere_of_no_strangers (alone : ∀ recipient, world.strangers recipient = false)
    (recipients : List Nat) : world.elsewhere recipients = 0 := by
  simp [elsewhere, alone]

variable [HardwareAction Action] {number : Nat} {monitor : Monitor Action}

/-- Let sessions hear of their client's death, one after the other, and count
them. -/
def tellEach (world : World Action) (positions : List Nat) : WorldStep Action Nat :=
  ⟨world.after (tidings positions),
    (world.deeds (tidings positions)).flatMap (·.step.happenings),
    .returned positions.length⟩

theorem tellEach_cons (found : world.monitor? position = some monitor)
    (positions : List Nat) :
    let own := world.perform position monitor (.clientDied true)
    world.tellEach (position :: positions) =
      ⟨(own.world.tellEach positions).world,
        own.happenings ++ (own.world.tellEach positions).happenings,
        .returned (positions.length + 1)⟩ := by
  simp only [tellEach, tidings, List.map_cons, after_cons, deeds, List.flatMap_cons,
    obey_perform found, WorldStep.map_world, WorldStep.map_happenings, List.length_cons]

theorem tellEach_append (world : World Action) (first second : List Nat) :
    world.tellEach (first ++ second) =
      ⟨((world.tellEach first).world.tellEach second).world,
        (world.tellEach first).happenings ++
          ((world.tellEach first).world.tellEach second).happenings,
        .returned (first ++ second).length⟩ := by
  simp only [tellEach, tidings, List.map_append, after_append, deeds_append,
    List.flatMap_append]

theorem existing_perform (found : world.monitor? number = some monitor)
    (operation : Operation) (positions : List Nat) :
    (world.perform number monitor operation).world.existing positions =
      world.existing positions := by
  apply List.filter_congr
  intro position _
  by_cases here : number = position
  · subst here
    obtain ⟨listener, present⟩ := monitor?_perform found operation
    rw [present, found]
    rfl
  · rw [(perform_other found operation here).1]

theorem elsewhere_perform (found : world.monitor? number = some monitor)
    (operation : Operation) (recipients : List Nat) :
    (world.perform number monitor operation).world.elsewhere recipients =
      world.elsewhere recipients := by
  apply List.countP_congr
  intro recipient _
  by_cases here : number = recipient
  · subst here
    obtain ⟨listener, present⟩ := monitor?_perform found operation
    rw [present, found]
    rfl
  · rw [(perform_other found operation here).1]
    rfl

/-- While the hardware answers, telling the recipients on a list of links is to let
each session among them that exists hear of its client's death; strangers only
count. -/
theorem tellAll_eq (sound : world.Sound) (answering : world.hal.AnswersStops)
    (links : List (DeathLink Nat)) :
    tellAll links world =
      (world.tellEach (world.existing (links.map (·.recipient)))).map
        (· + world.elsewhere (links.map (·.recipient))) := by
  induction links generalizing world with
  | nil => rfl
  | cons link links ih =>
      unfold tellAll
      rw [List.map_cons]
      cases found : world.monitor? link.recipient with
      | none =>
          have nobody : world.existing (link.recipient :: links.map (·.recipient)) =
              world.existing (links.map (·.recipient)) := by
            simp [existing, found]
          have counted : world.elsewhere (link.recipient :: links.map (·.recipient)) =
              world.elsewhere (links.map (·.recipient)) +
                (world.strangers link.recipient).toNat := by
            cases exists_ : world.strangers link.recipient <;> simp [elsewhere, found, exists_]
          simp only [nobody, counted, ih sound answering]
          simp [WorldStep.map, Ending.map, tellEach, Nat.add_assoc]
      | some monitor =>
          have next : world.existing (link.recipient :: links.map (·.recipient)) =
              link.recipient :: world.existing (links.map (·.recipient)) := by
            simp [existing, found]
          have counted : world.elsewhere (link.recipient :: links.map (·.recipient)) =
              world.elsewhere (links.map (·.recipient)) := by
            simp [elsewhere, found]
          obtain ⟨code, answer⟩ := answering 0
          have told : (world.perform link.recipient monitor (.clientDied true)).ending =
              .returned .none :=
            (Session.clientDied_answered monitor.setting true
              (sound link.recipient monitor found) answer).1
          have obeyed := obey_perform found (.clientDied true)
          have stillSound := sound.obey (.perform link.recipient (.clientDied true))
          rw [obeyed] at stillSound
          have rest := ih stillSound (answering.after _)
          simp only [WorldStep.map_world, existing_perform found, elsewhere_perform found] at rest
          simp only [told, next, counted, tellEach_cons found, rest]
          simp [WorldStep.map, Ending.map, tellEach, Nat.add_right_comm]

theorem tellEach_other {positions : List Nat} (untold : position ∉ positions)
    (world : World Action) :
    (world.tellEach positions).world.monitor? position = world.monitor? position ∧
      effectsOf position (world.tellEach positions).happenings = [] := by
  induction positions generalizing world with
  | nil => exact ⟨rfl, rfl⟩
  | cons number positions ih =>
      have other : number ≠ position := fun same => untold (same ▸ List.mem_cons_self)
      have first : (world.obey (.perform number (.clientDied true))).world.monitor? position =
            world.monitor? position ∧
          effectsOf position
            (world.obey (.perform number (.clientDied true))).happenings = [] := by
        cases found : world.monitor? number with
        | none => simp [obey, found]
        | some monitor =>
            rw [obey_perform found]
            exact perform_other found _ other
      obtain ⟨same, nothing⟩ := ih (fun member => untold (List.mem_cons_of_mem _ member))
        (world.obey (.perform number (.clientDied true))).world
      refine ⟨same.trans first.1, ?_⟩
      simp only [tellEach, tidings, List.map_cons, deeds, List.flatMap_cons,
        effectsOf_append, first.2, List.nil_append]
      exact nothing

theorem shares_tellEach (positions : List Nat) (world : World Action) :
    Shares world (world.tellEach positions).world := by
  apply shares_after
  intro command member
  obtain ⟨position, _, rfl⟩ := List.mem_map.mp member
  rfl

/-- A session that is told once reacts to its client's death once. -/
theorem tellEach_told {positions : List Nat} (once : positions.Nodup)
    (told : position ∈ positions) (found : world.monitor? position = some monitor) :
    ∃ answers : Answers, (∃ call, answers.stop = world.hal.stop call) ∧
      effectsOf position (world.tellEach positions).happenings =
        (monitor.session.perform monitor.setting answers (.clientDied true)).effects ∧
      (world.tellEach positions).world.monitor? position =
        some (monitor.performed answers (.clientDied true)) := by
  obtain ⟨before, after, rfl⟩ := List.append_of_mem told
  obtain ⟨others, _⟩ := List.nodup_cons.mp (List.nodup_middle.mp once)
  obtain ⟨same, nothingBefore⟩ :=
    tellEach_other (fun member => others (List.mem_append_left _ member)) world
  have reached := same.trans found
  obtain ⟨stays, nothingAfter⟩ :=
    tellEach_other (fun member => others (List.mem_append_right before member))
      ((world.tellEach before).world.perform position monitor (.clientDied true)).world
  obtain ⟨effects, further⟩ := (shares_tellEach before world).hal
  refine ⟨(world.tellEach before).world.answers monitor,
    ⟨_, congrFun (congrArg Hal.stop further) 0⟩, ?_, ?_⟩
  · rw [tellEach_append, tellEach_cons reached, effectsOf_append, effectsOf_append,
      nothingBefore, nothingAfter, List.append_nil, List.nil_append]
    simp [perform, effectsOf_effects]
  · rw [tellEach_append, tellEach_cons reached]
    exact stays.trans (monitor?_performed reached (.clientDied true))

/-- Silence lasts, and a silenced session delivers nothing. -/
theorem silence_lasts [ScopedAction Action] :
    Lasting (fun session : Session Action => session.Sound ∧ session.Silenced)
      (fun effect => effect.delivery? = none) where
  perform setting answers session operation within := by
    obtain ⟨sound, silenced⟩ := within
    obtain ⟨still, unheard⟩ := Session.silenced_perform setting answers operation silenced
    exact ⟨⟨Session.sound_perform setting answers operation sound, still⟩,
      List.filterMap_eq_nil_iff.mp unheard⟩
  drop setting answers session within := by
    simp [Session.drop_of_silenced setting answers within.2]

theorem silent_of_silenced [ScopedAction Action]
    (silenced : StaysAt (fun session => session.Sound ∧ session.Silenced) position world)
    (commands : List (WorldCommand Action)) :
    ∀ deed ∈ world.deeds commands, deed.deliveries position = [] ∧
      (deed.command = .drop position → effectsOf position deed.step.happenings = []) := by
  intro deed member
  obtain ⟨before, step, unheard⟩ := silenced.deeds silence_lasts commands deed member
  refine ⟨List.filterMap_eq_nil_iff.mpr unheard, ?_⟩
  intro drops
  rw [step, drops]
  cases found : deed.before.monitor? position with
  | none => simp [obey, found]
  | some monitor =>
      have nothing := Session.drop_of_silenced monitor.setting
        (deed.before.answers monitor) (before.within monitor found).2
      simp [obey, found, World.drop, nothing]

/-- While the hardware answers, telling the sessions on the list of a token that has
died is to let each of them that exists hear of it. -/
theorem tellAll_bereft (sound : world.Sound) (answering : world.hal.AnswersStops)
    (token : Nat) (state : ClientToken Nat) :
    tellAll state.links (world.bereft token state) =
      ((world.bereft token state).tellEach (world.existing state.recipients)).map
        (· + world.elsewhere state.recipients) := by
  have stillSound : (world.bereft token state).Sound := sound
  exact tellAll_eq stillSound answering state.links

omit [HardwareAction Action] in
theorem existing_nodup (tidy : world.Tidy) {token : Nat} {state : ClientToken Nat}
    (known : world.tokens[token]? = some state) :
    (world.existing state.recipients).Nodup :=
  (tidy token state known).recipients_nodup.filter _

theorem tellEach_bereft (tidy : world.Tidy) {token : Nat} {state : ClientToken Nat}
    (known : world.tokens[token]? = some state)
    (listed : position ∈ world.existing state.recipients)
    (found : world.monitor? position = some monitor) :
    let death := (world.bereft token state).tellEach (world.existing state.recipients)
    ∃ answers : Answers, (∃ call, answers.stop = world.hal.stop call) ∧
      effectsOf position death.happenings =
        (monitor.session.perform monitor.setting answers (.clientDied true)).effects ∧
      death.world.monitor? position =
        some (monitor.performed answers (.clientDied true)) := by
  have present : (world.bereft token state).monitor? position = some monitor := found
  exact tellEach_told (existing_nodup tidy known) listed present

/-- While the hardware answers, the death of a live token is to let each session on
its list that exists hear of it, in the world in which the token is dead. -/
theorem death_eq (sound : world.Sound) {token : Nat} {state : ClientToken Nat}
    (known : world.tokens[token]? = some state) (alive : state.alive = true)
    (answering : world.hal.AnswersStops) :
    world.obey (.notifyDeath token) =
      ((world.bereft token state).tellEach (world.existing state.recipients)).map
        fun told => .told (told + world.elsewhere state.recipients) := by
  have dies : world.obey (.notifyDeath token) =
      (tellAll state.links (world.bereft token state)).map .told := by
    simp [obey, known, notifyDeath, ClientToken.die, alive, bereft, ClientToken.dead]
  rw [dies, tellAll_bereft sound answering]
  rfl

/-- While the hardware answers, every session that a token lists reacts once to the
death of its client, if it still exists. -/
theorem notifyDeath_listed (sound : world.Sound) (tidy : world.Tidy) {token : Nat}
    (answering : world.hal.AnswersStops)
    (listed : world.Lists token position) (found : world.monitor? position = some monitor) :
    ∃ answers : Answers, (∃ call, answers.stop = world.hal.stop call) ∧
      effectsOf position (world.notifyDeath token).happenings =
        (monitor.session.perform monitor.setting answers (.clientDied true)).effects ∧
      (world.notifyDeath token).world.monitor? position =
        some (monitor.performed answers (.clientDied true)) := by
  obtain ⟨state, known, isListed⟩ := listed
  rcases notifyDeath_cases world token with ⟨other, isOther, _, told⟩ | ⟨dead, _⟩
  · obtain rfl := Option.some.inj (known.symm.trans isOther)
    rw [told, tellAll_bereft sound answering]
    exact tellEach_bereft tidy known (mem_existing.mpr ⟨isListed, monitor, found⟩) found
  · cases alive : state.alive with
    | true => exact absurd (by simp [aliveAt, known, alive]) dead
    | false =>
        simp [ClientToken.recipients, (tidy token state known).dead_bare alive] at isListed

/-- What comes of the death of a live token in a world whose hardware answers every
stop with a code, each perhaps with another. -/
structure DeathTold (world : World Action) (token : Nat) (state : ClientToken Nat)
    (death : WorldStep Action WorldAnswer) : Prop where
  /-- The sessions on the list that still exist are counted, each of them once. -/
  counted : (world.existing state.recipients).Nodup ∧
    death.ending = .returned (.told (world.existing state.recipients).length)
  tokens_eq : death.world.tokens =
    world.tokens.set token { state with alive := false, links := [] }
  /-- The death is the same as letting each of them hear of it, one after the
  other. -/
  same :
    let marked : World Action :=
      { world with tokens := world.tokens.set token { state with alive := false, links := [] } }
    let hearing := (world.existing state.recipients).map fun position =>
      WorldCommand.perform position (.clientDied true)
    death.world = marked.after hearing ∧
      death.happenings = (marked.deeds hearing).flatMap (·.step.happenings)
  told : ∀ position ∈ world.existing state.recipients, ∀ monitor,
    world.monitor? position = some monitor →
      ∃ call code, world.hal.stop call = .status code ∧
        callsOf position death.happenings = monitor.session.mourningCalls code
  others : ∀ position, position ∉ world.existing state.recipients →
    death.world.monitor? position = world.monitor? position ∧
      effectsOf position death.happenings = []
  silenced : ∀ position ∈ world.existing state.recipients,
    ∀ later, ∀ deed ∈ death.world.deeds later,
      deed.deliveries position = [] ∧
        (deed.command = .drop position → effectsOf position deed.step.happenings = [])

/-- In every run, a live token that dies while the hardware answers tells those
sessions on its list that still exist, in the order in which they were linked,
each by the same operation as if it alone heard of its client's death.  It is
dead then and lists nobody.  Every session that was told has asked the hardware to
stop exactly if it had not ended and was not cancelled before, and tells its
client nothing any more, also when it is given up; every other session is as
before. -/
theorem death_silences_linked [ScopedAction Action] (processes : List (Option UInt32))
    (commands : List (WorldCommand Action)) {token : Nat} {state : ClientToken Nat}
    (known : ((fresh processes).after commands).tokens[token]? = some state)
    (alive : state.alive = true)
    (answering : ((fresh processes).after commands).hal.AnswersStops) :
    DeathTold ((fresh processes).after commands) token state
      (((fresh processes).after commands).obey (.notifyDeath token)) := by
  have sound : ((fresh processes : World Action).after commands).Sound :=
    (sound_fresh processes).after commands
  have tidy : ((fresh processes : World Action).after commands).Tidy :=
    (tidy_fresh processes).after commands
  have alone := strangers_run processes commands
  generalize (fresh processes : World Action).after commands = world at *
  have tokens_eq := tokens_tellAll state.links (world.bereft token state)
  rw [tellAll_bereft sound answering] at tokens_eq
  rw [death_eq sound known alive answering]
  refine ⟨⟨existing_nodup tidy known, ?_⟩, tokens_eq, ⟨rfl, rfl⟩, ?_, ?_, ?_⟩
  · simp [elsewhere_of_no_strangers alone, tellEach, Ending.map]
  · intro position listed monitor found
    obtain ⟨answers, ⟨call, hears⟩, effects, _⟩ := tellEach_bereft tidy known listed found
    obtain ⟨code, answer⟩ := answering call
    rw [WorldStep.map_happenings, callsOf, effects]
    exact ⟨call, code, answer, (Session.clientDied_answered monitor.setting true
      (sound position monitor found) (hears.trans answer)).2⟩
  · intro position unlisted
    exact tellEach_other unlisted (world.bereft token state)
  · intro position listed
    obtain ⟨_, monitor, found⟩ := mem_existing.mp listed
    obtain ⟨answers, ⟨call, hears⟩, _, present⟩ := tellEach_bereft tidy known listed found
    obtain ⟨code, answer⟩ := answering call
    have isSound := sound position monitor found
    have returned := (Session.clientDied_answered monitor.setting true isSound
      (hears.trans answer)).1
    have within : (monitor.performed answers (.clientDied true)).session.Sound ∧
        (monitor.performed answers (.clientDied true)).session.Silenced :=
      ⟨Session.sound_perform _ _ _ isSound, Session.silenced_clientDied isSound returned⟩
    exact silent_of_silenced (.of_found present within)

/-- Of three sessions that are linked to a token, the running ones ask the hardware to
stop when the token dies, which takes the first stop and refuses the second, and the
cancelled one does not; the client of the first hears neither of the acquisition that
follows nor of its being given up. -/
theorem death_silences_linked_running_and_cancelled :
    let setting : Setting := ⟨⟨10, 20, false, "owner", 42, 1⟩, .fingerprint, .standard true⟩
    let listener : Listener := .failingAfter none (.refused .channelClosed)
    let making : WorldCommand BuiltinAction := .make setting .enumerate (some 0) listener
    let hal : Hal := ⟨fun _ => .status 0, fun call => .status (if call = 0 then 0 else 5)⟩
    let commands : List (WorldCommand BuiltinAction) :=
      [making, making, making, .make setting .enumerate none listener, .perform 0 .start,
        .perform 1 (.stop true), .perform 2 .start, .setHal hal]
    let world := (fresh [none]).after commands
    let death := world.obey (.notifyDeath 0)
    ∃ state, world.tokens[0]? = some state ∧ state.alive = true ∧
      world.hal.AnswersStops ∧ world.existing state.recipients = [0, 1, 2] ∧
        death.ending = .returned (.told 3) ∧
          callsOf 0 death.happenings = [.halStop false (.status 0)] ∧
            callsOf 1 death.happenings = [] ∧
              callsOf 2 death.happenings = [.halStop false (.status 5)] ∧
                effectsOf 3 death.happenings = [] ∧
                  ∀ deed ∈ death.world.deeds
                    [.perform 0 (.callback (.acquired 0 0)), .drop 0], deed.deliveries 0 = [] := by
  intro setting listener making hal commands world death
  obtain ⟨known, existing_eq, calls⟩ :
      world.tokens[0]? = some ⟨none, true, 4, [⟨1, 0⟩, ⟨2, 1⟩, ⟨3, 2⟩]⟩ ∧
        world.existing [0, 1, 2] = [0, 1, 2] ∧
          callsOf 0 death.happenings = [.halStop false (.status 0)] ∧
            callsOf 1 death.happenings = [] ∧
              callsOf 2 death.happenings = [.halStop false (.status 5)] := by
    decide +kernel +revert
  have answering : world.hal.AnswersStops := fun call => ⟨_, rfl⟩
  have told : DeathTold world 0 ⟨none, true, 4, [⟨1, 0⟩, ⟨2, 1⟩, ⟨3, 2⟩]⟩ death :=
    death_silences_linked [none] commands known rfl answering
  have counted : death.ending = .returned (.told [0, 1, 2].length) := by
    rw [← existing_eq]
    exact told.counted.2
  refine ⟨⟨none, true, 4, [⟨1, 0⟩, ⟨2, 1⟩, ⟨3, 2⟩]⟩, known, rfl, answering, existing_eq, counted,
    calls.1, calls.2.1, calls.2.2, ?_, ?_⟩
  · exact (told.others 3 fun member => absurd (existing_eq ▸ member) (by decide)).2
  · intro deed member
    have listed : 0 ∈ world.existing [0, 1, 2] := by
      rw [existing_eq]
      exact List.mem_cons_self
    exact (told.silenced 0 listed _ deed member).1

end World

end BiometricSession
