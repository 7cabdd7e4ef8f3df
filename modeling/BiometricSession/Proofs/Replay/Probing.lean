import BiometricSession.Proofs.Replay.Backing
import BiometricSession.Proofs.World.Linked

/-!
# Looking at the client's process

A replay can look at the process behind the client before every event.  A process that is
found gone counts as the client's death, and after that there is nothing to look for any more;
so what the looks show is what the script would show if it began with the client's death.  If
the process runs on, if the script has no events, or if the session has no token, looking
shows nothing.
-/

namespace BiometricSession

/-! ## Steps that show the same -/

/-- Two steps of a replay lead to the same world and show the same lines, though the log may
differ. -/
structure ReplayStep.ShowsAs (step other : ReplayStep) : Prop where
  world_eq : step.world = other.world
  lines_eq : step.lines = other.lines

theorem ReplayStep.andThen_congr {first : ReplayStep}
    {next other : World BuiltinAction → ReplayStep}
    (same : next first.world = other first.world) : first.andThen next = first.andThen other := by
  simp only [andThen, same]

namespace ReplayStep.ShowsAs

variable {first second : ReplayStep}

theorem andThen (same : first.ShowsAs second) {next other : World BuiltinAction → ReplayStep}
    (goesOn : (next first.world).ShowsAs (other first.world)) :
    (first.andThen next).ShowsAs (second.andThen other) where
  world_eq := by
    rw [world_andThen, world_andThen, goesOn.world_eq, same.world_eq]
  lines_eq := by
    rw [lines_andThen, lines_andThen, goesOn.lines_eq, same.lines_eq, same.world_eq]

theorem refl (step : ReplayStep) : step.ShowsAs step :=
  ⟨rfl, rfl⟩

theorem logged (record : LogRecord) (step : ReplayStep) :
    ShowsAs { step with occurrences := .logged record :: step.occurrences } step :=
  ⟨rfl, rfl⟩

end ReplayStep.ShowsAs

namespace Replay

variable {world : World BuiltinAction}

/-! ## What becomes of the client -/

theorem aliveAt_perform (operation : Operation) (world : World BuiltinAction) (token : Nat) :
    (perform operation world).world.aliveAt token = world.aliveAt token := by
  unfold perform
  cases world.monitor? 0 with
  | none => rfl
  | some monitor => exact World.aliveAt_perform world 0 monitor operation

/-- After the death of the client there is nobody left who could die. -/
theorem bereaved_clientDeath (world : World BuiltinAction) :
    (clientDeath world).world.aliveAt 0 ≠ some true := by
  change (world.notifyDeath 0).world.aliveAt 0 ≠ some true
  rw [World.aliveAt_notifyDeath, if_pos rfl]
  cases world.aliveAt 0 <;> simp

/-- No event brings a client back to life. -/
theorem bereaved_happen (spec : SessionSpec) (event : ScriptEvent)
    (bereaved : world.aliveAt 0 ≠ some true) :
    (happen spec event world).world.aliveAt 0 ≠ some true := by
  unfold happen
  split
  · rw [aliveAt_perform]
    exact bereaved
  · split
    · exact bereaved
    · exact bereaved_clientDeath world

/-! ## Looks -/

/-- If the client has died already, or never had a token, a look finds nothing. -/
theorem checkOwner_of_bereaved (processes : ProcessTable) (owner : Option UInt32)
    (bereaved : world.aliveAt 0 ≠ some true) :
    checkOwner processes owner world = ⟨world, []⟩ := by
  unfold checkOwner
  split
  · rename_i token known
    have dead : token.alive = false := by
      simpa [World.aliveAt, known] using bereaved
    simp [WatchFinding.of, dead]
  · rfl

theorem checkOwner_of_running {processes : ProcessTable} {owner : Option UInt32}
    (running : ∀ process ∈ owner, processes.alive process = true) :
    checkOwner processes owner world = ⟨world, []⟩ := by
  unfold checkOwner
  split
  · rename_i process token known
    cases token.alive <;> simp [WatchFinding.of, running process rfl]
  · rfl

/-- If its process is gone, a look shows the death of a client that was alive before. -/
theorem checkOwner_of_gone {processes : ProcessTable} {process : UInt32}
    (gone : processes.alive process = false) (alive : world.aliveAt 0 = some true) :
    (checkOwner processes (some process) world).ShowsAs (clientDeath world) := by
  obtain ⟨token, known, living⟩ := Option.map_eq_some_iff.mp alive
  simp only [checkOwner, known, living, gone, WatchFinding.of, Bool.not_true, Bool.not_false,
    if_true, Bool.false_eq_true, if_false]
  exact .logged _ _

/-- Looks that find nothing may as well be left out, as long as the events keep up what makes
them find nothing. -/
theorem happenAll_unwatched (Kept : World BuiltinAction → Prop) {spec : SessionSpec}
    (kept : ∀ event world, Kept world → Kept (happen spec event world).world)
    {owner : Option UInt32} {processes : Nat → ProcessTable} {events : List ScriptEvent}
    (idle : ∀ look < events.length, ∀ world, Kept world →
      checkOwner (processes look) owner world = ⟨world, []⟩)
    (others : Nat → ProcessTable) (begins : Kept world) :
    happenAll owner spec processes events world = happenAll none spec others events world := by
  induction events generalizing processes others world with
  | nil => rfl
  | cons event events ih =>
      have nobody : checkOwner (others 0) none world = ⟨world, []⟩ := rfl
      have first := idle 0 (Nat.zero_lt_succ _) world begins
      have rest := fun look (within : look < events.length) =>
        idle (look + 1) (Nat.succ_lt_succ within)
      unfold happenAll
      rw [first, nobody]
      exact ReplayStep.andThen_congr
        (ih rest (fun look => others (look + 1)) (kept event world begins))

/-- Nothing is left to look for once the client is dead. -/
theorem happenAll_of_bereaved (owner : Option UInt32) (spec : SessionSpec)
    (processes others : Nat → ProcessTable) (events : List ScriptEvent)
    (bereaved : world.aliveAt 0 ≠ some true) :
    happenAll owner spec processes events world = happenAll none spec others events world :=
  happenAll_unwatched (·.aliveAt 0 ≠ some true) (fun event _ => bereaved_happen spec event)
    (fun _ _ _ => checkOwner_of_bereaved _ owner) others bereaved

theorem happenAll_of_running {owner : Option UInt32} {processes : Nat → ProcessTable}
    {events : List ScriptEvent}
    (running : ∀ look < events.length, ∀ process ∈ owner, (processes look).alive process = true)
    (spec : SessionSpec) (others : Nat → ProcessTable) :
    happenAll owner spec processes events world = happenAll none spec others events world :=
  happenAll_unwatched (fun _ => True) (fun _ _ _ => trivial)
    (fun look within _ _ => checkOwner_of_running (running look within)) others trivial

theorem happen_clientDied (spec : SessionSpec) {alive : Bool}
    (known : world.aliveAt 0 = some alive) :
    happen spec .clientDied world = clientDeath world := by
  obtain ⟨token, first, _⟩ := Option.map_eq_some_iff.mp known
  have nonempty : world.tokens ≠ [] := by
    intro empty
    simp [empty] at first
  obtain ⟨head, others, tokens⟩ := List.exists_cons_of_ne_nil nonempty
  simp only [happen, ScriptEvent.operation?, tokens]

/-- If the process of a live client is gone at the first look, the events show what they show
after the client's death. -/
theorem happenAll_of_gone {process : UInt32} {processes : Nat → ProcessTable}
    {events : List ScriptEvent} (some_event : events ≠ [])
    (gone : (processes 0).alive process = false) (spec : SessionSpec)
    (others : Nat → ProcessTable) (alive : world.aliveAt 0 = some true) :
    (happenAll (some process) spec processes events world).ShowsAs
      (happenAll none spec others (.clientDied :: events) world) := by
  obtain ⟨event, rest, rfl⟩ := List.exists_cons_of_ne_nil some_event
  have death := checkOwner_of_gone gone alive
  have bereaved : (checkOwner (processes 0) (some process) world).world.aliveAt 0 ≠
      some true := by
    rw [death.world_eq]
    exact bereaved_clientDeath world
  have scripted : happenAll none spec others (.clientDied :: event :: rest) world =
      (clientDeath world).andThen
        (happenAll none spec (fun look => others (look + 1)) (event :: rest)) := by
    conv_lhs => unfold happenAll
    have nobody : checkOwner (others 0) none world = ⟨world, []⟩ := rfl
    rw [nobody, ← happen_clientDied spec alive]
    rfl
  have watched : happenAll (some process) spec processes (event :: rest) world =
      (checkOwner (processes 0) (some process) world).andThen fun world =>
        (happen spec event world).andThen
          (happenAll (some process) spec (fun look => processes (look + 1)) rest) := by
    unfold happenAll ReplayStep.andThen
    simp only [List.append_assoc]
  rw [scripted, watched]
  refine death.andThen ?_
  -- the client is dead from here on, so the remaining looks are idle
  have nobody : checkOwner (others 1) none
      (checkOwner (processes 0) (some process) world).world = ⟨_, []⟩ := rfl
  rw [happenAll, nobody]
  refine .andThen ⟨rfl, rfl⟩ ?_
  rw [happenAll_of_bereaved (some process) spec _ (fun look => others (look + 1 + 1)) rest
    (bereaved_happen spec event bereaved)]
  exact .refl _

/-- The end of a replay: the session is destroyed, unless the script did so, and given up. -/
def conclude (events : List ScriptEvent) (played : ReplayStep) : ReplayStep :=
  (if events.contains .destroy then played else played.andThen (perform .destroy)).andThen leave

end Replay

theorem ReplayStep.ShowsAs.conclude {played other : ReplayStep} (same : played.ShowsAs other)
    {events others : List ScriptEvent}
    (alike : events.contains .destroy = others.contains .destroy) :
    (Replay.conclude events played).ShowsAs (Replay.conclude others other) := by
  unfold Replay.conclude
  rw [alike]
  split
  · exact same.andThen (.refl _)
  · exact (same.andThen (.refl _)).andThen (.refl _)

namespace ReplayScript

variable (script : ReplayScript) (config : MonitorConfig) (strangers : Nat → Bool)

theorem runWith_eq (processes : Nat → ProcessTable) (owner : Option UInt32)
    (token : Option (ClientToken Nat)) (cookie : Int32) :
    script.runWith processes config owner strangers token cookie =
      Replay.conclude script.events
        (((script.make config strangers token cookie).andThen (Replay.perform .start)).andThen
          (Replay.happenAll owner script.session processes script.events)) :=
  rfl

/-- How many events a script has shows only in the log of its making. -/
theorem make_showsAs (events : List ScriptEvent) (token : Option (ClientToken Nat))
    (cookie : Int32) :
    (script.make config strangers token cookie).ShowsAs
      (ReplayScript.make { script with events } config strangers token cookie) where
  world_eq := rfl
  lines_eq := by
    simp only [ReplayStep.lines, make, List.filterMap_append]
    rfl

/-- The client of a new session is as its token says. -/
theorem aliveAt_started (token : Option (ClientToken Nat)) (cookie : Int32) :
    ((script.make config strangers token cookie).andThen (Replay.perform .start)).world.aliveAt 0 =
      token.map (·.alive) := by
  rw [ReplayStep.world_andThen, Replay.aliveAt_perform]
  cases token with
  | none => rfl
  | some token =>
      change (World.make _ _ _ _ _).world.aliveAt 0 = _
      cases alive : token.alive <;>
        simp [World.make, World.aliveAt, surroundings, ClientToken.link, alive, Except.map]

/-- Which process backs the client's token shows in no line. -/
theorem lines_runWith_fresh (processes : Nat → ProcessTable) (owner given other : Option UInt32)
    (cookie : Int32) :
    (script.runWith processes config owner strangers (some (.fresh given)) cookie).lines =
      (script.runWith processes config owner strangers (some (.fresh other)) cookie).lines := by
  have same :=
    script.runWith_backedBy other config strangers processes owner (some (.fresh given)) cookie
  exact (congrArg ReplayStep.lines same).symm

/-- What the looks at the client's process show.  If the process is gone at the first of them,
a replay shows the lines of the script that begins with the client's death, without a look at
any process.  If the process runs at every look, or there is nothing to look at it for, a
replay shows the lines that it shows without looking; and so it does if the session has no
token.  All replays take their cookie from the same counter, and tokens are fresh, whichever
process backs them. -/
theorem probing_shows_scripted_death (processes : Nat → ProcessTable) (process : UInt32)
    (given other : Option UInt32) (counter : CookieCounter) :
    let lines (script : ReplayScript) (owner : Option UInt32)
        (token : Option (ClientToken Nat)) : List ReplayLine :=
      (script.runWith processes config owner strangers token
        (script.session.takeCookie counter).1).lines
    (script.events ≠ [] → (processes 0).alive process = false →
      lines script (some process) (some (.fresh given)) =
        lines { script with events := .clientDied :: script.events } none
          (some (.fresh other))) ∧
      (script.events = [] ∨ (∀ look < script.events.length,
          (processes look).alive process = true) →
        lines script (some process) (some (.fresh given)) =
          lines script none (some (.fresh other))) ∧
      lines script (some process) none = lines script none none := by
  intro lines
  refine ⟨?_, ?_, ?_⟩
  · intro someEvent gone
    have alive := script.aliveAt_started config strangers (some (.fresh other))
      (script.session.takeCookie counter).1
    have making := (script.make_showsAs config strangers (.clientDied :: script.events)
      (some (.fresh other)) (script.session.takeCookie counter).1).andThen
        (.refl (Replay.perform .start _))
    have played := making.andThen
      (Replay.happenAll_of_gone someEvent gone script.session processes alive)
    simp only [lines]
    rw [script.lines_runWith_fresh config strangers processes (some process) given other,
      runWith_eq, runWith_eq]
    exact (played.conclude (by simp)).lines_eq
  · intro idle
    have running : ∀ look < script.events.length, ∀ watched ∈ some process,
        (processes look).alive watched = true := by
      intro look within watched isWatched
      obtain rfl := Option.some.inj isWatched
      rcases idle with none | running
      · simp [none] at within
      · exact running look within
    simp only [lines]
    rw [script.lines_runWith_fresh config strangers processes (some process) given other,
      runWith_eq, runWith_eq]
    rw [ReplayStep.andThen_congr
      (Replay.happenAll_of_running running script.session processes)]
  · have bereaved :
        ((script.make config strangers none (script.session.takeCookie counter).1).andThen
          (Replay.perform .start)).world.aliveAt 0 ≠ some true := by
      rw [aliveAt_started]
      nofun
    simp only [lines]
    rw [runWith_eq, runWith_eq, ReplayStep.andThen_congr
      (Replay.happenAll_of_bereaved _ _ processes processes _ bereaved)]

/-- The process of an enrollment's client is gone before the first event.  The stop, the
client's death and the destruction that the script brings then find nothing to do, just as
after a death that the script itself begins with. -/
theorem probing_shows_scripted_death_orphaned :
    let spec : SessionSpec := ⟨.enroll, 10, 20, false, "owner", 42, 1, 0, 0, [], true⟩
    let script : ReplayScript :=
      ⟨spec, .standard, .standard, [.stop true, .clientDied, .enrollResult 7 0, .destroy]⟩
    let processes (_ : Nat) : ProcessTable := ⟨fun _ => false⟩
    let lines (script : ReplayScript) (owner : Option UInt32)
        (token : ClientToken Nat) : List ReplayLine :=
      (script.runWith processes .standard owner (fun _ => false) (some token)
        (script.session.takeCookie .initial).1).lines
    script.events ≠ [] ∧ (processes 0).alive 4000 = false ∧
      lines script (some 4000) (.fresh (some 4000)) =
        [.halStart .enroll 0, .status .start 0, .halStop false 0, .clientDied 1,
          .status .stop 0, .clientDied 0, .haptic .click, .verdict .enrollResult true,
          .destroyed] ∧
      lines script (some 4000) (.fresh (some 4000)) =
        lines { script with events := .clientDied :: script.events } none (.fresh none) := by
  intro spec script processes lines
  have someEvent : script.events ≠ [] := by decide
  have gone : (processes 0).alive 4000 = false := by decide
  exact ⟨someEvent, gone, by decide, (probing_shows_scripted_death script .standard
    (fun _ => false) processes 4000 (some 4000) none .initial).1 someEvent gone⟩

end ReplayScript

end BiometricSession
