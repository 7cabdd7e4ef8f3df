import BiometricSession.Proofs.Cookie
import BiometricSession.Proofs.Replay.Account

/-!
# The cookies of replays

Replays that share a counter take their cookies from it in turn.  Only an
authentication without a cookie of its own takes one, and no replay takes more;
every error that a replay shows carries the cookie of its session.
-/

namespace BiometricSession

/-! ## Errors carry the session's cookie -/

/-- The cookie that a line shows along with an error. -/
def ReplayLine.errorCookie? : ReplayLine → Option Int32
  | delivered (.error _ _ _ cookie) | deliveryFailed (.error _ _ _ cookie) => some cookie
  | _ => none

/-- A line shows no error, or one under the given cookie. -/
def ReplayLine.Carries (cookie : Int32) (line : ReplayLine) : Prop :=
  ∀ carried ∈ line.errorCookie?, carried = cookie

namespace HardwareEvent

variable {descriptor : SessionDescriptor} {event : HardwareEvent}

theorem cookie_of_mem_news {device : UInt64} {code vendor cookie : Int32}
    (isNews : .error device code vendor cookie ∈ event.news descriptor) :
    cookie = descriptor.cookie := by
  cases event with
  | acquired => simp [news] at isNews
  | error => simp_all [news]
  | result outcome =>
      cases outcome with
      | authenticated identifier accepted token => cases accepted <;> simp_all [news]
      | enrolled | removed | enumerated => simp [news] at isNews

theorem carries_of_shows {line : ReplayLine} (shown : event.shows descriptor line) :
    line.Carries descriptor.cookie := by
  intro carried isCarried
  cases line with
  | delivered told | deliveryFailed told =>
      cases told with
      | error device code vendor cookie =>
          obtain rfl := Option.some.inj isCarried
          exact cookie_of_mem_news shown
      | _ => cases isCarried
  | _ => cases isCarried

end HardwareEvent

theorem Operation.carries_of_shows {descriptor : SessionDescriptor} {stopStatus : Int32}
    {operation : Operation} {line : ReplayLine}
    (shown : operation.shows descriptor stopStatus line) : line.Carries descriptor.cookie := by
  cases operation with
  | start | destroy => cases shown
  | callback event => exact HardwareEvent.carries_of_shows shown
  | stop | clientDied =>
      rw [shown]
      nofun

theorem ScriptEvent.carries_of_shows {script : ReplayScript} {cookie : Int32}
    {event : ScriptEvent} {line : ReplayLine} (shown : event.shows script cookie line) :
    line.Carries cookie := by
  unfold shows at shown
  split at shown
  · exact Operation.carries_of_shows shown
  · rw [shown]
    nofun

/-- No line of a block shows an error under another cookie. -/
theorem EventLines.Accounts.carries {script : ReplayScript} {cookie : Int32}
    {event : ScriptEvent} {block : EventLines} (accounts : block.Accounts script cookie event)
    {line : ReplayLine} (member : line ∈ block.lines) : line.Carries cookie := by
  rcases accounts.line_cases member with rfl | ⟨notified, rfl⟩ | shown | closes
  · nofun
  · nofun
  · exact ScriptEvent.carries_of_shows shown
  · cases line with
    | delivered | deliveryFailed => cases event <;> cases closes
    | _ => nofun

theorem ReplayScript.lines_carry (script : ReplayScript) (config : MonitorConfig)
    (processes : Nat → ProcessTable) (owner : Option UInt32) (strangers : Nat → Bool)
    (token : Option (ClientToken Nat)) (cookie : Int32) :
    ∀ line ∈ (script.runWith processes config owner strangers token cookie).lines,
      line.Carries cookie := by
  obtain ⟨monitor, after, blocks, played, all⟩ :=
    script.runWith_in_blocks config processes owner strangers token cookie
  intro line member
  rw [all] at member
  rcases List.mem_append.mp member with opening | rest
  · rcases List.mem_pair.mp opening with rfl | rfl <;> nofun
  · rcases List.mem_append.mp rest with inBlock | ending
    · obtain ⟨block, isBlock, isLine⟩ := List.mem_flatMap.mp inBlock
      obtain ⟨event, accounts⟩ := EventLines.exists_accounted played.accounts isBlock
      exact accounts.carries isLine
    · split at ending
      · cases ending
      · rw [List.mem_singleton.mp ending]
        nofun

/-! ## Taking a cookie -/

namespace SessionSpec

/-- Whether a session takes its cookie from the counter. -/
def drawsCookie (spec : SessionSpec) : Bool :=
  spec.cookie = 0 && spec.kind = .authenticate

variable {spec : SessionSpec} (counter : CookieCounter)

theorem takeCookie_of_draws (draws : spec.drawsCookie = true) :
    (spec.takeCookie counter).1 = counter.allocate.1 ∧
      (spec.takeCookie counter).2.1 = counter.allocate.2 := by
  have taken : (spec.cookie = 0 && spec.kind = .authenticate) = true := draws
  rw [takeCookie, if_pos taken]
  exact ⟨rfl, rfl⟩

theorem takeCookie_of_keeps (keeps : spec.drawsCookie = false) :
    spec.takeCookie counter = (spec.cookie, counter, []) :=
  if_neg (Bool.eq_false_iff.mp keeps)

theorem cookie_ne_zero (authenticates : spec.kind = .authenticate) :
    (spec.takeCookie counter).1 ≠ 0 := by
  cases draws : spec.drawsCookie with
  | true =>
      rw [(takeCookie_of_draws counter draws).1, counter.allocate_eq]
      have positive := counter.first_pos
      intro zero
      have zero : counter.first = 0 := zero
      rw [zero] at positive
      cases positive
  | false =>
      rw [takeCookie_of_keeps counter draws]
      simpa [drawsCookie, authenticates] using draws

end SessionSpec

/-! ## Replays in turn -/

/-- A replay that is to be run: all that it depends on but the counter. -/
structure ReplayOrder where
  script : ReplayScript
  config : MonitorConfig
  processes : Nat → ProcessTable
  owner : Option UInt32
  strangers : Nat → Bool
  token : Option (ClientToken Nat)

/-- What came of a replay that was to be run. -/
structure FilledOrder where
  order : ReplayOrder
  /-- The cookie under which its session was made. -/
  cookie : Int32
  lines : List ReplayLine

namespace ReplayOrder

def draws (order : ReplayOrder) : Bool :=
  order.script.session.drawsCookie

/-- Run one replay, and leave the counter to the next one. -/
def fill (order : ReplayOrder) (counter : CookieCounter) : FilledOrder × CookieCounter :=
  let (cookie, later, _) := order.script.session.takeCookie counter
  let step := order.script.runWith order.processes order.config order.owner order.strangers
    order.token cookie
  (⟨order, cookie, step.lines⟩, later)

/-- Run replays one after the other. -/
def fillAll : List ReplayOrder → CookieCounter → List FilledOrder × CookieCounter
  | [], counter => ([], counter)
  | order :: orders, counter =>
      let (filled, later) := order.fill counter
      let (others, last) := fillAll orders later
      (filled :: others, last)

/-- Scripts that are replayed one after the other are such replays, each with a
fresh token, which is linked to no stranger. -/
theorem fillAll_eq_runAll (config : MonitorConfig) (processes : ProcessTable)
    (owner : Option UInt32) (scripts : List ReplayScript) (counter : CookieCounter) :
    (ReplayScript.runAll processes config owner scripts counter).map (·.lines) =
      (fillAll (scripts.map fun script =>
        ⟨script, config, fun _ => processes, owner, fun _ => false, script.clientToken owner⟩)
          counter).1.map (·.lines) := by
  induction scripts generalizing counter with
  | nil => rfl
  | cons script scripts ih =>
      exact congrArg (List.cons _) (ih _)

variable (orders : List ReplayOrder) (counter : CookieCounter)

theorem map_order_fillAll : (fillAll orders counter).1.map (·.order) = orders := by
  induction orders generalizing counter with
  | nil => rfl
  | cons order orders ih => exact congrArg (List.cons order) (ih _)

theorem mem_fillAll {filled : FilledOrder} (member : filled ∈ (fillAll orders counter).1) :
    ∃ before, filled = (filled.order.fill before).1 := by
  induction orders generalizing counter with
  | nil => cases member
  | cons order orders ih =>
      rcases List.mem_cons.mp member with rfl | later
      · exact ⟨counter, rfl⟩
      · exact ih _ later

/-- The sessions that take a cookie get those that the counter hands out, each
one of them, and leave the counter behind them. -/
theorem cookies_fillAll :
    (((fillAll orders counter).1.filter (·.order.draws)).map (·.cookie),
        (fillAll orders counter).2) =
      counter.allocateMany (orders.countP draws) := by
  induction orders generalizing counter with
  | nil => rfl
  | cons order orders ih =>
      cases draws : order.draws with
      | true =>
          obtain ⟨cookie, later⟩ := SessionSpec.takeCookie_of_draws counter draws
          have taken : (order.fill counter).1.cookie = counter.allocate.1 := cookie
          have left : (order.fill counter).2 = counter.allocate.2 := later
          have drawn : (order.fill counter).1.order.draws = true := draws
          simp only [fillAll, List.countP_cons_of_pos draws, CookieCounter.allocateMany_succ,
            ← ih, List.filter_cons, drawn, if_pos, List.map_cons, taken, left]
      | false =>
          have kept := SessionSpec.takeCookie_of_keeps counter draws
          have left : (order.fill counter).2 = counter := congrArg (·.2.1) kept
          have passed : (order.fill counter).1.order.draws = false := draws
          have uncounted : ¬ order.draws = true := Bool.eq_false_iff.mp draws
          simp [fillAll, List.countP_cons_of_neg uncounted, ← ih, passed, left]

/-- Cookies are positive, follow each other in numeric order with one after the
largest number, and so return only after all others.  Of replays that share a
counter exactly the authentications without a cookie of their own take one each,
in turn; every other session keeps its own.  The session of a replay is made
under its cookie, every error that is shown carries it, and no authentication is
without one. -/
theorem cookies_return_late_and_name_sessions :
    (∀ count, let cookies := (counter.allocateMany count).1
      cookies.length = count ∧
        (∀ cookie ∈ cookies, 1 ≤ cookie.toInt ∧ cookie.toInt ≤ 2147483647) ∧
        (∀ first ∈ cookies.head?, first = if 0 < counter.next then counter.next else 1) ∧
        (cookies.IsChain fun cookie next =>
          next = if cookie = Int32.maxValue then 1 else cookie + 1) ∧
        ∀ start, ((cookies.drop start).take 2147483647).Nodup) ∧
      let filled := fillAll orders counter
      filled.1.map (·.order) = orders ∧
        ((filled.1.filter (·.order.draws)).map (·.cookie), filled.2) =
          counter.allocateMany (orders.countP draws) ∧
        ∀ replay ∈ filled.1, let script := replay.order.script
          (script.session.drawsCookie = false → replay.cookie = script.session.cookie) ∧
            (∃ monitor,
              (script.make replay.order.config replay.order.strangers replay.order.token
                replay.cookie).world.monitors = [some monitor] ∧
                  monitor.setting.descriptor.cookie = replay.cookie) ∧
            replay.lines = (script.runWith replay.order.processes replay.order.config
              replay.order.owner replay.order.strangers replay.order.token
              replay.cookie).lines ∧
            (∀ line ∈ replay.lines, line.Carries replay.cookie) ∧
            (script.session.kind = .authenticate → replay.cookie ≠ 0) := by
  refine ⟨fun count => ⟨counter.length_cookies count, ?_, ?_, counter.isChain_cookies count,
    counter.nodup_cookies count⟩, map_order_fillAll orders counter,
    cookies_fillAll orders counter, ?_⟩
  · intro cookie isCookie
    have lower := Int32.lt_iff_toInt_lt.mp (counter.cookies_pos count cookie isCookie)
    have upper := cookie.toInt_lt
    rw [Int32.toInt_zero] at lower
    omega
  · intro first isFirst
    cases count with
    | zero => cases isFirst
    | succ count =>
        rw [counter.head?_cookies] at isFirst
        exact (Option.some.inj isFirst).symm
  · intro replay member script
    obtain ⟨before, filled⟩ := mem_fillAll orders counter member
    have cookie : replay.cookie = (script.session.takeCookie before).1 :=
      congrArg FilledOrder.cookie filled
    have lines : replay.lines = (script.runWith replay.order.processes replay.order.config
        replay.order.owner replay.order.strangers replay.order.token replay.cookie).lines := by
      rw [cookie]
      exact congrArg FilledOrder.lines filled
    refine ⟨?_, ?_, lines, ?_, ?_⟩
    · intro keeps
      rw [cookie, SessionSpec.takeCookie_of_keeps before keeps]
    · obtain ⟨-, monitor, scene, -⟩ :=
        script.scene_make replay.order.config replay.order.strangers replay.order.token
          replay.cookie
      exact ⟨monitor, scene.alone, congrArg SessionDescriptor.cookie scene.descriptor_eq⟩
    · rw [lines]
      exact script.lines_carry _ _ _ _ _ _
    · intro authenticates
      rw [cookie]
      exact SessionSpec.cookie_ne_zero before authenticates

/-- After the largest number an authentication is given one, while the
enrollment before it keeps the cookie of its script. -/
theorem cookies_past_the_largest :
    let script (kind : ClientKind) : ReplayScript :=
      ⟨⟨kind, 0, 0, false, "owner", 0, 1, 0, 0, [], true⟩, .standard, .standard,
        [.error 1 0 none]⟩
    let order (kind : ClientKind) : ReplayOrder :=
      ⟨script kind, .standard, fun _ => ⟨fun _ => true⟩, none, fun _ => false, none⟩
    let orders := [order .authenticate, order .enroll, order .authenticate]
    let filled := (fillAll orders ⟨Int32.maxValue⟩).1
    ((⟨Int32.maxValue⟩ : CookieCounter).allocateMany (orders.countP draws)).1 = [2147483647, 1] ∧
      (filled.filter (·.order.draws)).map (·.cookie) = [2147483647, 1] ∧
      ∀ replay ∈ filled,
        (∀ line ∈ replay.lines, line.Carries replay.cookie) ∧
          (replay.order.script.session.kind = .authenticate → replay.cookie ≠ 0) := by
  intro script order orders filled
  have taken :
      ((⟨Int32.maxValue⟩ : CookieCounter).allocateMany (orders.countP draws)).1 =
        [2147483647, 1] := by
    change (CookieCounter.allocateMany 2 _).1 = _
    rw [CookieCounter.allocateMany_succ, CookieCounter.allocateMany_succ,
      CookieCounter.allocate_eq, CookieCounter.allocate_eq]
    rfl
  obtain ⟨-, -, drawn, replays⟩ :=
    cookies_return_late_and_name_sessions orders ⟨Int32.maxValue⟩
  refine ⟨taken, (congrArg Prod.fst drawn).trans taken, fun replay member => ?_⟩
  obtain ⟨-, -, -, carried, named⟩ := replays replay member
  exact ⟨carried, named⟩

end ReplayOrder

end BiometricSession
