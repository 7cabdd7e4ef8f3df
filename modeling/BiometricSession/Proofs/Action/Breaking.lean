import BiometricSession.Proofs.Action.Composed
import BiometricSession.Proofs.Action.Reports

/-!
# Calls whose listener breaks

A listener that breaks takes so many events in all and refuses every other.  With such a
listener a call does what it does with one that takes everything, up to the first event that
is refused.  If nothing is refused, the calls are the same throughout.
-/

namespace BiometricSession

/-- All deliveries among some effects were taken. -/
def Effect.Taken (effects : List Effect) : Prop :=
  ∀ delivery ∈ deliveries effects, delivery.answer = .sent

theorem Effect.taken_append {first second : List Effect} :
    Taken (first ++ second) ↔ Taken first ∧ Taken second := by
  simp only [Taken, deliveries_append, List.forall_mem_append]

theorem Effect.attempts_append (first second : List Effect) :
    attempts (first ++ second) = attempts first ++ attempts second :=
  List.filterMap_append

/-- How a listener that breaks after so many events answers during a call, if it has heard so
many before. -/
def DeliveryAnswer.upTo (limit heard : Nat) (earlier : List ListenerEvent)
    (_ : ListenerEvent) : DeliveryAnswer :=
  if heard + earlier.length < limit then .sent else .refused .channelClosed

/-- What a call comes to with a listener that takes everything, and with one that breaks after
so many events, if it has heard so many before. -/
inductive Emission.Breaks (limit heard : Nat) {Value : Type} (whole cut : Emission Value) : Prop
  /-- The listener has taken everything. -/
  | intact (same : cut = whole) (taken : Effect.Taken whole.effects)
      (fits : heard + (Effect.attempts whole.effects).length ≤ limit)
  /-- The listener has taken what came before an event that it refuses. -/
  | broken {front rest back : List Effect} {event : ListenerEvent}
      (taken : Effect.Taken front) (full : heard + (Effect.attempts front).length = limit)
      (whole_eq : whole.effects = front ++ .delivery event .sent :: rest)
      (cut_eq : cut.effects = front ++ .delivery event (.refused .channelClosed) :: back)

namespace Call

variable {First Second Value : Type} {limit heard : Nat}

/-- Two calls are the same up to the first event that the listener of the second refuses. -/
def Breaks (limit heard : Nat) (whole cut : Call Value) : Prop :=
  ∀ earlier, heard + earlier.length ≤ limit →
    (whole earlier).Breaks limit (heard + earlier.length) (cut earlier)

/-- What a call goes on with comes after its own effects. -/
theorem effects_bind (first : Call First) (next : First → Call Second)
    (earlier : List ListenerEvent) :
    ∃ more, ((first >>= next) earlier).effects = (first earlier).effects ++ more := by
  cases ended : (first earlier).ending with
  | returned value =>
      rw [bind_eq_after_returned next ended]
      exact ⟨_, rfl⟩
  | crashed crash =>
      rw [bind_eq_of_crashed ended]
      exact ⟨[], (List.append_nil _).symm⟩

namespace Breaks

/-- A call without deliveries does not depend on the listener. -/
theorem of_untold {call : Call Value}
    (untold : ∀ earlier, Effect.deliveries (call earlier).effects = []) :
    call.Breaks limit heard call := by
  intro earlier within
  have none := untold earlier
  have nobody : Effect.attempts (call earlier).effects = [] := by
    rw [Effect.attempts_eq_map_deliveries, none]
    rfl
  refine .intact rfl ?_ ?_
  · simp [Effect.Taken, none]
  · simpa [nobody] using within

theorem pure (value : Value) :
    (Pure.pure value : Call Value).Breaks limit heard (Pure.pure value) :=
  of_untold fun _ => rfl

theorem emit {effects : List Effect} (untold : Effect.deliveries effects = []) :
    (Call.emit effects).Breaks limit heard (Call.emit effects) :=
  of_untold fun _ => untold

theorem note (notice : Notice) : (Call.note notice).Breaks limit heard (Call.note notice) :=
  emit rfl

theorem bind {first other : Call First} {next goesOn : First → Call Second}
    (front : first.Breaks limit heard other)
    (back : ∀ value, (next value).Breaks limit heard (goesOn value)) :
    (first >>= next).Breaks limit heard (other >>= goesOn) := by
  intro earlier within
  cases front earlier within with
  | broken taken full whole_eq cut_eq =>
      -- whatever follows comes after the event that is refused
      obtain ⟨more, whole⟩ := effects_bind first next earlier
      obtain ⟨others, cut⟩ := effects_bind other goesOn earlier
      rw [whole_eq, List.append_assoc, List.cons_append] at whole
      rw [cut_eq, List.append_assoc, List.cons_append] at cut
      exact .broken taken full whole cut
  | intact same taken fits =>
      cases ended : (first earlier).ending with
      | crashed crash =>
          have endedToo : (other earlier).ending = .crashed crash := by rw [same, ended]
          rw [bind_eq_of_crashed ended, bind_eq_of_crashed endedToo, same]
          exact .intact rfl taken fits
      | returned value =>
          have endedToo : (other earlier).ending = .returned value := by rw [same, ended]
          rw [bind_eq_after_returned next ended, bind_eq_after_returned goesOn endedToo, same]
          have reached : heard + (earlier ++ Effect.attempts (first earlier).effects).length =
              heard + earlier.length + (Effect.attempts (first earlier).effects).length := by
            rw [List.length_append, Nat.add_assoc]
          dsimp only
          generalize earlier ++ Effect.attempts (first earlier).effects = between at reached ⊢
          cases back value between (by omega) with
          | intact sameLater takenLater fitsLater =>
              refine .intact (by rw [sameLater]) (Effect.taken_append.mpr ⟨taken, takenLater⟩) ?_
              rw [Effect.attempts_append, List.length_append]
              omega
          | @broken before rest after event takenLater full whole_eq cut_eq =>
              have whole : (first earlier).effects ++ (next value between).effects =
                  ((first earlier).effects ++ before) ++ .delivery event .sent :: rest := by
                rw [whole_eq, List.append_assoc]
              have cut : (first earlier).effects ++ (goesOn value between).effects =
                  ((first earlier).effects ++ before) ++
                    .delivery event (.refused .channelClosed) :: after := by
                rw [cut_eq, List.append_assoc]
              refine .broken (Effect.taken_append.mpr ⟨taken, takenLater⟩) ?_ whole cut
              rw [Effect.attempts_append, List.length_append]
              omega

end Breaks

end Call

/-! ## What the scope offers -/

namespace Scope

variable {scope : Scope} {limit heard : Nat}

/-- The listener of a scope takes everything. -/
def TakesAll (scope : Scope) : Prop :=
  ∀ earlier event, scope.answers.delivery earlier event = .sent

theorem breaks_deliverOrNote (takes : scope.TakesAll) (event : ListenerEvent) :
    (scope.deliverOrNote event).Breaks limit heard
      ((scope.answering (.upTo limit heard)).deliverOrNote event) := by
  intro earlier within
  have answer : (scope.answering (.upTo limit heard)).answers.delivery earlier event =
      if heard + earlier.length < limit then .sent else .refused .channelClosed := rfl
  rw [deliverOrNote_eq, deliverOrNote_eq, takes, answer,
    show (scope.answering (.upTo limit heard)).listening = scope.listening from rfl]
  cases scope.listening with
  | false => exact .intact rfl (by simp [Effect.Taken]) within
  | true =>
      by_cases room : heard + earlier.length < limit
      · rw [if_pos room]
        exact .intact rfl (by simp [Effect.Taken, Effect.deliveries, Effect.delivery?]) room
      · rw [if_neg room]
        have full : heard + earlier.length + (Effect.attempts []).length = limit :=
          Nat.le_antisymm within (Nat.le_of_not_lt room)
        exact .broken (by simp [Effect.Taken]) full rfl rfl

theorem breaks_reportError (takes : scope.TakesAll) (kind : ClientKind) (device : UInt64)
    (error vendor : Int32) :
    (scope.reportError kind device error vendor).Breaks limit heard
      ((scope.answering (.upTo limit heard)).reportError kind device error vendor) := by
  unfold reportError
  refine (Call.Breaks.emit rfl).bind ?_
  intro _
  exact (breaks_deliverOrNote takes _).bind fun _ => .pure ()

theorem compares_breaks (takes : scope.TakesAll) (kind : ClientKind) (result : HardwareResult) :
    scope.Compares (.upTo limit heard) kind result fun whole cut =>
      whole.Breaks limit heard cut where
  pure := Call.Breaks.pure
  bind := Call.Breaks.bind
  note := Call.Breaks.note
  vibrate effect _ := Call.Breaks.emit (by cases effect <;> rfl)
  tell := breaks_deliverOrNote takes _
  lockout _ _ := breaks_reportError takes _ _ _ _

end Scope

end BiometricSession
