import BiometricSession.Proofs.Text.Numeral
import BiometricSession.Replay.Line

/-!
# What the text of a replay line tells

The text of a line tells the line.  What is shown is told by the first
characters; the names end at a blank or a parenthesis, and the numbers are told
because something else than a numeral follows them.  No text has a line end
inside.
-/

namespace BiometricSession

open Text

/-! ## Names -/

namespace ClientKind

theorem name_injective : Function.Injective name := by
  intro kind other same
  cases kind <;> cases other <;> simp_all [name]

/-- A name has no blank in it. -/
theorem blank_not_mem_name (kind : ClientKind) :
    ∀ character ∈ kind.name.toList, (character != ' ') = true :=
  List.all_eq_true.mp (by cases kind <;> decide)

end ClientKind

namespace Callback

theorem name_injective : Function.Injective name := by
  intro callback other same
  cases callback <;> cases other <;> simp_all [name]

theorem blank_not_mem_name (callback : Callback) :
    ∀ character ∈ callback.name.toList, (character != ' ') = true :=
  List.all_eq_true.mp (by cases callback <;> decide)

end Callback

namespace ReplayRequest

theorem name_injective : Function.Injective name := by
  intro request other same
  cases request <;> cases other <;> simp_all [name]

theorem blank_not_mem_name (request : ReplayRequest) :
    ∀ character ∈ request.name.toList, (character != ' ') = true :=
  List.all_eq_true.mp (by cases request <;> decide)

end ReplayRequest

theorem HapticEffect.inspect_injective :
    Function.Injective (inspect : HapticEffect → String) := by
  intro effect other same
  cases effect <;> cases other <;> simp_all [inspect]

theorem ReplayLine.verdictText_injective : Function.Injective verdictText := by
  intro finished other same
  cases finished <;> cases other <;> simp_all [verdictText]

theorem inspect_bool_injective : Function.Injective (inspect : Bool → String) := by
  intro value other same
  cases value <;> cases other <;> simp_all [inspect]

/-! ## Numbers -/

theorem inspect_int32_injective : Function.Injective (inspect : Int32 → String) :=
  fun _ _ same => Int32.toInt_inj.mp (Decimal.text_injective same)

section Numbers

variable {front rest last : List Char} (leaves : Leaves Decimal.isNumeral rest)
  (leavesOther : Leaves Decimal.isNumeral last)
include leaves leavesOther

theorem int32_between_inj {number other : Int32}
    (same : front ++ ((inspect number).toList ++ rest) =
      front ++ ((inspect other).toList ++ last)) : number = other ∧ rest = last := by
  obtain ⟨numbers, rests⟩ := Decimal.text_between_inj leaves leavesOther same
  exact ⟨Int32.toInt_inj.mp numbers, rests⟩

theorem uint64_between_inj {number other : UInt64}
    (same : front ++ ((inspect number).toList ++ rest) =
      front ++ ((inspect other).toList ++ last)) : number = other ∧ rest = last := by
  obtain ⟨numbers, rests⟩ := Decimal.text_between_inj leaves leavesOther same
  exact ⟨UInt64.toNat_inj.mp (Int.ofNat_inj.mp numbers), rests⟩

theorem nat_between_inj {number other : Nat}
    (same : front ++ ((inspect number).toList ++ rest) =
      front ++ ((inspect other).toList ++ last)) : number = other ∧ rest = last := by
  obtain ⟨numbers, rests⟩ := Decimal.text_between_inj leaves leavesOther same
  exact ⟨Int.ofNat_inj.mp numbers, rests⟩

end Numbers

/-! ## Deliveries as text -/

namespace Delivery

/-- The name by which an output calls an event. -/
def name : Delivery → String
  | acquired .. => "acquired"
  | error .. => "error"
  | enrollResult .. => "enroll_result"
  | authenticationSucceeded .. => "authentication_succeeded"
  | authenticationFailed .. => "authentication_failed"
  | removed .. => "removed"
  | enumerated .. => "enumerated"

/-- The names of all events. -/
def names : List String :=
  ["acquired", "error", "enroll_result", "authentication_succeeded", "authentication_failed",
    "removed", "enumerated"]

theorem idxOf_name (event : Delivery) : names.idxOf event.name = event.ctorIdx := by
  cases event <;> rfl

theorem name_mem_names (event : Delivery) : event.name ∈ names := by
  cases event <;> simp [name, names]

/-- An identifier and how often it is still to be seen, as they stand behind the
name of an event. -/
def countdown (biometric remaining : Int32) : List Char :=
  "id=".toList ++ ((inspect biometric).toList ++ (", remaining=".toList ++
    ((inspect remaining).toList ++ ")".toList)))

/-- What stands behind the name of an event and the parenthesis after it. -/
def details : Delivery → List Char
  | acquired device info vendor =>
      "device=".toList ++ ((inspect device).toList ++ (", info=".toList ++
        ((inspect info).toList ++ (", vendor=".toList ++ ((inspect vendor).toList ++
          ")".toList)))))
  | error device code vendor cookie =>
      "device=".toList ++ ((inspect device).toList ++ (", error=".toList ++
        ((inspect code).toList ++ (", vendor=".toList ++ ((inspect vendor).toList ++
          (", cookie=".toList ++ ((inspect cookie).toList ++ ")".toList)))))))
  | authenticationSucceeded biometric tokenLength =>
      "id=".toList ++ ((inspect biometric).toList ++ (", token=".toList ++
        ((inspect tokenLength).toList ++ " bytes)".toList)))
  | authenticationFailed device => "device=".toList ++ ((inspect device).toList ++ ")".toList)
  | enrollResult biometric remaining | removed biometric remaining
  | enumerated biometric remaining => countdown biometric remaining

theorem toList_text (event : Delivery) :
    event.text.toList = event.name.toList ++ '(' :: event.details := by
  cases event <;>
    (delta text
     dsimp only [name, details, countdown]
     simp [String.toList_append, List.append_assoc])

theorem countdown_inj {biometric other remaining left : Int32}
    (same : countdown biometric remaining = countdown other left) :
    biometric = other ∧ remaining = left := by
  obtain ⟨biometrics, same⟩ := int32_between_inj (leaves_word (by decide) _)
    (leaves_word (by decide) _) same
  exact ⟨biometrics, (int32_between_inj (leaves_lastWord (by decide))
    (leaves_lastWord (by decide)) same).1⟩

/-- Events of one kind are told by their details. -/
theorem details_inj {event other : Delivery} (kinds : event.ctorIdx = other.ctorIdx)
    (same : event.details = other.details) : event = other := by
  cases event with
  | acquired device info vendor =>
      cases other with
      | acquired device' info' vendor' =>
          obtain ⟨rfl, afterDevice⟩ := uint64_between_inj (leaves_word (by decide) _)
            (leaves_word (by decide) _) same
          obtain ⟨rfl, afterInfo⟩ := int32_between_inj (leaves_word (by decide) _)
            (leaves_word (by decide) _) afterDevice
          obtain ⟨rfl, -⟩ := int32_between_inj (leaves_lastWord (by decide))
            (leaves_lastWord (by decide)) afterInfo
          rfl
      | _ => cases kinds
  | error device code vendor cookie =>
      cases other with
      | error device' code' vendor' cookie' =>
          obtain ⟨rfl, afterDevice⟩ := uint64_between_inj (leaves_word (by decide) _)
            (leaves_word (by decide) _) same
          obtain ⟨rfl, afterCode⟩ := int32_between_inj (leaves_word (by decide) _)
            (leaves_word (by decide) _) afterDevice
          obtain ⟨rfl, afterVendor⟩ := int32_between_inj (leaves_word (by decide) _)
            (leaves_word (by decide) _) afterCode
          obtain ⟨rfl, -⟩ := int32_between_inj (leaves_lastWord (by decide))
            (leaves_lastWord (by decide)) afterVendor
          rfl
      | _ => cases kinds
  | authenticationSucceeded biometric tokenLength =>
      cases other with
      | authenticationSucceeded biometric' tokenLength' =>
          obtain ⟨rfl, afterBiometric⟩ := int32_between_inj (leaves_word (by decide) _)
            (leaves_word (by decide) _) same
          obtain ⟨rfl, -⟩ := nat_between_inj (leaves_lastWord (by decide))
            (leaves_lastWord (by decide)) afterBiometric
          rfl
      | _ => cases kinds
  | authenticationFailed device =>
      cases other with
      | authenticationFailed device' =>
          obtain ⟨rfl, -⟩ := uint64_between_inj (leaves_lastWord (by decide))
            (leaves_lastWord (by decide)) same
          rfl
      | _ => cases kinds
  | enrollResult biometric remaining =>
      cases other with
      | enrollResult =>
          obtain ⟨rfl, rfl⟩ := countdown_inj same
          rfl
      | _ => cases kinds
  | removed biometric remaining =>
      cases other with
      | removed =>
          obtain ⟨rfl, rfl⟩ := countdown_inj same
          rfl
      | _ => cases kinds
  | enumerated biometric remaining =>
      cases other with
      | enumerated =>
          obtain ⟨rfl, rfl⟩ := countdown_inj same
          rfl
      | _ => cases kinds

theorem text_injective : Function.Injective text := by
  intro event other same
  have parenthesis : ∀ rest, Leaves (· != '(') ('(' :: rest) := leaves_cons (by decide)
  have inside (name : String) (isName : name ∈ names) :
      ∀ character ∈ name.toList, (character != '(') = true := by
    have blocks : (names.all fun name => name.toList.all (· != '(')) = true := by decide
    exact List.all_eq_true.mp (List.all_eq_true.mp blocks name isName)
  have texts := congrArg String.toList same
  rw [toList_text, toList_text] at texts
  obtain ⟨names, rests⟩ := block_append_inj (inside _ event.name_mem_names)
    (inside _ other.name_mem_names) (parenthesis _) (parenthesis _) texts
  have kinds : Delivery.names.idxOf event.name = Delivery.names.idxOf other.name := by
    rw [String.toList_injective names]
  rw [idxOf_name, idxOf_name] at kinds
  exact details_inj kinds (List.cons.inj rests).2

end Delivery

/-! ## Lines as text -/

namespace ReplayLine

/-- The characters of a line. -/
def characters : ReplayLine → List Char
  | halStart kind code =>
      "hal start ".toList ++ (kind.name.toList ++ (" -> ".toList ++ (inspect code).toList))
  | halStop byClient code =>
      "hal stop (client=".toList ++ ((inspect byClient).toList ++ (") -> ".toList ++
        (inspect code).toList))
  | delivered event => "  > ".toList ++ event.text.toList
  | deliveryFailed event => "  x ".toList ++ (event.text.toList ++ " (channel broken)".toList)
  | haptic effect => "  ~ haptic ".toList ++ (inspect effect).toList
  | userActivity user => "  ~ user activity for user ".toList ++ (inspect user).toList
  | verdict callback finished =>
      callback.name.toList ++ (" -> ".toList ++ (verdictText finished).toList)
  | status request code => request.name.toList ++ (" -> ".toList ++ (inspect code).toList)
  | clientDied notified =>
      "client died (".toList ++ ((inspect notified).toList ++ " recipient(s) notified)".toList)
  | destroyed => "destroyed".toList

theorem toList_text (line : ReplayLine) : line.text.toList = line.characters := by
  cases line with
  | destroyed => rfl
  | _ =>
      delta text
      dsimp only [characters]
      simp only [String.toList_append, List.append_assoc]

/-- What a line shows, told by its first characters. -/
def sortOfText : List Char → Nat
  | 'h' :: 'a' :: 'l' :: ' ' :: 's' :: 't' :: 'a' :: _ => 0
  | 'h' :: _ => 1
  | ' ' :: ' ' :: '>' :: _ => 2
  | ' ' :: ' ' :: 'x' :: _ => 3
  | ' ' :: ' ' :: '~' :: ' ' :: 'h' :: _ => 4
  | ' ' :: _ => 5
  | 'o' :: _ => 6
  | 's' :: _ => 7
  | 'c' :: _ => 8
  | _ => 9

theorem sortOfText_characters (line : ReplayLine) :
    sortOfText line.characters = line.ctorIdx := by
  cases line with
  | verdict callback => cases callback <;> rfl
  | status request => cases request <;> rfl
  | _ => rfl

/-- Lines that show the same sort of thing are told by their characters. -/
theorem characters_inj {line other : ReplayLine} (sorts : line.ctorIdx = other.ctorIdx)
    (same : line.characters = other.characters) : line = other := by
  cases line with
  | halStart kind code =>
      cases other with
      | halStart kind' code' =>
          obtain ⟨names, codes⟩ := block_append_inj kind.blank_not_mem_name
            kind'.blank_not_mem_name (leaves_word (by decide) _) (leaves_word (by decide) _)
            (List.append_cancel_left same)
          have codes := String.toList_injective (List.append_cancel_left codes)
          rw [ClientKind.name_injective (String.toList_injective names),
            inspect_int32_injective codes]
      | _ => cases sorts
  | halStop byClient code =>
      cases other with
      | halStop byClient' code' =>
          have inside (value : Bool) :
              ∀ character ∈ (inspect value).toList, (character != ')') = true :=
            List.all_eq_true.mp (by cases value <;> decide)
          obtain ⟨names, codes⟩ := block_append_inj (inside byClient) (inside byClient')
            (leaves_word (by decide) _) (leaves_word (by decide) _)
            (List.append_cancel_left same)
          have codes := String.toList_injective (List.append_cancel_left codes)
          rw [inspect_bool_injective (String.toList_injective names),
            inspect_int32_injective codes]
      | _ => cases sorts
  | delivered event =>
      cases other with
      | delivered event' =>
          have events := String.toList_injective (List.append_cancel_left same)
          rw [Delivery.text_injective events]
      | _ => cases sorts
  | deliveryFailed event =>
      cases other with
      | deliveryFailed event' =>
          have events := List.append_cancel_right (List.append_cancel_left same)
          rw [Delivery.text_injective (String.toList_injective events)]
      | _ => cases sorts
  | haptic effect =>
      cases other with
      | haptic effect' =>
          have effects := String.toList_injective (List.append_cancel_left same)
          rw [HapticEffect.inspect_injective effects]
      | _ => cases sorts
  | userActivity user =>
      cases other with
      | userActivity user' =>
          have users := String.toList_injective (List.append_cancel_left same)
          rw [inspect_int32_injective users]
      | _ => cases sorts
  | verdict callback finished =>
      cases other with
      | verdict callback' finished' =>
          obtain ⟨names, verdicts⟩ := block_append_inj callback.blank_not_mem_name
            callback'.blank_not_mem_name (leaves_word (by decide) _)
            (leaves_word (by decide) _) same
          have verdicts := String.toList_injective (List.append_cancel_left verdicts)
          rw [Callback.name_injective (String.toList_injective names),
            verdictText_injective verdicts]
      | _ => cases sorts
  | status request code =>
      cases other with
      | status request' code' =>
          obtain ⟨names, codes⟩ := block_append_inj request.blank_not_mem_name
            request'.blank_not_mem_name (leaves_word (by decide) _)
            (leaves_word (by decide) _) same
          have codes := String.toList_injective (List.append_cancel_left codes)
          rw [ReplayRequest.name_injective (String.toList_injective names),
            inspect_int32_injective codes]
      | _ => cases sorts
  | clientDied notified =>
      cases other with
      | clientDied notified' =>
          rw [(nat_between_inj (leaves_lastWord (by decide)) (leaves_lastWord (by decide))
            same).1]
      | _ => cases sorts
  | destroyed =>
      cases other with
      | destroyed => rfl
      | _ => cases sorts

theorem text_injective : Function.Injective text := by
  intro line other same
  have texts := congrArg String.toList same
  rw [toList_text, toList_text] at texts
  have sorts := congrArg sortOfText texts
  rw [sortOfText_characters, sortOfText_characters] at sorts
  exact characters_inj sorts texts

end ReplayLine

/-! ## No line ends inside -/

theorem Decimal.newline_not_mem_text (number : Int) : '\n' ∉ (Decimal.text number).toList := by
  rw [Decimal.toList_text]
  intro isMember
  exact absurd (Decimal.isNumeral_of_mem_signedDigits number _ isMember) (by decide)

theorem Delivery.newline_not_mem_countdown (biometric remaining : Int32) :
    '\n' ∉ countdown biometric remaining :=
  List.not_mem_append (by decide) <|
    List.not_mem_append (Decimal.newline_not_mem_text _) <|
      List.not_mem_append (by decide) <|
        List.not_mem_append (Decimal.newline_not_mem_text _) (by decide)

theorem Delivery.newline_not_mem_details (event : Delivery) : '\n' ∉ event.details := by
  have number := Decimal.newline_not_mem_text
  cases event with
  | acquired device info vendor =>
      exact List.not_mem_append (by decide) <| List.not_mem_append (number _) <|
        List.not_mem_append (by decide) <| List.not_mem_append (number _) <|
          List.not_mem_append (by decide) <| List.not_mem_append (number _) (by decide)
  | error device code vendor cookie =>
      exact List.not_mem_append (by decide) <| List.not_mem_append (number _) <|
        List.not_mem_append (by decide) <| List.not_mem_append (number _) <|
          List.not_mem_append (by decide) <| List.not_mem_append (number _) <|
            List.not_mem_append (by decide) <| List.not_mem_append (number _) (by decide)
  | authenticationSucceeded biometric tokenLength =>
      exact List.not_mem_append (by decide) <| List.not_mem_append (number _) <|
        List.not_mem_append (by decide) <| List.not_mem_append (number _) (by decide)
  | authenticationFailed device =>
      exact List.not_mem_append (by decide) <| List.not_mem_append (number _) (by decide)
  | enrollResult | removed | enumerated => exact newline_not_mem_countdown _ _

theorem Delivery.newline_not_mem_text (event : Delivery) : '\n' ∉ event.text.toList := by
  have named : ∀ name ∈ names, '\n' ∉ name.toList := by decide
  rw [toList_text]
  refine List.not_mem_append (named _ event.name_mem_names) ?_
  simpa using event.newline_not_mem_details

theorem ReplayLine.newline_not_mem_text (line : ReplayLine) : '\n' ∉ line.text.toList := by
  have number := Decimal.newline_not_mem_text
  rw [toList_text]
  cases line with
  | halStart kind code =>
      refine List.not_mem_append (by decide) (List.not_mem_append ?_ ?_)
      · cases kind <;> decide
      · exact List.not_mem_append (by decide) (number _)
  | halStop byClient code =>
      refine List.not_mem_append (by decide) (List.not_mem_append ?_ ?_)
      · cases byClient <;> decide
      · exact List.not_mem_append (by decide) (number _)
  | delivered event => exact List.not_mem_append (by decide) event.newline_not_mem_text
  | deliveryFailed event =>
      exact List.not_mem_append (by decide)
        (List.not_mem_append event.newline_not_mem_text (by decide))
  | haptic effect => cases effect <;> decide
  | userActivity user => exact List.not_mem_append (by decide) (number _)
  | verdict callback finished => cases callback <;> cases finished <;> decide
  | status request code =>
      refine List.not_mem_append ?_ (List.not_mem_append (by decide) (number _))
      cases request <;> decide
  | clientDied notified =>
      exact List.not_mem_append (by decide) (List.not_mem_append (number _) (by decide))
  | destroyed => decide

end BiometricSession
