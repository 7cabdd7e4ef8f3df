import BiometricSession.Cookie
import Mathlib.Data.List.Iterate
import Mathlib.Data.List.Nodup

/-!
# Cookies are positive and return late

Whatever number a counter stands at, the cookies that it hands out are got from
the first one by taking the next positive number again and again, where one
follows the largest.  So the number of a cookie is known from its place, modulo
the count of positive numbers, and only cookies that lie that far apart are the
same.
-/

namespace BiometricSession.CookieCounter

/-- How many cookies there are. -/
def cycle : Nat :=
  2147483647

/-- The cookie that a counter hands out next. -/
def first (counter : CookieCounter) : Int32 :=
  if 0 < counter.next then counter.next else 1

/-- The cookie that is handed out after another one. -/
def successor (cookie : Int32) : Int32 :=
  if cookie = Int32.maxValue then 1 else cookie + 1

/-! ## One cookie -/

theorem first_pos (counter : CookieCounter) : 0 < counter.first := by
  unfold first
  split
  · assumption
  · decide

theorem allocate_of_pos {counter : CookieCounter} (positive : 0 < counter.next) :
    counter.allocate = (counter.next, ⟨counter.next + 1⟩) := by
  rw [allocate]
  exact if_pos positive

/-- One number at most is taken in vain: the second one is positive. -/
theorem allocate_eq (counter : CookieCounter) :
    counter.allocate = (counter.first, ⟨counter.first + 1⟩) := by
  by_cases positive : 0 < counter.next
  · rw [allocate_of_pos positive, first, if_pos positive]
  · have spent : ¬ 0 < counter.take.1 := positive
    have restarted : (⟨1⟩ : CookieCounter).allocate = (1, ⟨1 + 1⟩) :=
      allocate_of_pos (by decide)
    rw [allocate, if_neg spent, restart_take, restarted, first, if_neg positive]

/-- Cookies in the numbering that starts at one and never turns negative. -/
theorem toInt_successor {cookie : Int32} (positive : 0 < cookie) :
    (successor cookie).toInt = cookie.toInt % cycle + 1 := by
  have lower : 0 < cookie.toInt := Int32.lt_iff_toInt_lt.mp positive
  have upper := cookie.toInt_lt
  have greatest : Int32.maxValue.toInt = 2147483647 := by decide
  unfold successor cycle
  split
  · next last =>
      rw [last, greatest]
      decide
  · next more =>
      have other : cookie.toInt ≠ 2147483647 := by
        rw [← greatest]
        exact fun same => more (Int32.toInt_inj.mp same)
      rw [Int32.toInt_add, Int32.toInt_one, Int.bmod_def]
      omega

theorem successor_pos {cookie : Int32} (positive : 0 < cookie) : 0 < successor cookie := by
  have number := toInt_successor positive
  rw [Int32.lt_iff_toInt_lt, number]
  change 0 < cookie.toInt % 2147483647 + 1
  omega

/-- A counter that has handed out a cookie goes on with the next one, also if it
has left the positive numbers. -/
theorem first_after {cookie : Int32} (positive : 0 < cookie) :
    first ⟨cookie + 1⟩ = successor cookie := by
  unfold first successor
  by_cases last : cookie = Int32.maxValue
  · rw [last]
    decide
  · have goesOn : 0 < cookie + 1 := by
      have next := successor_pos positive
      rwa [successor, if_neg last] at next
    rw [if_pos goesOn, if_neg last]

/-! ## Many cookies -/

theorem allocateMany_succ (counter : CookieCounter) (count : Nat) :
    counter.allocateMany (count + 1) =
      (counter.allocate.1 :: (counter.allocate.2.allocateMany count).1,
        (counter.allocate.2.allocateMany count).2) :=
  rfl

/-- Each cookie is the successor of the one before it. -/
theorem allocateMany_eq_iterate (counter : CookieCounter) (count : Nat) :
    (counter.allocateMany count).1 = List.iterate successor counter.first count := by
  induction count generalizing counter with
  | zero => rfl
  | succ count ih =>
      rw [allocateMany_succ, allocate_eq, ih, first_after counter.first_pos]
      rfl

theorem iterate_successor_pos {cookie : Int32} (positive : 0 < cookie) (count : Nat) :
    0 < successor^[count] cookie := by
  induction count with
  | zero => exact positive
  | succ count ih =>
      rw [Function.iterate_succ_apply']
      exact successor_pos ih

/-- The place of a cookie tells its number. -/
theorem toInt_iterate_successor {cookie : Int32} (positive : 0 < cookie) (count : Nat) :
    (successor^[count] cookie).toInt = (cookie.toInt - 1 + count) % cycle + 1 := by
  induction count with
  | zero =>
      have lower : 0 < cookie.toInt := Int32.lt_iff_toInt_lt.mp positive
      have upper := cookie.toInt_lt
      change cookie.toInt = (cookie.toInt - 1 + 0) % 2147483647 + 1
      omega
  | succ count ih =>
      rw [Function.iterate_succ_apply', toInt_successor (iterate_successor_pos positive count), ih]
      unfold cycle
      omega

/-- Cookies differ if fewer cookies lie between them than there are. -/
theorem iterate_successor_ne {cookie : Int32} (positive : 0 < cookie) {earlier later : Nat}
    (before : earlier < later) (near : later < earlier + cycle) :
    successor^[earlier] cookie ≠ successor^[later] cookie := by
  intro same
  have numbers := congrArg Int32.toInt same
  rw [toInt_iterate_successor positive, toInt_iterate_successor positive] at numbers
  unfold cycle at near numbers
  omega

section Cookies

variable (counter : CookieCounter) (count : Nat)

theorem length_cookies : (counter.allocateMany count).1.length = count := by
  rw [allocateMany_eq_iterate, List.length_iterate]

theorem cookie_eq_iterate {place : Nat} (isPlace : place < (counter.allocateMany count).1.length) :
    (counter.allocateMany count).1[place] = successor^[place] counter.first := by
  simp [allocateMany_eq_iterate]

theorem cookies_pos : ∀ cookie ∈ (counter.allocateMany count).1, 0 < cookie := by
  intro cookie isCookie
  obtain ⟨place, isPlace, rfl⟩ := List.mem_iff_getElem.mp isCookie
  rw [cookie_eq_iterate]
  exact iterate_successor_pos counter.first_pos place

theorem head?_cookies : (counter.allocateMany (count + 1)).1.head? = some counter.first := by
  rw [allocateMany_succ, allocate_eq]
  rfl

theorem isChain_cookies :
    (counter.allocateMany count).1.IsChain fun cookie next => next = successor cookie := by
  rw [List.isChain_iff_getElem]
  intro place isPlace
  rw [cookie_eq_iterate, cookie_eq_iterate, Function.iterate_succ_apply']

/-- As many cookies in a row as there are differ from each other. -/
theorem nodup_cookies (start : Nat) :
    (((counter.allocateMany count).1.drop start).take cycle).Nodup := by
  rw [List.nodup_iff_getElem?_ne_getElem?]
  intro earlier later before isPlace
  have near : later < cycle :=
    Nat.lt_of_lt_of_le isPlace (List.length_take_le _ _)
  have inside : start + later < (counter.allocateMany count).1.length := by
    rw [List.length_take, List.length_drop] at isPlace
    omega
  rw [List.getElem?_take_of_lt (Nat.lt_trans before near), List.getElem?_take_of_lt near,
    List.getElem?_drop, List.getElem?_drop, List.getElem?_eq_getElem inside,
    List.getElem?_eq_getElem (by omega), cookie_eq_iterate, cookie_eq_iterate]
  have differ : successor^[start + earlier] counter.first ≠
      successor^[start + later] counter.first :=
    iterate_successor_ne counter.first_pos (by omega) (by omega)
  simpa using differ

end Cookies

/-- The numbers after the largest one are passed over. -/
example : ((⟨Int32.maxValue⟩ : CookieCounter).allocateMany 3).1 = [2147483647, 1, 2] := by cbv

end BiometricSession.CookieCounter
