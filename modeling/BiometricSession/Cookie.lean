/-!
# Cookies

Authentication requests are told apart by cookies.  A counter hands them out
one after the other; since zero stands for "no cookie", the counter starts over
at one whenever it has run past the largest positive number.
-/

namespace BiometricSession

/-- Counter that hands out positive cookies. -/
structure CookieCounter where
  next : Int32
  deriving DecidableEq, Repr

namespace CookieCounter

def initial : CookieCounter :=
  ⟨1⟩

/-- Take the number that the counter stands at, and move the counter on.  After
the largest number comes the least. -/
def take (counter : CookieCounter) : Int32 × CookieCounter :=
  (counter.next, ⟨counter.next + 1⟩)

/-- Start over at one, unless the counter has left the number at which it was
seen. -/
def restart (counter : CookieCounter) (seen : Int32) : CookieCounter :=
  if counter.next = seen then ⟨1⟩ else counter

theorem restart_take (counter : CookieCounter) :
    counter.take.2.restart (counter.take.1 + 1) = ⟨1⟩ :=
  if_pos rfl

/-- The next cookie, and the counter after it was handed out.  Numbers are taken
until one is positive; a counter that has left the positive numbers starts
over. -/
def allocate (counter : CookieCounter) : Int32 × CookieCounter :=
  if 0 < counter.take.1 then
    counter.take
  else
    (counter.take.2.restart (counter.take.1 + 1)).allocate
  termination_by if 0 < counter.next then 0 else 1
  decreasing_by
    rename_i spent
    have spent : ¬ 0 < counter.next := spent
    rw [restart_take, if_neg spent]
    decide

/-- The next `count` cookies, in the order in which they are handed out. -/
def allocateMany : Nat → CookieCounter → List Int32 × CookieCounter
  | 0, counter => ([], counter)
  | count + 1, counter =>
      let (cookie, counter) := counter.allocate
      let (cookies, counter) := allocateMany count counter
      (cookie :: cookies, counter)

end CookieCounter

end BiometricSession
