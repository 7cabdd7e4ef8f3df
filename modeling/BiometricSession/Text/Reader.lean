/-!
# Readers

A reader takes a value off the front of a text, or refuses the text.  Readers
are combined one after the other, as alternatives, and by repetition; a text
bounds how often anything can be repeated in it, so repetition always ends.
-/

namespace BiometricSession

/-- Takes a value off the front of a text and leaves the rest. -/
def Reader (α : Type) : Type :=
  List Char → Option (α × List Char)

namespace Reader

variable {α β : Type}

protected def pure (value : α) : Reader α :=
  fun text => some (value, text)

/-- Read one thing after the other. -/
protected def bind (first : Reader α) (next : α → Reader β) : Reader β :=
  fun text =>
    match first text with
    | some (value, rest) => next value rest
    | none => none

instance : Monad Reader where
  pure := Reader.pure
  bind := Reader.bind

def fail : Reader α :=
  fun _ => none

/-- Read the second way what cannot be read the first way. -/
def orElse (first second : Reader α) : Reader α :=
  fun text =>
    match first text with
    | some result => some result
    | none => second text

/-- What a reader reads, if it reads anything. -/
def optional (reader : Reader α) : Reader (Option α) :=
  fun text =>
    match reader text with
    | some (value, rest) => some (some value, rest)
    | none => some (none, text)

def satisfy (test : Char → Bool) : Reader Char
  | [] => none
  | character :: rest => if test character then some (character, rest) else none

def character (expected : Char) : Reader Unit
  | [] => none
  | found :: rest => if found = expected then some ((), rest) else none

def literal : List Char → Reader Unit
  | [], text => some ((), text)
  | _ :: _, [] => none
  | expected :: expectedRest, found :: rest =>
      if found = expected then literal expectedRest rest else none

/-- The characters up to the first that fails a test. -/
def takeWhile (test : Char → Bool) : Reader (List Char) :=
  fun text => some (text.takeWhile test, text.dropWhile test)

/-- The characters up to the first that fails a test; there must be one. -/
def takeWhile1 (test : Char → Bool) : Reader (List Char) :=
  fun text =>
    match text.takeWhile test with
    | [] => none
    | characters => some (characters, text.dropWhile test)

/-- A given number of characters that pass a test. -/
def exactly (test : Char → Bool) : Nat → Reader (List Char)
  | 0 => Reader.pure []
  | count + 1 => do
      let first ← satisfy test
      let others ← exactly test count
      return first :: others

def atEnd : Reader Unit
  | [] => some ((), [])
  | _ :: _ => none

/-- As many values as can be read one after the other, but not more than the
given text has characters. -/
def manyWithin (reader : Reader α) : List Char → Reader (List α)
  | [], text => some ([], text)
  | _ :: bound, text =>
      match reader text with
      | some (value, rest) =>
          match manyWithin reader bound rest with
          | some (values, last) => some (value :: values, last)
          | none => none
      | none => some ([], text)

/-- As many values as can be read one after the other.  Each takes a character
at least, so there are no more of them than characters. -/
def many (reader : Reader α) : Reader (List α) :=
  fun text => manyWithin reader text text

/-- Values with a separator between any two of them; there must be one. -/
def separated1 (reader : Reader α) (separator : Reader Unit) : Reader (List α) := do
  let first ← reader
  let others ← many (do separator; reader)
  return first :: others

/-- Values with a separator between any two of them, or none at all. -/
def separated (reader : Reader α) (separator : Reader Unit) : Reader (List α) :=
  orElse (separated1 reader separator) (Reader.pure [])

def all (reader : Reader α) (text : String) : Option α :=
  match reader text.toList with
  | some (value, []) => some value
  | _ => none

end Reader

end BiometricSession
