/-!
Log records, and computations that write them.  The records of a computation are part of its
result, so what is shown of them later cannot change what was computed.
-/

namespace OpeningTimes

/-- How much a record matters, most urgent first. -/
inductive Level where
  | error
  | warn
  | info
  | debug
  | trace
deriving DecidableEq, Repr

/-- The number of levels that are at least as urgent. -/
def Level.rank : Level → Nat
  | .error => 1
  | .warn => 2
  | .info => 3
  | .debug => 4
  | .trace => 5

/-- The name of the level in capitals. -/
def Level.name : Level → String
  | .error => "ERROR"
  | .warn => "WARN"
  | .info => "INFO"
  | .debug => "DEBUG"
  | .trace => "TRACE"

/-- A message with its level and the part of the program that it comes from. -/
structure LogRecord where
  level : Level
  target : String
  text : String
deriving DecidableEq, Repr

/-- A value together with the records written while it was computed, oldest first. -/
structure Logged (α : Type) where
  value : α
  records : List LogRecord := []
deriving Repr

namespace Logged

/-- The second computation after the first, with the records of both. -/
def bind {α β : Type} (first : Logged α) (next : α → Logged β) : Logged β :=
  let second := next first.value
  ⟨second.value, first.records ++ second.records⟩

instance : Monad Logged where
  pure value := ⟨value, []⟩
  bind := bind

def note (level : Level) (target text : String) : Logged Unit :=
  ⟨(), [⟨level, target, text⟩]⟩

@[simp] theorem value_pure {α : Type} (value : α) : (pure value : Logged α).value = value := rfl

@[simp] theorem records_pure {α : Type} (value : α) : (pure value : Logged α).records = [] := rfl

@[simp] theorem value_bind {α β : Type} (first : Logged α) (next : α → Logged β) :
    (first >>= next).value = (next first.value).value := rfl

@[simp] theorem records_bind {α β : Type} (first : Logged α) (next : α → Logged β) :
    (first >>= next).records = first.records ++ (next first.value).records := rfl

@[simp] theorem records_note (level : Level) (target text : String) :
    (note level target text).records = [⟨level, target, text⟩] := rfl

end Logged

end OpeningTimes
