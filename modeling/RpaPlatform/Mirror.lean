import Mathlib.Data.List.Basic

namespace RpaPlatform

/-!
# A value that is mirrored over a channel

One side announces every new value over a channel that keeps the order, and
the other side holds the last value that it has received.  What it will hold
once all has arrived is the last value announced; a connection that is lost
takes with it what was on its way.
-/

/-- What a receiver holds, and what is on its way to it, in order. -/
structure Mirror (Value : Type*) where
  held : Value
  inFlight : List Value := []

namespace Mirror

variable {Value : Type*}

def announce (mirror : Mirror Value) (value : Value) : Mirror Value :=
  { mirror with inFlight := mirror.inFlight ++ [value] }

/-- The next value arrives. -/
def receive? (mirror : Mirror Value) : Option (Mirror Value) :=
  match mirror.inFlight with
  | [] => none
  | value :: rest => some { held := value, inFlight := rest }

def interrupted (mirror : Mirror Value) : Mirror Value :=
  { mirror with inFlight := [] }

def settles (mirror : Mirror Value) : Value :=
  mirror.inFlight.getLast?.getD mirror.held

variable {mirror after : Mirror Value} {value : Value}

@[simp]
theorem settles_announce : (mirror.announce value).settles = value := by
  simp [settles, announce]

theorem settles_receive
    (received : mirror.receive? = some after) :
    after.settles = mirror.settles := by
  obtain ⟨held, inFlight⟩ := mirror
  cases inFlight with
  | nil =>
    cases received
  | cons next rest =>
    cases received
    cases rest with
    | nil =>
      rfl
    | cons later others =>
      simp [settles, List.getLast?_cons]

theorem held_of_settled
    (arrived : mirror.inFlight = []) :
    mirror.held = mirror.settles := by
  simp [settles, arrived]

end Mirror

end RpaPlatform
