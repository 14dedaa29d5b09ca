/-
Runs with their events.

A run ends with a value or an error, and in both cases with the events reported up to
then: an error stops a run, it does not take back what was reported.
-/
import DeviceGen.Error
import DeviceGen.Event

namespace DeviceGen

/-- How a run ended, and the events on the way there. -/
structure Traced (α : Type) where
  events : List Event
  result : Except Error α

namespace Traced

/-- A run that reports nothing. -/
def ofExcept {α : Type} (result : Except Error α) : Traced α := ⟨[], result⟩

/-- Reports events. -/
def log (events : List Event) : Traced Unit := ⟨events, .ok ()⟩

/-- One run after another; the second one happens only if the first ends well. -/
def andThen {α β : Type} (first : Traced α) (second : α → Traced β) : Traced β :=
  match first.result with
  | .ok a => ⟨first.events ++ (second a).events, (second a).result⟩
  | .error e => ⟨first.events, .error e⟩

instance : Monad Traced where
  pure a := ⟨[], .ok a⟩
  bind := andThen

/-- Runs over the members of a list, in order, up to the first error. -/
def each {α β : Type} (f : α → Traced β) : List α → Traced (List β)
  | [] => pure []
  | a :: as => do
    let b ← f a
    let bs ← each f as
    return b :: bs

end Traced

end DeviceGen
