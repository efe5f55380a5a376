/-
# The log

What the program tells about its work while it works. An event has a level, a
message and named values. A filter decides which events are shown; unless it is
told otherwise it leaves out those of the lowest level. Those that are shown are
written to the standard error one behind the other. How an event is written is
left open, as it depends on the time.

A step that fails tells nothing more, and nothing behind it does.

Key definitions: `Log.Event`, `Log.Sink`, `Log.Sink.text`, `Log.after`.
-/

namespace ControllerSynthesis.Log

/-- How much an event matters. -/
inductive Level where
  | debug
  | info
  | warn
  deriving Repr, DecidableEq

/-- A value of an event. -/
inductive Value where
  | text (value : String)
  | number (value : Int)
  | flag (value : Bool)
  /-- A text that may be absent. -/
  | optional (value : Option String)
  deriving Repr, DecidableEq

/-- Something the program tells. -/
structure Event where
  level : Level
  message : String
  values : List (String × Value) := []
  deriving Repr, DecidableEq

/-- Whether an event is shown unless the filter is told otherwise. -/
def Event.isNotable (e : Event) : Bool :=
  e.level != .debug

/-- An event of the lowest level. -/
def Event.debug (message : String) (values : List (String × Value)) : Event :=
  ⟨.debug, message, values⟩

/-- Where the events go. -/
structure Sink where
  /-- The filter: whether an event is shown. -/
  shows : Event → Bool := Event.isNotable
  /-- What is written for the event behind so many others that are shown. -/
  write : Nat → Event → String

/-- What is written for events. -/
def Sink.text (sink : Sink) (events : List Event) : String :=
  String.join ((events.filter sink.shows).mapIdx sink.write)

/-- The events of what goes on from the outcome of a step. -/
def after {ε α : Type} (step : Except ε α) (next : α → List Event) : List Event :=
  match step with
  | .ok a => next a
  | .error _ => []

end ControllerSynthesis.Log
