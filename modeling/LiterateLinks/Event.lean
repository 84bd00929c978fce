/-!
# Log events

What a run has to tell besides its result is a list of events, in the order in which they happen.
An event has a level, a message and named details.
-/

namespace LiterateLinks

/-- How much an event matters. -/
inductive Level where
  | debug
  | info
  | warn
  deriving Repr, DecidableEq

/-- The level in words. -/
def Level.name : Level → String
  | .debug => "DEBUG"
  | .info => "INFO"
  | .warn => "WARN"

/-- Something worth telling about a run. -/
inductive Event where
  /-- A wildcard pattern that is no valid expression. -/
  | unusablePattern (pattern : String)
  /-- A pasted chunk that the command map does not know. -/
  | missingChunk (name : String)
  /-- A document has been linked. -/
  | linked (policy : String) (definitions pastes chunks : Nat)
  /-- A document that was linked before is linked again. -/
  | linkedBefore
  /-- A document that is to be marked as linked has no head. -/
  | headMissing
  /-- The stylesheet to be written is there already. -/
  | stylesheetKept (path : String)
  /-- The command map has been read. -/
  | mapLoaded (chunks : Nat)
  /-- The document of a command has been linked. -/
  | documentLinked (input : String) (definitions pastes : Nat)
  /-- The document of a command has been written to a file. -/
  | documentWritten (path : String)
  /-- The stylesheet has been written. -/
  | stylesheetWritten (path : String)
  deriving Repr, DecidableEq

namespace Event

/-- The level of an event. -/
def level : Event → Level
  | .unusablePattern _ | .missingChunk _ | .linkedBefore | .headMissing => .warn
  | .linked .. | .stylesheetKept _ | .mapLoaded _ => .debug
  | .documentLinked .. | .documentWritten _ | .stylesheetWritten _ => .info

/-- The message of an event. -/
def message : Event → String
  | .unusablePattern _ => "wildcard paste matches nothing"
  | .missingChunk _ => "chunk is missing from the command map"
  | .linked .. => "linked chunk references"
  | .linkedBefore => "document was already processed, linking it again"
  | .headMissing => "document has no head, it will not be marked as processed"
  | .stylesheetKept _ => "stylesheet exists, leaving it alone"
  | .mapLoaded _ => "loaded command map"
  | .documentLinked .. => "linked document"
  | .documentWritten _ => "wrote document"
  | .stylesheetWritten _ => "wrote stylesheet"

/-- A detail of an event. -/
inductive Detail where
  | text (value : String)
  | count (value : Nat)
  deriving Repr, DecidableEq

/-- The named details of an event. -/
def details : Event → List (String × Detail)
  | .unusablePattern pattern => [("pattern", .text pattern)]
  | .missingChunk name => [("name", .text name)]
  | .linked policy definitions pastes chunks =>
    [("policy", .text policy), ("definitions", .count definitions), ("pastes", .count pastes),
      ("chunks", .count chunks)]
  | .linkedBefore | .headMissing => []
  | .stylesheetKept path => [("path", .text path)]
  | .mapLoaded chunks => [("chunks", .count chunks)]
  | .documentLinked input definitions pastes =>
    [("input", .text input), ("definitions", .count definitions), ("pastes", .count pastes)]
  | .documentWritten path => [("path", .text path)]
  | .stylesheetWritten path => [("path", .text path)]

end Event

/-- A value together with the events of computing it. -/
structure Logged (α : Type) where
  value : α
  log : List Event := []
  deriving Repr

namespace Logged

/-- Computes a value from another one and puts the events in order. -/
def andThen {α β : Type} (x : Logged α) (f : α → Logged β) : Logged β :=
  let y := f x.value
  ⟨y.value, x.log ++ y.log⟩

instance : Monad Logged where
  pure a := ⟨a, []⟩
  bind := andThen

/-- A value of which there is nothing to tell but the one event. -/
def tell (event : Event) : Logged Unit :=
  ⟨(), [event]⟩

end Logged

end LiterateLinks
