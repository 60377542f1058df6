import Chatline.Grammar.Bindings
import Chatline.Fault.Report
/-!
# Events

What can be observed from outside while calls are made: the debug log of the
library, the reports it puts on the console, and the notes that callbacks
leave.
-/

namespace Chatline

/-- The part of the library that a log record comes from. -/
inductive LogSource where
  /-- Registering and dispatching. -/
  | registry
  /-- Matching words against a grammar. -/
  | matcher
deriving Repr, DecidableEq

/-- A note that a callback leaves. -/
inductive Note where
  /-- The precondition of a command was asked. -/
  | precondition (command : String)
  /-- An action ran with these bindings. -/
  | action (label : Datum) (bindings : BindingsView)
  /-- A suggester was asked about a word, with these commands. -/
  | suggester (input : Datum) (commands : List String)
  /-- An error sink received a fault. -/
  | fault (sink : Datum) (fault : Fault)
  /-- A line was dispatched from within an action, with this result. -/
  | nested (result : Bool)

/-- Something that can be observed. -/
inductive Event where
  /-- A record of the debug log. -/
  | log (source : LogSource) (message : String)
  /-- A fault was put on the console. -/
  | console (fault : Fault) (report : Report)
  /-- A callback left a note. -/
  | note (n : Note)

end Chatline
