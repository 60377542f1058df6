import Chatline.Datum
/-!
# Naming callables

A callable carries a name for messages. Naming takes a callable and its new
name, or the name alone; the latter gives a decorator that names what it is
applied to later, and that is itself called `rename`.
-/

namespace Chatline

/-- Something a name may be given to, or used as a name. -/
inductive Nameable where
  /-- A function with its present name. -/
  | function (name : String)
  /-- A callable whose name cannot be changed. -/
  | builtin
  /-- A value that cannot be called. -/
  | datum (d : Datum)

/-- What naming gives back. -/
inductive Named where
  /-- A callable under its new name. -/
  | callable (name : String)
  /-- A decorator that gives this name to what it is applied to. -/
  | decorator (gives : String)

namespace Nameable

/-- Whether a value can be called. -/
def isCallable : Nameable → Bool
  | datum _ => false
  | _ => true

/-- The text that a value is, if it is one. -/
def text? : Nameable → Option String
  | datum (.text s) => some s
  | _ => none

/-- Gives a callable a new name. The target is looked at first, then the name,
then whether the target lets its name be changed. -/
def rename (target name : Nameable) : Except Mismatch Named :=
  match target, name.text? with
  | datum _, _ => .error .renamed
  | _, none => .error .newName
  | builtin, some _ => .error .fixedName
  | function _, some name => .ok (.callable name)

/-- Naming with any number of values: a callable and a name, or a name. -/
def naming : List Nameable → Except Mismatch Named
  | [target, name] => target.rename name
  | [name] =>
    match name.text? with
    | some name => .ok (.decorator name)
    | none => .error .decoratorName
  | values => .error (.namingArity values.length)

end Nameable

namespace Named

/-- The name of what naming gave back. -/
def name : Named → String
  | callable name => name
  | decorator _ => "rename"

/-- Applies a decorator to a target; a callable that is no decorator stays as
it is. -/
def apply (named : Named) (target : Nameable) : Except Mismatch Named :=
  match named with
  | callable name => .ok (callable name)
  | decorator gives =>
    if target.isCallable then target.rename (.datum (.text gives)) else .error .decoratedName

end Named

end Chatline
