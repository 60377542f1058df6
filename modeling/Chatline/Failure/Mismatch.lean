/-!
# Values of the wrong type

A host may hand over any value where the library wants text, a number or
something it can call. Each place that looks at the type of what it is given
has a cause of its own here, and `Mismatch.message` words them all.
-/

namespace Chatline

/-- A value of the wrong type, by the place that refused it. -/
inductive Mismatch where
  /-- A line to be cut into tokens is no text. -/
  | tokenizedLine
  /-- A line to be dispatched is no text. -/
  | dispatchedLine
  /-- A grammar in bracket notation is no text. -/
  | bracketText
  /-- The name of an argument is no text. -/
  | argumentName
  /-- A nested argument is no argument. -/
  | nestedArgument
  /-- An option of an enum is no argument. -/
  | option
  /-- A validator is no rule. -/
  | validator
  /-- A value to be bound is no text. -/
  | boundValue
  /-- A rule is asked about something that is no text. -/
  | ruleSubject
  /-- The label of a rule is no text. -/
  | ruleLabel
  /-- The predicate of a rule cannot be called. -/
  | rulePredicate
  /-- The label of a decorating rule is no text, or blank. -/
  | decoratorLabel
  /-- A decorating rule is applied to something that cannot be called. -/
  | decoratedPredicate
  /-- The name of a command is no text. -/
  | commandName
  /-- An alias is no text. -/
  | aliasText
  /-- A description is no text. -/
  | description
  /-- An access level is no integer. -/
  | accessLevel
  /-- An action cannot be called. -/
  | action
  /-- A precondition cannot be called. -/
  | precondition
  /-- A root argument of a command is no argument. -/
  | rootArgument
  /-- A decorating command is applied to something that cannot be called. -/
  | decoratedAction
  /-- The prefix of a registry is no text. -/
  | registryMarker
  /-- A suggester cannot be called. -/
  | suggester
  /-- An error sink cannot be called. -/
  | sink
  /-- What is to be registered is no command. -/
  | registered
  /-- The message of a fault of the named kind is no text. -/
  | faultMessage (kind : String)
  /-- What is to be reported is no fault. -/
  | reported
  /-- A key of bindings is of the given type, neither text nor a path. -/
  | bindingsKey (type : String)
  /-- One of several alternatives is no text. -/
  | alternatives
  /-- A new name is given to something that cannot be called. -/
  | renamed
  /-- A new name is no text. -/
  | newName
  /-- A callable does not let its name be changed. -/
  | fixedName
  /-- The name that a naming decorator is made for is no text. -/
  | decoratorName
  /-- A naming decorator is applied to something that cannot be called. -/
  | decoratedName
  /-- Naming is asked for with this many values. -/
  | namingArity (count : Nat)
  /-- The type of the unset mark is extended. -/
  | sealedUnset
  /-- A value of the given type is gone through item by item. -/
  | notIterable (type : String)
  /-- A value of the given type stands for several operands. -/
  | notSpread (type : String)
  /-- A value of the given type is taken apart. -/
  | notParted (type : String)
  /-- A value with too few items is taken apart into so many. -/
  | tooFewParts (wanted found : Nat)
  /-- A value with more items than these is taken apart into so many. -/
  | tooManyParts (wanted : Nat)
  /-- A value of the given type is called. -/
  | notCallable (type : String)
  /-- A value of the given type is put into a set. -/
  | unhashable (type : String)
  /-- A value of type `part` is joined to one of type `whole`. -/
  | notJoinable (whole part : String)
  /-- Values of types that have no sum are added. -/
  | notAddable (left right : String)
  /-- A whole number is too large to be added to a floating one. -/
  | tooLarge
  /-- Values of types that have no order are compared by a sign. -/
  | notComparable (sign left right : String)
  /-- The item at a position of a list that is joined to one text is of the
  given type. -/
  | joinedItem (position : Nat) (type : String)
  /-- A text is searched for a value of the given type. -/
  | soughtPart (type : String)
  /-- A text is looked at for a beginning of the given type. -/
  | soughtAffix (type : String)
  /-- A value of the given type is searched for in a text. -/
  | soughtText (type : String)
  /-- A value of the given type has no length. -/
  | noLength (type : String)
  /-- A rule is called with a word and commands. -/
  | ruleOperands
  /-- The built-in suggester is called with a single operand. -/
  | suggesterOperands
  /-- A callback is called with more or fewer operands than it takes. -/
  | callbackOperands
  /-- A call is given no value for a name that it takes by position. -/
  | missingOperand (call name : String)
  /-- A call that takes from `least` to `most` operands is given this many. -/
  | extraOperands (call : String) (least most count : Nat)
  /-- A call is given two values for one name. -/
  | repeatedName (call name : String)
  /-- A call is given a value under a name that it does not take. -/
  | unexpectedName (call name : String)
  /-- A call is given values by names that it takes by position alone. -/
  | misplacedNames (call : String) (names : List String)
  /-- An error of the given kind is made with details, which it cannot have. -/
  | noDetails (kind : String)
  /-- A value of the given type is asked for something it does not have. -/
  | noAttribute (type field : String)
  /-- A type is asked for something it does not have. -/
  | noTypeAttribute (type field : String)
deriving Repr, DecidableEq

/-- The sentence that reports a value of the wrong type. -/
def Mismatch.message : Mismatch → String
  | tokenizedLine => "tokenize() argument must be a string"
  | dispatchedLine => "parse() argument must be a string"
  | bracketText => "infer() argument must be a string"
  | argumentName => "argument 'name' must be a string"
  | nestedArgument => "argument nested arguments must be arguments"
  | option => "argument options must be arguments"
  | validator => "argument validator must be a validation rule"
  | boundValue => "argument values must be strings"
  | ruleSubject => "validation rules only apply to strings"
  | ruleLabel => "validation rule 'label' must be a string"
  | rulePredicate => "validation rule 'predicate' must be callable"
  | decoratorLabel => "@rule() label must be a non-empty string"
  | decoratedPredicate => "@rule() must be applied to a callable"
  | commandName => "command 'name' must be a string"
  | aliasText => "command aliases must be strings"
  | description => "command 'description' must be a string"
  | accessLevel => "command 'access_level' must be an integer"
  | action => "command 'action' must be callable"
  | precondition => "command 'precondition' must be callable"
  | rootArgument => "command arguments must be arguments"
  | decoratedAction => "@command() must be applied to a callable"
  | registryMarker => "registry 'prefix' must be a string"
  | suggester => "registry 'suggester' must be callable"
  | sink => "registry error sink must be callable"
  | registered => "registry can only hold commands"
  | faultMessage kind => kind ++ " message must be a string"
  | reported => "trigger() argument must have a __trigger__ and __replace__ methods"
  | bindingsKey type => "bindings keys must be strings or paths, not " ++ type
  | alternatives => "disjoin() items must be strings"
  | renamed => "rename() first argument must be callable"
  | newName => "rename() second argument must be a string"
  | fixedName => "rename() first argument must be a updatable callable"
  | decoratorName => "@rename() argument must be a string"
  | decoratedName => "@rename() must be applied to a callable"
  | namingArity count => "rename takes 1 to 2 arguments but " ++ toString count ++ " were given"
  | sealedUnset => "type 'UnsetType' is not an acceptable base type"
  | notIterable type => "'" ++ type ++ "' object is not iterable"
  | notSpread type => "Value after * must be an iterable, not " ++ type
  | notParted type => "cannot unpack non-iterable " ++ type ++ " object"
  | tooFewParts wanted found =>
    "not enough values to unpack (expected " ++ toString wanted ++ ", got " ++ toString found ++ ")"
  | tooManyParts wanted => "too many values to unpack (expected " ++ toString wanted ++ ")"
  | notCallable type => "'" ++ type ++ "' object is not callable"
  | unhashable type => "unhashable type: '" ++ type ++ "'"
  | notJoinable whole part =>
    "can only concatenate " ++ whole ++ " (not \"" ++ part ++ "\") to " ++ whole
  | notAddable left right =>
    "unsupported operand type(s) for +: '" ++ left ++ "' and '" ++ right ++ "'"
  | tooLarge => "int too large to convert to float"
  | notComparable sign left right =>
    "'" ++ sign ++ "' not supported between instances of '" ++ left ++ "' and '" ++ right ++ "'"
  | joinedItem position type =>
    "sequence item " ++ toString position ++ ": expected str instance, " ++ type ++ " found"
  | soughtPart type => "'in <string>' requires string as left operand, not " ++ type
  | soughtAffix type => "startswith first arg must be str or a tuple of str, not " ++ type
  | soughtText type => "must be str, not " ++ type
  | noLength type => "object of type '" ++ type ++ "' has no len()"
  | ruleOperands => "ValidationRule.__call__() takes 2 positional arguments but 3 were given"
  | suggesterOperands =>
    "AffixSuggester.__call__() missing 1 required positional argument: 'commands'"
  | callbackOperands => "wrong number of operands"
  | missingOperand call name =>
    call ++ "() missing 1 required positional argument: '" ++ name ++ "'"
  | extraOperands call least most count =>
    call ++ "() takes from " ++ toString least ++ " to " ++ toString most ++
      " positional arguments but " ++ toString count ++ " were given"
  | repeatedName call name => call ++ "() got multiple values for argument '" ++ name ++ "'"
  | misplacedNames call names =>
    call ++ "() got some positional-only arguments passed as keyword arguments: '" ++
      ", ".intercalate names ++ "'"
  | unexpectedName call name =>
    call ++ "() got an unexpected keyword argument '" ++ name ++ "'"
  | noDetails kind => kind ++ "() takes no keyword arguments"
  | noAttribute type field => "'" ++ type ++ "' object has no attribute '" ++ field ++ "'"
  | noTypeAttribute type field =>
    "type object '" ++ type ++ "' has no attribute '" ++ field ++ "'"

end Chatline
