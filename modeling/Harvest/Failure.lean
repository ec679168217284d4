import Harvest.Value.Written

/-!
# Causes of failure

Configuration errors carry the name they are about; everything else that can go wrong while an
extraction runs has a cause of its own. The wording of each is a function of the cause. A
configuration error whose own words contain an integer beyond the digit limit cannot be worded and
is reported as that instead.
-/

namespace Harvest

/-- Why a transformation refuses its static arguments. -/
inductive Refusal where
  | takesNone
  | missing (parameter : Text)
  | tooMany
  | notInteger (parameter : Text) (given : Text)
  | notNumber (parameter : Text) (given : Text)
  | tooManyDigits (digits : Nat)
  | unwritable
  | expression
  | other (message : Text)
  deriving DecidableEq, Repr

inductive ConfigError (ν : Type) where
  | invalid (name : Value ν) (message : Text)
  | notFound (name : Value ν)
  | rejected (name : Value ν) (args : List (Value ν)) (reason : Refusal)

inductive IssueKind where
  | extraForbidden
  | textType
  | textEncoding
  | listType
  | callableType
  | modelType
  deriving DecidableEq, Repr

/-- What is wrong with a field specification, and at which key. -/
structure Issue where
  location : List Text
  kind : IssueKind
  deriving DecidableEq, Repr

/-- The family that a fault raised by the host belongs to. -/
inductive Fault where
  | value
  | type
  | runtime
  deriving DecidableEq, Repr

inductive Failure (ν : Type) where
  | config (e : ConfigError ν)
  | invalidSpec (issues : List Issue)
  | selectorSyntax
  | selectorUnsupported (message : Text)
  | unknownParser
  | unacceptableMarkup (reason : Text)
  | unsliceable (u : Unsliceable)
  | intTooLarge
  | tooManyDigits (digits : Nat)
  | notFloat (number : Text)
  | unwritable
  | tooManyRepeats
  | notJoinable (index : Nat) (typeName : Text)
  | notDelimiter (typeName : Text)
  | notSearchable (typeName : Text)
  | notSelector (typeName : Text)
  | unhashable (typeName : Text)
  | separatorInName (name : Text)
  | raised (fault : Fault) (message : Text)

/-- What a factory answers instead of a transformation: a refusal of its arguments, or a failure
that is not about them. -/
inductive Objection (ν : Type) where
  | refuse (reason : Refusal)
  | fail (f : Failure ν)

variable {ν : Type}

def unwritableText : Text :=
  "Exceeds the limit (4300 digits) for integer string conversion; " ++
    "use sys.set_int_max_str_digits() to increase the limit"

def tooManyDigitsText (digits : Nat) : Text :=
  "Exceeds the limit (4300 digits) for integer string conversion: value has ".toList ++
    Number.decimalDigits digits ++
    " digits; use sys.set_int_max_str_digits() to increase the limit".toList

def Refusal.message : Refusal → Text
  | .takesNone => "transformation takes no arguments"
  | .missing parameter => "missing a required argument: ".toList ++ Text.quoted parameter
  | .tooMany => "too many positional arguments"
  | .notInteger parameter given => parameter ++ " must be an integer, got ".toList ++ given
  | .notNumber parameter given => parameter ++ " must be a number, got ".toList ++ given
  | .tooManyDigits digits => tooManyDigitsText digits
  | .unwritable => unwritableText
  | .expression => "the expression does not compile"
  | .other message => message

namespace ConfigError

def name : ConfigError ν → Value ν
  | .invalid name _ | .notFound name | .rejected name _ _ => name

def args : ConfigError ν → List (Value ν)
  | .rejected _ args _ => args
  | _ => []

/-- The words of the error; none when they contain an integer beyond the digit limit. An invalid
transformation without a message of its own is described by its name. -/
def message? [Host ν] : ConfigError ν → Option Text
  | .invalid name [] => name.written.map ("Invalid transformation: ".toList ++ ·)
  | .invalid _ message => some message
  | .notFound name =>
    name.written.map fun t => "Transformation ".toList ++ t ++ " not implemented".toList
  | .rejected name args reason =>
    name.written.bind fun t => (Value.written (.list args)).map fun ts =>
      "Transformation ".toList ++ t ++ " rejected arguments ".toList ++ ts ++ ": ".toList ++
        reason.message

end ConfigError

namespace Failure

def ofConfig [Host ν] (e : ConfigError ν) : Failure ν :=
  if e.message?.isSome then .config e else .unwritable

def notFound [Host ν] (name : Value ν) : Failure ν := ofConfig (.notFound name)

def rejected [Host ν] (name : Text) (args : List (Value ν)) (reason : Refusal) : Failure ν :=
  ofConfig (.rejected (.text name) args reason)

def message [Host ν] : Failure ν → Text
  | .config e => e.message?.getD []
  | .invalidSpec _ => "invalid field specification"
  | .selectorSyntax => "invalid selector"
  | .selectorUnsupported message => message
  | .unknownParser => "unknown parser"
  | .unacceptableMarkup reason =>
    ("The markup you provided was rejected by the parser. Trying a different parser or a " ++
      "different encoding may help.\n\nOriginal error(s) from parser:\n AssertionError: ").toList ++
      reason
  | .unsliceable (.noItems typeName) =>
    '\'' :: typeName ++ "' object is not subscriptable".toList
  | .unsliceable .keyed => "unhashable type: 'slice'"
  | .intTooLarge => "int too large to convert to float"
  | .tooManyDigits digits => tooManyDigitsText digits
  | .notFloat number => "could not convert string to float: ".toList ++ Text.quoted number
  | .unwritable => unwritableText
  | .tooManyRepeats => "the repetition number is too large"
  | .notJoinable index typeName =>
    "sequence item ".toList ++ Number.decimalDigits index ++ ": expected str instance, ".toList ++
      typeName ++ " found".toList
  | .notDelimiter typeName => "must be str or None, not ".toList ++ typeName
  | .notSearchable typeName =>
    if typeName = "bytes".toList then "cannot use a string pattern on a bytes-like object"
    else "expected string or bytes-like object, got '".toList ++ typeName ++ ['\'']
  | .notSelector typeName => '\'' :: typeName ++ "' object has no attribute 'replace'".toList
  | .unhashable typeName => "unhashable type: '".toList ++ typeName ++ ['\'']
  | .separatorInName name => "Transformation name may not contain ':': ".toList ++ Text.quoted name
  | .raised _ message => message

end Failure

end Harvest
