/-
  What can go wrong, by cause.

  A `Fault` is the cause of a failure; `Fault.message` words it.  Errors of
  foreign code pass through as `Fault.raised`, except for one that ends an
  iteration and comes up in a generator (`Fault.outOfGenerator`).  A loose cast
  takes the faults of `Fault.isConversionError` for a value that is not numeric.
-/
import SqlWeave.Template
import SqlWeave.Value.Basic

namespace SqlWeave

/-- A step on the way to a part of a record. -/
inductive PathStep where
  /-- A field or key. -/
  | name (s : String)
  /-- A key that is a number. -/
  | index (n : Int)
  deriving DecidableEq, Repr

/-- A refused field. -/
structure FieldError where
  /-- Where the field stands. -/
  path : List PathStep
  /-- The name of what is wrong with it. -/
  problem : String
  deriving DecidableEq, Repr

/-- The cause of a failure. -/
inductive Fault where
  /-- A template has another number of markers than there are parameters. -/
  | arity (expected actual : Nat) (template : String)
  /-- A parameter cannot feed its marker. -/
  | shape (kind : Kind) (typeName : String)
  /-- No marker is written so. -/
  | unknownKind (shown : String)
  /-- An integer of too many digits to be written. -/
  | integerTooLong
  /-- A numeral of too many digits to be read. -/
  | numeralTooLong (digits : Nat)
  /-- A text that is no integer. -/
  | notInteger (shown : String)
  /-- A text that is no decimal number. -/
  | notDecimal (shown : String)
  /-- A value without an integer reading. -/
  | noIntegerReading (typeName : String)
  /-- A value without a float reading. -/
  | noFloatReading (typeName : String)
  /-- A float or decimal that is no number has no integer; `what` names it. -/
  | nanToInteger (what : String)
  /-- An infinity has no integer; `what` names it. -/
  | infinityToInteger (what : String)
  /-- A signalling not-a-number has no float. -/
  | signallingToFloat
  /-- An integer beyond the range of floats. -/
  | integerTooLarge
  /-- A value's own conversion gave something of the wrong type. -/
  | hookResult (hook expected actual : String)
  /-- A value without a length. -/
  | noLength (typeName : String)
  /-- A length beyond what can be counted. -/
  | lengthTooLarge
  /-- A value that cannot be gone through. -/
  | notIterable (typeName : String)
  /-- A value that cannot be a key. -/
  | unhashable (typeName : String)
  /-- A signalling not-a-number cannot be a key. -/
  | signallingKey
  /-- A signalling not-a-number cannot be compared. -/
  | signallingComparison
  /-- An element that is no pair, among pairs to build a mapping from. -/
  | pairNotSequence (index : Nat)
  /-- An element of another length than two, among pairs to build a mapping from. -/
  | pairLength (index length : Nat)
  /-- A value lacks a member. -/
  | noMember (typeName member : String)
  /-- No product was given. -/
  | productRequired
  /-- No product has this name. -/
  | unknownProduct (shown : String)
  /-- Not a product. -/
  | unsupportedProduct (text : String)
  /-- A required setting of a data source is absent. -/
  | missingSetting (name : String)
  /-- A blank password over an encrypted connection. -/
  | passwordRequired
  /-- An option names an argument that is passed already. -/
  | repeatedKeyword (name : String)
  /-- An option whose name is no text. -/
  | keywordNotText
  /-- A connection for which no escaper is known. -/
  | noEscaper (className : String)
  /-- A row with fewer values than columns. -/
  | rowTooShort
  /-- A row with more values than columns. -/
  | rowTooLong
  /-- A row without the asked column. -/
  | missingColumn (shown : String)
  /-- Rows were asked for before any statement. -/
  | noActiveStatement
  /-- The driver could not open a connection; `causeText` is the text of its error. -/
  | cannotConnect (product : String) (host : Value) (hostText causeText : String) (cause : Raised)
  /-- A record with refused fields. -/
  | invalid (errors : List FieldError)
  /-- An error that ends an iteration came up while elements were made one by one. -/
  | generatorStopped (cause : Raised)
  /-- An error of foreign code, passed on. -/
  | raised (e : Raised)

namespace Fault

/-- What a marker expects where shapes are checked. -/
def expectation : Kind → String
  | .array => "array"
  | .assoc => "associative array"
  | _ => "value"

/-- The wording of a fault. -/
def message : Fault → String
  | arity expected actual template =>
    "Number of args (" ++ toString actual ++ ") doesn't match number of placeholders (" ++
      toString expected ++ ") in [" ++ template ++ "]"
  | shape kind typeName =>
    String.ofList kind.marker ++ " placeholder expects " ++ expectation kind ++ ", " ++ typeName ++
      " given"
  | unknownKind shown => shown ++ " is not a valid PlaceholderKind"
  | integerTooLong =>
    "Exceeds the limit (4300 digits) for integer string conversion; " ++
      "use sys.set_int_max_str_digits() to increase the limit"
  | numeralTooLong digits =>
    "Exceeds the limit (4300 digits) for integer string conversion: value has " ++
      toString digits ++ " digits; use sys.set_int_max_str_digits() to increase the limit"
  | notInteger shown => "invalid literal for int() with base 10: " ++ shown
  | notDecimal shown => "could not convert string to float: " ++ shown
  | noIntegerReading typeName =>
    "int() argument must be a string, a bytes-like object or a real number, not '" ++ typeName ++
      "'"
  | noFloatReading typeName =>
    "float() argument must be a string or a real number, not '" ++ typeName ++ "'"
  | nanToInteger what => "cannot convert " ++ what ++ " to integer"
  | infinityToInteger what => "cannot convert " ++ what ++ " to integer"
  | signallingToFloat => "cannot convert signaling NaN to float"
  | integerTooLarge => "int too large to convert to float"
  | hookResult hook expected actual =>
    hook ++ " returned non-" ++ expected ++ " (type " ++ actual ++ ")"
  | noLength typeName => "object of type '" ++ typeName ++ "' has no len()"
  | lengthTooLarge => "Python int too large to convert to C ssize_t"
  | notIterable typeName => "'" ++ typeName ++ "' object is not iterable"
  | unhashable typeName => "unhashable type: '" ++ typeName ++ "'"
  | signallingKey => "Cannot hash a signaling NaN value"
  | signallingComparison => "[<class 'decimal.InvalidOperation'>]"
  | pairNotSequence index =>
    "cannot convert dictionary update sequence element #" ++ toString index ++ " to a sequence"
  | pairLength index length =>
    "dictionary update sequence element #" ++ toString index ++ " has length " ++
      toString length ++ "; 2 is required"
  | noMember typeName member =>
    "'" ++ typeName ++ "' object has no attribute '" ++ member ++ "'"
  | productRequired => "product_type is required (from datasource or argument)"
  | unknownProduct shown => shown ++ " is not a valid ProductTypeEnum"
  | unsupportedProduct text => "Unsupported product_type: " ++ text
  | missingSetting name => "datasource must provide " ++ name
  | passwordRequired => "Password is required for Trino when using SSL/HTTPS."
  | repeatedKeyword name => "got multiple values for keyword argument '" ++ name ++ "'"
  | keywordNotText => "keywords must be strings"
  | noEscaper className =>
    "Cannot choose a literal escaper for " ++ className ++ "; pass product_type or quote"
  | rowTooShort => "zip() argument 2 is shorter than argument 1"
  | rowTooLong => "zip() argument 2 is longer than argument 1"
  | missingColumn shown => shown
  | noActiveStatement => "No statement has been executed; call query() first"
  | cannotConnect product _ hostText causeText _ =>
    "Cannot connect to " ++ product ++ " at " ++ hostText ++ ": " ++ causeText
  | invalid errors => toString errors.length ++ " refused fields"
  | generatorStopped _ => "generator raised StopIteration"
  | raised e => e.text.toOption.getD ""

/-- Whether the fault tells that a value has no numeric reading, which a loose cast answers by
    zero. -/
def isConversionError : Fault → Bool
  | notInteger _ | notDecimal _ | numeralTooLong _ | integerTooLong | noIntegerReading _
  | noFloatReading _ | nanToInteger _ | infinityToInteger _ | signallingToFloat | integerTooLarge
  | hookResult .. => true
  | raised e => e.isConversionError
  | _ => false

/-- The fault that comes out of a generator of elements for one that comes up in it: what would end
    an iteration does not end this one. -/
def outOfGenerator : Fault → Fault
  | raised e => if e.isStop then generatorStopped e else raised e
  | f => f

theorem outOfGenerator_outOfGenerator (f : Fault) :
    f.outOfGenerator.outOfGenerator = f.outOfGenerator := by
  cases f with
  | raised e => by_cases h : e.isStop = true <;> simp [outOfGenerator, h]
  | _ => rfl

end Fault

end SqlWeave
