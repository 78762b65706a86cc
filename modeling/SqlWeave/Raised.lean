/-
  Errors raised by code that the library calls but does not own: a driver, a
  hook of a value, a quote function.

  An error has a class, and counts as one of each class that its own is derived
  from (`Raised.isA`).  Connecting wraps the errors of `driverErrors`, a loose
  cast takes those of `conversionErrors` for a value that is not numeric, and
  `stop` ends an iteration; all others pass through unchanged.
-/
namespace SqlWeave

/-- A class of errors. -/
structure ErrorClass where
  /-- The module that it is defined in; absent if it is built in. -/
  origin : Option String
  name : String
  deriving DecidableEq, Repr, Inhabited

namespace ErrorClass

/-- The class of errors of the operating system. -/
def system : ErrorClass := ⟨none, "OSError"⟩

/-- The class of errors that end an iteration. -/
def stop : ErrorClass := ⟨none, "StopIteration"⟩

/-- The classes of errors which tell that a connection could not be opened: those of three database
    drivers, the two of Trino that blame the user or the surroundings, and that of the operating
    system. -/
def driverErrors : List ErrorClass :=
  [⟨some "psycopg", "Error"⟩, ⟨some "pymysql", "Error"⟩, ⟨some "sqlite3", "Error"⟩,
    ⟨some "trino", "TrinoUserError"⟩, ⟨some "trino", "TrinoExternalError"⟩, system]

/-- The classes of errors which tell that a value has no conversion. -/
def conversionErrors : List ErrorClass :=
  [⟨none, "TypeError"⟩, ⟨none, "ValueError"⟩, ⟨none, "OverflowError"⟩]

end ErrorClass

/-- An error raised by foreign code. -/
structure Raised where
  errorClass : ErrorClass
  /-- The classes that its class is derived from. -/
  ancestors : List ErrorClass
  /-- The text of the error, unless writing it raises another one. -/
  text : Except Raised String
  deriving Inhabited

namespace Raised

/-- Whether the error is one of a class, or of a class derived from it. -/
def isA (e : Raised) (c : ErrorClass) : Bool := (e.errorClass :: e.ancestors).contains c

/-- Whether the error tells that a driver could not open its connection. -/
def isDriverError (e : Raised) : Bool := ErrorClass.driverErrors.any e.isA

/-- Whether the error tells that a value has no conversion. -/
def isConversionError (e : Raised) : Bool := ErrorClass.conversionErrors.any e.isA

/-- Whether the error ends an iteration. -/
def isStop (e : Raised) : Bool := e.isA .stop

end Raised

end SqlWeave
