/-
  Settings.

  Two things are set from outside: how long opening a connection may take, and
  the product of data sources that name none.
-/
namespace SqlWeave

/-- What is set from outside. -/
structure Settings where
  /-- How many seconds opening a connection may take. -/
  connectTimeout : Int
  /-- The name of the product of data sources that name none. -/
  defaultProduct : String
  deriving DecidableEq, Repr

namespace Settings

/-- The settings where nothing is set. -/
def default : Settings := ⟨10, "mysql"⟩

instance : Inhabited Settings := ⟨default⟩

end Settings

end SqlWeave
