/-
  The supported database products.

  Each product has a name, the scheme of its addresses, and a default port
  (`Product.dialect`).
-/
import SqlWeave.Value.Display

namespace SqlWeave

/-- A database product. -/
inductive Product where
  | mysql
  | postgres
  | trino
  | sqlite
  deriving DecidableEq, Repr, Inhabited

/-- What connecting to a product presumes. -/
structure Dialect where
  /-- The scheme of its addresses. -/
  scheme : String
  /-- The port if none is given. -/
  defaultPort : Int
  deriving DecidableEq, Repr

namespace Product

/-- The products in the order in which they are listed. -/
def all : List Product := [mysql, postgres, trino, sqlite]

/-- The name of a product. -/
def name : Product → String
  | mysql => "mysql"
  | postgres => "postgres"
  | trino => "trino"
  | sqlite => "sqlite"

/-- The product of a name. -/
def ofName? (s : String) : Option Product := all.find? fun p => p.name == s

/-- The product of a name, or the fault that there is none. -/
def ofName (s : String) : Except Fault Product :=
  match ofName? s with
  | some p => .ok p
  | none => .error (.unknownProduct (String.ofList (Text.quoted s.toList)))

/-- What connecting to a product presumes. -/
def dialect : Product → Dialect
  | mysql => ⟨"mysql", 3306⟩
  | postgres => ⟨"pgsql", 5432⟩
  | trino => ⟨"trino", 8080⟩
  | sqlite => ⟨"sqlite", 0⟩

theorem ofName?_name (p : Product) : ofName? p.name = some p := by
  cases p <;> decide

end Product

/-- The fault that a value names no product. -/
def unsupported (v : Value) : Fault :=
  match v.plain with
  | .ok cs => .unsupportedProduct (String.ofList cs)
  | .error f => f

/-- The dialect of the product that a value names. -/
def dialectOf (v : Value) : Except Fault Dialect :=
  match v with
  | .text s => match Product.ofName? s with
    | some p => .ok p.dialect
    | none => .error (unsupported v)
  | v => .error (unsupported v)

end SqlWeave
