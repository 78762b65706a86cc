/-
  Data sources.

  A `Request` is what a caller says about a connection, with fields of any
  values, absent ones included.  A `DataSource` is a checked request: every
  field has its type, the product is a known one, and the port is filled in.

  * `Request.ofFields` takes the known fields out of a record;
  * `Checks` are the checks of values by types, which a library of its own does;
  * `DataSource.ofFields` checks a record by them, with the defaults of the
    fields and all errors in the order of the fields;
  * `DataSource.toRequest` is a data source as a request.
-/
import SqlWeave.Product
import SqlWeave.Settings

namespace SqlWeave

/-- What a caller says about a connection. -/
structure Request where
  product : Value
  host : Value
  port : Value
  database : Value
  username : Value
  password : Value
  /-- Whether the connection is to be encrypted. -/
  useSsl : Value
  /-- Further arguments for the driver. -/
  options : Value

/-- A checked request. -/
structure DataSource where
  product : Product
  host : Option String
  port : Int
  database : String
  username : Option String
  password : String
  /-- Whether the connection is to be encrypted. -/
  useSsl : Bool
  /-- Further arguments for the driver. -/
  options : List (String × Value)

/-- The value of a field, absent if the record lacks it. -/
def fieldValue (record : List (String × Value)) (field : String) : Value :=
  (record.lookup field).getD .none

/-- The known fields of a record. -/
def Request.ofFields (record : List (String × Value)) : Request where
  product := fieldValue record "product_type"
  host := fieldValue record "host"
  port := fieldValue record "port"
  database := fieldValue record "database"
  username := fieldValue record "username"
  password := fieldValue record "password"
  useSsl := fieldValue record "use_ssl"
  options := fieldValue record "options"

/-- The reading of a field: what it holds, or the errors in it. -/
abbrev Reading (α : Type) := Except (List FieldError) α

/-- The errors of a reading. -/
def Reading.errors {α : Type} : Reading α → List FieldError
  | .ok _ => []
  | .error es => es

/-- The checks of values by the types of fields.  A check may take values of other types for ones of
    its own; how lenient it is, and what its errors are, is up to the library that does it. -/
structure Checks where
  product : Value → Reading Product
  text : Value → Reading String
  optionalText : Value → Reading (Option String)
  optionalInteger : Value → Reading (Option Int)
  flag : Value → Reading Bool
  /-- A mapping from texts to any values. -/
  options : Value → Reading (List (String × Value))
  /-- What is wrong with a field that must be there and is not. -/
  absent : String

namespace DataSource

/-- A text that may be absent, as a value. -/
def optional (s : Option String) : Value := s.elim .none .text

/-- A data source as a request. -/
def toRequest (s : DataSource) : Request where
  product := .text s.product.name
  host := optional s.host
  port := .int s.port
  database := .text s.database
  username := optional s.username
  password := .text s.password
  useSsl := .bool s.useSsl
  options := .dict (s.options.map fun e => (.text e.1, e.2))

/-- The reading of the field `name` by `read`, or `absent` if the record lacks it. -/
def reading {α : Type} (record : List (String × Value)) (name : String) (absent : Reading α)
    (read : Value → Reading α) : Reading α :=
  match record.lookup name with
  | none => absent
  | some v => (read v).mapError fun es => es.map fun e => { e with path := .name name :: e.path }

/-- Checks a record.  A record without a product takes the default one, which fails at once if it is
    not known. -/
def ofFields (checks : Checks) (settings : Settings) (record : List (String × Value)) :
    Except Fault DataSource := do
  let product : Reading Product ←
    if (record.lookup "product_type").isSome then
      pure (reading record "product_type" (.error []) checks.product)
    else .ok <$> Product.ofName settings.defaultProduct
  let host := reading record "host" (.ok none) checks.optionalText
  let port := reading record "port" (.ok none) checks.optionalInteger
  let database := reading record "database"
    (.error [⟨[.name "database"], checks.absent⟩]) checks.text
  let username := reading record "username" (.ok none) checks.optionalText
  let password := reading record "password" (.ok "") checks.text
  let useSsl := reading record "use_ssl" (.ok false) checks.flag
  let options := reading record "options" (.ok []) checks.options
  match product, host, port, database, username, password, useSsl, options with
  | .ok product, .ok host, .ok port, .ok database, .ok username, .ok password, .ok useSsl,
      .ok options =>
    return ⟨product, host, port.getD product.dialect.defaultPort, database, username, password,
      useSsl, options⟩
  | _, _, _, _, _, _, _, _ =>
    throw (.invalid (product.errors ++ host.errors ++ port.errors ++ database.errors ++
      username.errors ++ password.errors ++ useSsl.errors ++ options.errors))

end DataSource

end SqlWeave
