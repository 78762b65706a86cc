/-
  Opening a connection.

  A request is turned into the call of its product's driver (`Request.call`),
  and the driver is called at most once (`connect`).  What is missing or wrong
  is refused before the driver is called.  A driver that cannot open the
  connection makes the fault `cannotConnect`, which keeps the driver's error;
  any other error passes through.

  The caller's options become further arguments of the call.  They may replace
  the defaults of some arguments, and may not name an argument that the call has
  already.  A log record is made before its message is written, so one that
  cannot be written changes nothing.
-/
import SqlWeave.Connection
import SqlWeave.DataSource
import SqlWeave.Value.Key

namespace SqlWeave

/-! ## Options -/

/-- The entry that the element at `index` stands for, among pairs to build a mapping from. -/
def pairOf (index : Nat) (v : Value) : Except Fault (Value × Value) :=
  match v.elements? with
  | none => .error (.pairNotSequence index)
  | some [k, x] => .ok (k, x)
  | some xs => .error (.pairLength index xs.length)

/-- The entries with those of further pairs, the first of which stands at `index`. -/
def insertPairs (es : List (Value × Value)) (index : Nat) :
    List Value → Except Fault (List (Value × Value))
  | [] => .ok es
  | v :: vs => do
    let (k, x) ← pairOf index v
    let es ← Entries.insert? es k x
    insertPairs es (index + 1) vs

/-- The mapping that a value stands for: itself, its pairs, or nothing if it counts as false. -/
def mappingOf (v : Value) : Except Fault (List (Value × Value)) :=
  if !v.isTrue then .ok []
  else match v.entries?, v.elements? with
    | some es, _ => .ok es
    | none, some xs => insertPairs [] 0 xs
    | none, none => .error (.notIterable v.qualifiedTypeName)

/-- The value of an option. -/
def option? (name : String) (options : List (Value × Value)) : Option Value :=
  Entries.lookup? (.text name) options

/-- The options but the one of a name. -/
def withoutOption (name : String) (options : List (Value × Value)) : List (Value × Value) :=
  options.filter fun e => !e.1.equal (.text name)

/-- Further arguments by name, none of which may be there already. -/
def addKeywords (fixed : List (String × Argument)) (options : List (Value × Value)) :
    Except Fault (List (String × Argument)) := do
  let names := options.map fun e => match e.1 with
    | .text s => some s
    | _ => none
  match names.find? fun n => n.any fun s => fixed.any (·.1 == s) with
  | some n => throw (.repeatedKeyword (n.getD ""))
  | none =>
    let added ← options.mapM fun e => match e.1 with
      | .text s => .ok (s, Argument.value e.2)
      | _ => .error .keywordNotText
    return fixed ++ added

/-! ## The call -/

namespace Request

/-- Refuses an absent setting. -/
def require (name : String) (v : Value) : Except Fault Unit :=
  match v with
  | .none => .error (.missingSetting name)
  | _ => .ok ()

/-- The password, empty if it is absent. -/
def secret (r : Request) : Value :=
  match r.password with
  | .none => .text ""
  | v => v

/-- Whether the connection is to be encrypted: true, one, or the text of either. -/
def isEncrypted (r : Request) : Except Fault Bool :=
  match r.useSsl with
  | .decimal (.nan _ true _) => .error .signallingComparison
  | v => .ok (v.equal (.bool true) || v.equal (.text "true") || v.equal (.text "1"))

/-- Whether a password has a character that is not blank. -/
def isSolid (v : Value) : Except Fault Bool :=
  if !v.isTrue then .ok false
  else match v with
    | .text s => .ok (s.toList.any fun c => !Text.isBlank c)
    | .bytes bs | .byteArray bs =>
      .ok (bs.any fun b => !Text.isPlainBlank (Char.ofNat b.toNat))
    | v => .error (.noMember v.qualifiedTypeName "strip")

/-- The port, or the product's own if none is given. -/
def portOr (r : Request) (default : Int) : Value := if r.port.isTrue then r.port else .int default

/-- The call for SQLite, whose database is a file. -/
def sqliteCall (s : Settings) (r : Request) (options : List (Value × Value)) :
    Except Fault OpenCall := do
  require "database" r.database
  let isolation := (option? "isolation_level" options).getD .none
  let rest := (.text "isolation_level", isolation) :: withoutOption "isolation_level" options
  return ⟨.sqlite, [r.database],
    ← addKeywords [("timeout", .value (.int s.connectTimeout))] rest⟩

/-- The call for MySQL or PostgreSQL, which name the database by `databaseKey`; statements persist on
    their own unless an option says otherwise. -/
def serverCall (p : Product) (databaseKey : String) (s : Settings) (r : Request)
    (options : List (Value × Value)) : Except Fault OpenCall := do
  let port ← (r.portOr p.dialect.defaultPort).toInteger
  let autocommit := (option? "autocommit" options).getD (.bool true)
  return ⟨p, [], ← addKeywords
    [("host", .value r.host), ("port", .value (.int port)), (databaseKey, .value r.database),
      ("user", .value r.username), ("password", .value r.secret),
      ("connect_timeout", .value (.int s.connectTimeout)), ("autocommit", .value autocommit)]
    (withoutOption "autocommit" options)⟩

/-- The call for Trino, which takes a password over encrypted connections only. -/
def trinoCall (s : Settings) (r : Request) (options : List (Value × Value)) :
    Except Fault OpenCall := do
  let encrypted ← r.isEncrypted
  if encrypted then
    if !(← isSolid r.secret) then throw .passwordRequired
  let port ← (r.portOr Product.trino.dialect.defaultPort).toInteger
  let auth := if encrypted then .credentials r.username r.secret else .value .none
  return ⟨.trino, [], ← addKeywords
    [("host", .value r.host), ("port", .value (.int port)), ("user", .value r.username),
      ("auth", auth), ("catalog", .value r.database), ("source", .value (.text "pydbal")),
      ("http_scheme", .value (.text (if encrypted then "https" else "http"))),
      ("request_timeout", .value (.int s.connectTimeout))]
    options⟩

/-- Refuses a request for a server that lacks a setting. -/
def requireServer (r : Request) : Except Fault Unit := do
  require "host" r.host
  require "database" r.database
  require "username" r.username

/-- The call of the driver of a product. -/
def call (s : Settings) (p : Product) (r : Request) : Except Fault OpenCall := do
  let options ← mappingOf r.options
  if p = .sqlite then sqliteCall s r options
  else
    requireServer r
    match p with
    | .mysql => serverCall .mysql "database" s r options
    | .postgres => serverCall .postgres "dbname" s r options
    | _ => trinoCall s r options

/-- Refuses a request whose product is a value `v` that names none. -/
def refuse (v : Value) (r : Request) : Fault :=
  let checks : Except Fault Unit := do
    if !r.port.isTrue then throw (unsupported v)
    let _ ← mappingOf r.options
    requireServer r
  match checks with
  | .error f => f
  | .ok _ => unsupported v

/-- The value that says which product to connect to: the argument, or else the request's own. -/
def productValue (r : Request) (argument : Value) : Value :=
  if argument.isTrue then argument else r.product

end Request

/-! ## Connecting -/

variable {d α : Type}

/-- The first of two values that counts as true, or else the second. -/
def orElse (v w : Value) : Value := if v.isTrue then v else w

/-- The text of a value. -/
def textOf (v : Value) : Except Fault String := v.plain.map String.ofList

/-- The text of a foreign error. -/
def Raised.written (e : Raised) : Except Fault String := e.text.mapError .raised

/-- The log record for an open connection. -/
def openedMessage (p : Product) (r : Request) : Except Fault String := do
  return "Connected to " ++ p.dialect.scheme ++ " at " ++ (← textOf (orElse r.host r.database))

/-- The log record for a driver's error while connecting. -/
def failedMessage (p : Product) (host : Value) (e : Raised) : Except Fault String := do
  return "Connection to " ++ p.name ++ " at " ++ (← textOf host) ++ " failed: " ++ (← e.written)

/-- The fault for a driver's error while connecting to the product `p`: the one of a connection, if
    the error and the host can be written. -/
def connectionFault (p : Product) (host : Value) (e : Raised) : Fault :=
  let worded : Except Fault Fault := do
    let causeText ← e.written
    let hostText ← textOf (orElse host (.text "local"))
    return .cannotConnect p.name host hostText causeText e
  match worded with
  | .ok f => f
  | .error f => f

/-- Runs an action that opens a connection to `p`, and turns a driver's error into a connection
    fault, which is logged. -/
def guarded (p : Product) (host : Value) (a : Act (World d) α) : Act (World d) α := do
  match ← Act.attempt a with
  | .ok x => return x
  | .error (.raised e) =>
    if e.isDriverError then
      log .error (failedMessage p host e)
      throw (connectionFault p host e)
    else throw (.raised e)
  | .error f => throw f

/-- Opens a connection to a known product.  `driver` is the driver's connecting function. -/
def openProduct (s : Settings) (driver : OpenCall → Reply d α) (p : Product) (r : Request) :
    Act (World d) α := do
  let connection ← guarded p r.host do
    let call ← Act.ofExcept (r.call s p)
    ask (.opened call) (driver call)
  log .debug (openedMessage p r)
  return connection

/-- Opens a connection to the product that the argument or else the request names. -/
def connect (s : Settings) (driver : OpenCall → Reply d α) (r : Request) (argument : Value) :
    Act (World d) α := do
  match r.productValue argument with
  | .none => throw .productRequired
  | .text name => openProduct s driver (← Act.ofExcept (Product.ofName name)) r
  | v => match r.refuse v with
    | .raised e =>
      if e.isDriverError then throw (.noMember v.qualifiedTypeName "value") else throw (.raised e)
    | f => throw f

end SqlWeave
