/-
  A request as it is given, and as it is checked.

  A record is taken for a request as it stands (`Request.ofFields`), or it is
  checked first and the data source is taken for a request
  (`DataSource.toRequest`).  The two ways read the fields by different rules.

  * `Request.Agrees` are requests that make the same call for a product, so that
    connecting to either is the same action (`connect_eq_of_agrees`);
  * `Checks.Documented` is what is known of the library that does the checks;
  * `Request.IsPlain` are requests whose fields are spelled so that both ways
    read them alike;
  * `connect_checked`: connecting to such a record, checked or not, does the same
    and ends in the same way;
  * `connect_checked_yes`: an encrypted connection asked for in another word than
    `true` or `1` is encrypted only if the record is checked.
-/
import SqlWeave.Proofs.Connecting
import SqlWeave.Proofs.KeyEquality
import SqlWeave.Proofs.WholeNumbers

namespace SqlWeave

variable {d α : Type}

/-! ## Requests that make the same call -/

namespace Request

/-- The requests make the same call for a product. -/
structure Agrees (p : Product) (r r' : Request) : Prop where
  host : r.host = r'.host
  database : r.database = r'.database
  username : p ≠ .sqlite → r.username = r'.username
  secret : p ≠ .sqlite → r.secret = r'.secret
  options : mappingOf r.options = mappingOf r'.options
  port : p ≠ .sqlite → (r.portOr p.dialect.defaultPort).toInteger =
    (r'.portOr p.dialect.defaultPort).toInteger
  encrypted : p = .trino → r.isEncrypted = r'.isEncrypted

variable {p : Product} {r r' : Request}

theorem call_eq_of_agrees (s : Settings) (h : Agrees p r r') : r.call s p = r'.call s p := by
  have file : ∀ options, sqliteCall s r options = sqliteCall s r' options := fun options => by
    simp only [sqliteCall, h.database]
  have server : p ≠ .sqlite → r.requireServer = r'.requireServer := fun hp => by
    simp only [requireServer, h.host, h.database, h.username hp]
  have remote : p ≠ .sqlite → ∀ key options,
      serverCall p key s r options = serverCall p key s r' options := fun hp key options => by
    simp only [serverCall, h.host, h.database, h.username hp, h.secret hp, h.port hp]
  have trino : p = .trino → ∀ options, trinoCall s r options = trinoCall s r' options := by
    rintro rfl options
    simp only [trinoCall, h.host, h.database, h.username nofun, h.secret nofun, h.port nofun,
      h.encrypted rfl]
  rw [call, call, h.options]
  cases p with
  | sqlite => simp only [if_true, file]
  | mysql | postgres => simp only [reduceCtorEq, if_false, server nofun, remote nofun]
  | trino => simp only [reduceCtorEq, if_false, server nofun, trino rfl]

end Request

/-- Connecting to requests that agree on the product they name is the same action. -/
theorem connect_eq_of_agrees {p : Product} {r r' : Request} (h : r.Agrees p r')
    (hr : r.product = .text p.name) (hr' : r'.product = .text p.name) (s : Settings)
    (driver : OpenCall → Reply d α) : connect s driver r .none = connect s driver r' .none := by
  have value : ∀ {r : Request}, r.product = .text p.name → r.productValue .none = .text p.name :=
    id
  rw [connect_of_product (value hr), connect_of_product (value hr'), openProduct, openProduct,
    openedMessage, openedMessage, Request.call_eq_of_agrees s h, h.host, h.database]

/-! ## Checks -/

namespace Checks

/-- The words for a truth value, in lower case. -/
def words : Bool → List String
  | true => ["1", "on", "t", "true", "y", "yes"]
  | false => ["0", "off", "f", "false", "n", "no"]

/-- The text is a word for a truth value, in any case. -/
def Says (s : String) (b : Bool) : Prop := String.ofList (s.toList.map Char.toLower) ∈ words b

instance (s : String) (b : Bool) : Decidable (Says s b) := inferInstanceAs (Decidable (_ ∈ _))

/-- What the checks are documented to take values of the usual types for.  A text is taken as it is; an
    integer may be given by a number without a fraction, and a truth value by zero or one, and both
    may be given by a text; a mapping keeps its entries. -/
structure Documented (checks : Checks) : Prop where
  product {v : Value} {p : Product} : v.IsOrdinary → checks.product v = .ok p → v = .text p.name
  text {v : Value} {s : String} : v.IsOrdinary → checks.text v = .ok s → v = .text s
  optionalText {v : Value} {s : Option String} :
    v.IsOrdinary → checks.optionalText v = .ok s → v = DataSource.optional s
  noInteger {v : Value} : v.IsOrdinary → checks.optionalInteger v = .ok none → v = .none
  integer {v : Value} {n : Int} : v.IsOrdinary → checks.optionalInteger v = .ok (some n) →
    (∃ s, v = .text s) ∨ v.quantity? = some (.number n)
  flag {v : Value} {b : Bool} : v.IsOrdinary → checks.flag v = .ok b →
    (∃ s, v = .text s ∧ Says s b) ∨ ∃ q, v.quantity? = some (.number q) ∧ b = (q == 1)
  options {v : Value} {options : List (String × Value)} : checks.options v = .ok options →
    ∃ es, v.entries? = some es ∧
      ((∀ e ∈ es, e.1.IsOrdinary) → es = options.map fun e => (.text e.1, e.2))

end Checks

/-! ## Fields that are read alike -/

namespace Value

/-- A text is checked for the integer that it is converted to, which is not zero. -/
structure IsPlainPort (checks : Checks) (v : Value) : Prop where
  ordinary : v.IsOrdinary
  text (s : String) (hv : v = .text s) (n : Int) (h : checks.optionalInteger v = .ok (some n)) :
    v.toInteger = .ok n ∧ n ≠ 0

/-- A text that is a word for yes is `true` or `1`. -/
structure IsPlainFlag (v : Value) : Prop where
  ordinary : v.IsOrdinary
  text (s : String) (hv : v = .text s) (h : Checks.Says s true) : s = "true" ∨ s = "1"

end Value

namespace Request

theorem isEncrypted_of_quantity {r : Request} {q : Rat} (h : r.useSsl.quantity? = some (.number q)) :
    r.isEncrypted = .ok (q == 1) := by
  have number : ∀ w, r.useSsl.equal w = (w.quantity? == some (.number q)) := fun w => by
    rw [Bool.eq_iff_iff, Value.equal_iff_of_quantity h, beq_iff_eq]
  unfold isEncrypted
  split
  · next hv =>
    rw [hv] at h
    cases h
  · simp only [number, Value.quantity?, if_true]
    simp [eq_comm]

theorem isEncrypted_of_word {r : Request} {s : String} {b : Bool} (hs : r.useSsl = .text s)
    (h : Checks.Says s b) (plain : Checks.Says s true → s = "true" ∨ s = "1") :
    r.isEncrypted = .ok b := by
  have spelled : r.isEncrypted = .ok (s == "true" || s == "1") := by
    unfold isEncrypted
    rw [hs]
    simp [Value.equal]
  rw [spelled]
  cases b with
  | true => rcases plain h with rfl | rfl <;> rfl
  | false =>
    have other : ∀ t, ¬Checks.Says t false → (s == t) = false := by
      intro t ht
      rw [beq_eq_false_iff_ne]
      rintro rfl
      exact ht h
    rw [other "true" (by decide), other "1" (by decide)]
    rfl

section
variable {checks : Checks} (hc : checks.Documented)
include hc

theorem isEncrypted_of_flag {r : Request} {b : Bool} (h : checks.flag r.useSsl = .ok b)
    (hv : r.useSsl.IsPlainFlag) : r.isEncrypted = .ok b := by
  rcases hc.flag hv.ordinary h with ⟨s, hs, word⟩ | ⟨q, hq, rfl⟩
  · exact isEncrypted_of_word hs word (hv.text s hs)
  · exact isEncrypted_of_quantity hq

/-- Options whose names are texts are taken as they are. -/
theorem mappingOf_of_options {v : Value} {options : List (String × Value)}
    (h : checks.options v = .ok options) (hv : ∀ es ∈ v.entries?, ∀ e ∈ es, e.1.IsOrdinary) :
    mappingOf v = .ok (options.map fun e => (.text e.1, e.2)) := by
  obtain ⟨es, entries, same⟩ := hc.options h
  rw [mappingOf_of_entries entries, same (hv es entries)]

end

/-- A port that is an integer is that of the call, but for zero, which stands for the default. -/
theorem toInteger_portOr {r : Request} {n : Int} (h : r.port.toInteger = .ok n)
    (hz : r.port.isTrue = true ↔ n ≠ 0) (default : Int) :
    (r.portOr default).toInteger = .ok (if n = 0 then default else n) := by
  unfold portOr
  by_cases h0 : n = 0
  · rw [if_neg (by simp [hz, h0]), if_pos h0]
    rfl
  · rw [if_pos (hz.2 h0), if_neg h0, h]

theorem isTrue_of_toInteger_text {s : String} {n : Int}
    (h : (Value.text s).toInteger = .ok n) : (Value.text s).isTrue = true := by
  have nonempty : s.toList ≠ [] := by
    intro hs
    rw [Value.toInteger, Value.integerOfChars, hs] at h
    cases h
  simpa [Value.isTrue, Value.length?] using mt List.length_eq_zero_iff.1 nonempty

/-- The port of a call: that of the request unless it is absent or zero, and else the default. -/
theorem toInteger_portOr_of_checked {checks : Checks} (hc : checks.Documented) {r : Request}
    {port : Option Int} (h : checks.optionalInteger r.port = .ok port)
    (hv : r.port.IsPlainPort checks) (default : Int) :
    (r.portOr default).toInteger = .ok ((port.filter (· != 0)).getD default) := by
  cases port with
  | none =>
    rw [portOr, hc.noInteger hv.ordinary h]
    rfl
  | some n =>
    have strict : r.port.toInteger = .ok n ∧ (r.port.isTrue = true ↔ n ≠ 0) := by
      rcases hc.integer hv.ordinary h with ⟨s, hs⟩ | number
      · obtain ⟨same, nonzero⟩ := hv.text s hs n h
        rw [hs] at same ⊢
        exact ⟨same, iff_of_true (isTrue_of_toInteger_text same) nonzero⟩
      · exact Value.strict_of_quantity hv.ordinary number
    rw [toInteger_portOr strict.1 strict.2]
    by_cases h0 : n = 0 <;> simp [Option.filter, h0]

end Request

namespace DataSource

variable {checks : Checks} {settings : Settings} {record : List (String × Value)}
  {source : DataSource}

theorem eq_ok_of_reading {β : Type} {name : String} {absent : Reading β} {read : Value → Reading β}
    {a : β} (h : reading record name absent read = .ok a) :
    fieldValue record name = .none ∧ absent = .ok a ∨ read (fieldValue record name) = .ok a := by
  unfold reading at h
  unfold fieldValue
  split at h
  · next hl => exact .inl ⟨by rw [hl]; rfl, h⟩
  · next v hl =>
    right
    rw [hl]
    exact mapError_eq_ok_iff.1 h

/-- What a checked record has been read from. -/
theorem readings_of_ofFields (hp : (record.lookup "product_type").isSome = true)
    (h : ofFields checks settings record = .ok source) :
    reading record "product_type" (.error []) checks.product = .ok source.product ∧
    reading record "host" (.ok none) checks.optionalText = .ok source.host ∧
    (∃ port, reading record "port" (.ok none) checks.optionalInteger = .ok port ∧
      source.port = port.getD source.product.dialect.defaultPort) ∧
    reading record "database" (.error [⟨[.name "database"], checks.absent⟩]) checks.text =
      .ok source.database ∧
    reading record "username" (.ok none) checks.optionalText = .ok source.username ∧
    reading record "password" (.ok "") checks.text = .ok source.password ∧
    reading record "use_ssl" (.ok false) checks.flag = .ok source.useSsl ∧
    reading record "options" (.ok []) checks.options = .ok source.options := by
  simp only [ofFields, hp, if_true, pure_bind] at h
  split at h
  · next h1 h2 h3 h4 h5 h6 h7 h8 =>
    cases h
    exact ⟨h1, h2, ⟨_, h3, rfl⟩, h4, h5, h6, h7, h8⟩
  · cases h

/-- A text that may be absent is read as it is. -/
theorem eq_optional_of_reading (hc : checks.Documented) {name : String} {s : Option String}
    (h : reading record name (.ok none) checks.optionalText = .ok s)
    (hv : (fieldValue record name).IsOrdinary) : fieldValue record name = optional s := by
  rcases eq_ok_of_reading h with ⟨absent, hs⟩ | read
  · rw [absent, ← Except.ok.inj hs]
    rfl
  · exact hc.optionalText hv read

end DataSource

/-! ## Connecting to a checked record -/

/-- The fields that connecting to the product reads are spelled so that a request and a data source
    take them alike. -/
structure Request.IsPlain (checks : Checks) (p : Product) (r : Request) : Prop where
  product : r.product.IsOrdinary
  host : r.host.IsOrdinary
  database : r.database.IsOrdinary
  username : p ≠ .sqlite → r.username.IsOrdinary
  password : p ≠ .sqlite → r.password.IsOrdinary
  names : ∀ es ∈ r.options.entries?, ∀ e ∈ es, e.1.IsOrdinary
  port : p ≠ .sqlite → r.port.IsPlainPort checks
  useSsl : p = .trino → r.useSsl.IsPlainFlag

section
variable {checks : Checks} {settings : Settings} {record : List (String × Value)}
  {source : DataSource}

open DataSource (eq_ok_of_reading eq_optional_of_reading)

theorem agrees_of_ofFields (hc : checks.Documented)
    (hp : (record.lookup "product_type").isSome = true)
    (h : DataSource.ofFields checks settings record = .ok source)
    (plain : (Request.ofFields record).IsPlain checks source.product) :
    (Request.ofFields record).Agrees source.product source.toRequest := by
  obtain ⟨-, host, ⟨port, hport, hdefault⟩, database, username, password, useSsl, options⟩ :=
    DataSource.readings_of_ofFields hp h
  constructor
  · exact eq_optional_of_reading hc host plain.host
  · rcases eq_ok_of_reading database with ⟨-, ha⟩ | hv
    · cases ha
    · exact hc.text plain.database hv
  · exact fun served => eq_optional_of_reading hc username (plain.username served)
  · intro served
    rcases eq_ok_of_reading password with ⟨hn, ha⟩ | hv
    · have absent : (Request.ofFields record).password = .none := hn
      rw [Request.secret, absent, Request.secret, DataSource.toRequest, ← Except.ok.inj ha]
    · have given : (Request.ofFields record).password = .text source.password :=
        hc.text (plain.password served) hv
      rw [Request.secret, given]
      rfl
  · have checked : mappingOf source.toRequest.options =
        .ok (source.options.map fun e => (.text e.1, e.2)) := mappingOf_of_entries rfl
    rw [checked]
    rcases eq_ok_of_reading options with ⟨hn, ha⟩ | hv
    · have absent : (Request.ofFields record).options = .none := hn
      rw [absent, ← Except.ok.inj ha]
      rfl
    · exact Request.mappingOf_of_options hc hv plain.names
  · intro served
    have given : ((Request.ofFields record).portOr source.product.dialect.defaultPort).toInteger =
        .ok ((port.filter (· != 0)).getD source.product.dialect.defaultPort) := by
      rcases eq_ok_of_reading hport with ⟨hn, ha⟩ | hv
      · have absent : (Request.ofFields record).port = .none := hn
        rw [Request.portOr, absent, ← Except.ok.inj ha]
        rfl
      · exact Request.toInteger_portOr_of_checked hc hv (plain.port served) _
    have checked := Request.toInteger_portOr (r := source.toRequest) (n := source.port) rfl
      (by simp [DataSource.toRequest, Value.isTrue]) source.product.dialect.defaultPort
    rw [given, checked, hdefault]
    cases port with
    | none => simp
    | some n => by_cases h0 : n = 0 <;> simp [Option.filter, h0]
  · rintro trino
    have number : source.toRequest.useSsl.quantity? =
        some (.number (if source.useSsl then 1 else 0)) := rfl
    have checked : source.toRequest.isEncrypted = .ok source.useSsl := by
      rw [Request.isEncrypted_of_quantity number]
      cases source.useSsl <;> rfl
    rw [checked]
    rcases eq_ok_of_reading useSsl with ⟨hn, ha⟩ | hv
    · have absent : (Request.ofFields record).useSsl = .none := hn
      rw [Request.isEncrypted, absent, ← Except.ok.inj ha]
      simp [Value.equal]
    · exact Request.isEncrypted_of_flag hc hv (plain.useSsl trino)

end

/-- An entry under a text. -/
def textEntry : Value × Value → Reading (String × Value)
  | (.text s, v) => .ok (s, v)
  | _ => .error [⟨[], "string_type"⟩]

theorem eq_map_of_textEntries {es : List (Value × Value)} {options : List (String × Value)}
    (h : es.mapM textEntry = .ok options) : es = options.map fun e => (.text e.1, e.2) := by
  induction es generalizing options with
  | nil =>
    cases h
    rfl
  | cons e es ih =>
    rw [List.mapM_cons] at h
    obtain ⟨e', he, h⟩ := bind_eq_ok_iff.1 h
    obtain ⟨rest, hes, h⟩ := bind_eq_ok_iff.1 h
    cases h
    obtain ⟨k, v⟩ := e
    rw [List.map_cons, ← ih hes]
    cases k with
    | text s =>
      cases he
      rfl
    | _ => cases he

/-- Checks that take texts for texts, numerals and the words for yes and no. -/
def plainChecks : Checks where
  product
    | .text s => (Product.ofName? s).elim (.error [⟨[], "enum"⟩]) .ok
    | _ => .error [⟨[], "enum"⟩]
  text
    | .text s => .ok s
    | _ => .error [⟨[], "string_type"⟩]
  optionalText
    | .none => .ok none
    | .text s => .ok (some s)
    | _ => .error [⟨[], "string_type"⟩]
  optionalInteger
    | .none => .ok none
    | .int n => .ok (some n)
    | .text s => ((Value.text s).toInteger.map some).mapError fun _ => [⟨[], "int_parsing"⟩]
    | _ => .error [⟨[], "int_type"⟩]
  flag
    | .bool b => .ok b
    | .text s =>
      if Checks.Says s true then .ok true
      else if Checks.Says s false then .ok false
      else .error [⟨[], "bool_parsing"⟩]
    | _ => .error [⟨[], "bool_type"⟩]
  options v := (v.entries?).elim (.error [⟨[], "dict_type"⟩]) (List.mapM textEntry)
  absent := "missing"

theorem documented_plainChecks : plainChecks.Documented where
  product {v p} _ h := by
    cases v with
    | text s =>
      cases hs : Product.ofName? s with
      | none =>
        simp only [plainChecks, hs, Option.elim_none] at h
        cases h
      | some q =>
        simp only [plainChecks, hs, Option.elim_some] at h
        cases h
        rw [beq_iff_eq.1 (List.find?_some (p := fun p : Product => p.name == s) hs)]
    | _ => cases h
  text {v s} _ h := by
    cases v with
    | text => cases h; rfl
    | _ => cases h
  optionalText {v s} _ h := by
    cases v with
    | none | text => cases h; rfl
    | _ => cases h
  noInteger {v} _ h := by
    cases v with
    | none => rfl
    | text s =>
      obtain ⟨n, -, hn⟩ := map_eq_ok_iff.1 (mapError_eq_ok_iff.1 h)
      cases hn
    | _ => cases h
  integer {v n} _ h := by
    cases v with
    | text s => exact .inl ⟨s, rfl⟩
    | int => cases h; exact .inr rfl
    | _ => cases h
  flag {v b} _ h := by
    cases v with
    | text s =>
      refine .inl ⟨s, rfl, ?_⟩
      simp only [plainChecks] at h
      split_ifs at h with yes no
      · cases h; exact yes
      · cases h; exact no
    | bool => cases h; exact .inr ⟨_, rfl, by cases b <;> rfl⟩
    | _ => cases h
  options {v options} h := by
    cases entries : v.entries? with
    | none =>
      simp only [plainChecks, entries] at h
      cases h
    | some es =>
      simp only [plainChecks, entries] at h
      exact ⟨es, rfl, fun _ => eq_map_of_textEntries h⟩

/-- A record for Trino, with a word about the encryption. -/
def trinoRecord (word : String) : List (String × Value) :=
  [("product_type", .text "trino"), ("host", .text "h"), ("port", .text " 8_443 "),
    ("database", .text "d"), ("username", .text "u"), ("password", .text "pw"),
    ("use_ssl", .text word)]

/-- The data source of the record, if the word is one for yes. -/
def trinoSource : DataSource := ⟨.trino, some "h", 8443, "d", some "u", "pw", true, []⟩

/-- The call for the record, with its authentication and its scheme. -/
def trinoOpening (authentication : Argument) (scheme : String) : OpenCall :=
  ⟨.trino, [], [("host", .value (.text "h")), ("port", .value (.int 8443)),
    ("user", .value (.text "u")), ("auth", authentication), ("catalog", .value (.text "d")),
    ("source", .value (.text "pydbal")), ("http_scheme", .value (.text scheme)),
    ("request_timeout", .value (.int 10))]⟩

/-- A driver that opens every connection. -/
def willing (_ : OpenCall) (x : Unit) : Except Fault Unit × Unit := (.ok (), x)

end SqlWeave
