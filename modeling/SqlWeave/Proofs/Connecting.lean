/-
  How connecting ends.

  A request is refused before anything is done, or its driver is called once;
  and then the connection is opened, or the driver fails, which makes a fault of
  its own, or raises something else, which passes through.  A driver's error
  without a text, or with a host that has none, cannot be reported.

  * `Request.Regular` are requests whose port and options have no hooks, so that
    making the call raises nothing foreign (`failsWith_call`);
  * `Worded` and `Unworded` say of an error and a host whether they have texts;
  * `exec_openProduct_of_error`, `exec_openProduct_of_ok`: what opening a
    connection does, without a call and with one;
  * `Ending.Describes` says what each way to end means for outcome, driver and
    journal, and `connect_ends` that connecting ends in exactly one of them;
  * `connect_longInteger`: for a host that cannot be written the driver's error
    is not reported.
-/
import Mathlib.Logic.ExistsUnique
import SqlWeave.Opening
import SqlWeave.Proofs.Calls
import SqlWeave.Proofs.Faults

namespace SqlWeave

variable {d α β : Type}

/-- A fault of the library's own that is not of a failed connection. -/
def Fault.IsRefusal : Fault → Prop
  | raised _ | cannotConnect .. => False
  | _ => True

/-! ## Making the call -/

/-- A port that no hook stands behind. -/
def Value.IsPort : Value → Prop
  | .none | .bool _ | .int _ | .text _ => True
  | _ => False

theorem Value.failsWith_toInteger {v : Value} (h : v.IsPort) :
    FailsWith Fault.IsRefusal v.toInteger := by
  cases v with
  | bool | int => exact .ok _
  | none => exact .error trivial
  | text s =>
    simp only [toInteger, integerOfChars]
    rcases Numeral.read s.toList with refusal | n
    · cases refusal <;> exact .error trivial
    · exact .ok _
  | _ => exact h.elim

theorem failsWith_addKeywords (fixed : List (String × Argument)) (options : List (Value × Value)) :
    FailsWith Fault.IsRefusal (addKeywords fixed options) := by
  unfold addKeywords
  simp only
  split
  · exact .error trivial
  · refine FailsWith.bind (.mapM (fun e => ?_) _) fun _ => .ok _
    split
    · exact .ok _
    · exact .error trivial

theorem mappingOf_of_entries {v : Value} {es : List (Value × Value)} (h : v.entries? = some es) :
    mappingOf v = .ok es := by
  unfold mappingOf
  split
  · next hv =>
    -- a mapping counts as false only if it is empty
    have counted : v.isTrue = (es.length != 0) := by
      cases v with
      | dict | dictView =>
        cases h
        rfl
      | custom c =>
        simp only [Value.entries?] at h
        split at h
        · next hc =>
          cases h
          simp [Value.isTrue, Value.length?, Contents.length?, hc]
        · cases h
      | _ => cases h
    have empty : es = [] := by simpa [counted] using hv
    rw [empty]
  · rw [h]

namespace Request

/-- No hook stands behind the port, and the options are absent or a mapping. -/
structure Regular (r : Request) : Prop where
  port : r.port.IsPort
  options : r.options = .none ∨ r.options.isMapping = true

theorem regular_toRequest (s : DataSource) : s.toRequest.Regular := ⟨trivial, .inr rfl⟩

theorem failsWith_require (name : String) (v : Value) :
    FailsWith Fault.IsRefusal (require name v) := by
  cases v <;> first | exact .error trivial | exact .ok _

theorem failsWith_requireServer (r : Request) : FailsWith Fault.IsRefusal r.requireServer :=
  (failsWith_require _ _).bind fun _ => (failsWith_require _ _).bind fun _ => failsWith_require _ _

theorem failsWith_isEncrypted (r : Request) : FailsWith Fault.IsRefusal r.isEncrypted := by
  unfold isEncrypted
  split
  · exact .error trivial
  · exact .ok _

theorem failsWith_isSolid (v : Value) : FailsWith Fault.IsRefusal (isSolid v) := by
  unfold isSolid
  split
  · exact .ok _
  · split
    · exact .ok _
    · exact .ok _
    · exact .ok _
    · exact .error trivial

section
variable {r : Request}

theorem Regular.exists_mapping (h : r.Regular) : ∃ es, mappingOf r.options = .ok es := by
  rcases h.options with ho | ho
  · exact ⟨[], by rw [ho]; rfl⟩
  · obtain ⟨es, hes⟩ := Option.isSome_iff_exists.1 ho
    exact ⟨es, mappingOf_of_entries hes⟩

theorem Regular.isPort_portOr (h : r.Regular) (default : Int) : (r.portOr default).IsPort := by
  unfold portOr
  split
  · exact h.port
  · trivial

/-- The call of a driver that is reached over a port. -/
def remoteCall (p : Product) (r : Request) (keywords : Int → List (String × Argument))
    (options : List (Value × Value)) : Except Fault OpenCall := do
  let port ← (r.portOr p.dialect.defaultPort).toInteger
  return ⟨p, [], ← addKeywords (keywords port) options⟩

/-- The call for Trino is refused, or it is one over a port like those of the other servers. -/
theorem trinoCall_cases (s : Settings) (r : Request) (options : List (Value × Value)) :
    (∃ f : Fault, f.IsRefusal ∧ trinoCall s r options = .error f) ∨
      ∃ keywords, trinoCall s r options = remoteCall .trino r keywords options := by
  unfold trinoCall
  cases he : r.isEncrypted with
  | error f => exact .inl ⟨f, r.failsWith_isEncrypted f he, rfl⟩
  | ok encrypted =>
    cases encrypted with
    | false => exact .inr ⟨_, rfl⟩
    | true =>
      cases hs : isSolid r.secret with
      | error f => exact .inl ⟨f, failsWith_isSolid _ f hs, rfl⟩
      | ok solid =>
        cases solid with
        | false => exact .inl ⟨.passwordRequired, trivial, rfl⟩
        | true => exact .inr ⟨_, rfl⟩

theorem failsWith_remoteCall (h : r.Regular) (p : Product)
    (keywords : Int → List (String × Argument)) (options : List (Value × Value)) :
    FailsWith Fault.IsRefusal (remoteCall p r keywords options) :=
  (Value.failsWith_toInteger (h.isPort_portOr _)).bind fun _ =>
    (failsWith_addKeywords _ _).bind fun _ => .ok _

theorem product_of_remoteCall {p : Product} {keywords : Int → List (String × Argument)}
    {options : List (Value × Value)} {call : OpenCall}
    (h : remoteCall p r keywords options = .ok call) : call.product = p := by
  obtain ⟨_, -, h⟩ := bind_eq_ok_iff.1 h
  obtain ⟨_, -, h⟩ := bind_eq_ok_iff.1 h
  cases h
  rfl

/-- Making the call fails with faults of the library's own only. -/
theorem failsWith_call (h : r.Regular) (s : Settings) (p : Product) :
    FailsWith Fault.IsRefusal (r.call s p) := by
  obtain ⟨options, ho⟩ := h.exists_mapping
  unfold call
  rw [ho]
  show FailsWith Fault.IsRefusal (if p = .sqlite then sqliteCall s r options else _)
  split
  · exact (failsWith_require _ _).bind fun _ => (failsWith_addKeywords _ _).bind fun _ => .ok _
  · refine r.failsWith_requireServer.bind fun _ => ?_
    split
    · exact failsWith_remoteCall h _ _ _
    · exact failsWith_remoteCall h _ _ _
    · rcases trinoCall_cases s r options with ⟨f, hf, ht⟩ | ⟨keywords, ht⟩ <;> rw [ht]
      · exact .error hf
      · exact failsWith_remoteCall h _ _ _

/-- The call is one of the driver of its product. -/
theorem product_of_call {s : Settings} {p : Product} {call : OpenCall} (h : r.call s p = .ok call) :
    call.product = p := by
  obtain ⟨options, -, h⟩ := bind_eq_ok_iff.1 h
  cases p with
  | sqlite =>
    obtain ⟨-, -, h⟩ := bind_eq_ok_iff.1 h
    obtain ⟨_, -, h⟩ := bind_eq_ok_iff.1 h
    cases h
    rfl
  | mysql | postgres =>
    obtain ⟨-, -, h⟩ := bind_eq_ok_iff.1 h
    exact product_of_remoteCall h
  | trino =>
    obtain ⟨-, -, h⟩ := bind_eq_ok_iff.1 h
    rcases trinoCall_cases s r options with ⟨f, -, ht⟩ | ⟨keywords, ht⟩
    · cases h.symm.trans ht
    · exact product_of_remoteCall (ht.symm.trans h)

end

end Request

/-! ## Values that name no product -/

/-- Whether the fault is that of a connection that could not be opened. -/
def Fault.isConnectionFault : Fault → Bool
  | cannotConnect .. => true
  | _ => false

theorem Fault.IsRefusal.not_isConnectionFault {f : Fault} (h : f.IsRefusal) :
    f.isConnectionFault = false := by
  cases f <;> first | exact h.elim | rfl

theorem Fault.IsUnwritable.not_isConnectionFault {f : Fault} (h : f.IsUnwritable) :
    f.isConnectionFault = false := by
  cases f <;> first | exact h.elim | rfl

theorem not_isConnectionFault_unsupported (v : Value) :
    (unsupported v).isConnectionFault = false := by
  unfold unsupported
  split
  · rfl
  · next f h => exact (v.failsWith_plain f h).not_isConnectionFault

theorem Request.Regular.not_isConnectionFault_refuse {r : Request} (h : r.Regular) (v : Value) :
    (r.refuse v).isConnectionFault = false := by
  obtain ⟨options, ho⟩ := h.exists_mapping
  have checks : FailsWith (·.isConnectionFault = false) (do
      if !r.port.isTrue then throw (unsupported v)
      let _ ← mappingOf r.options
      r.requireServer) := by
    rw [ho]
    cases r.port.isTrue with
    | false => exact .error (not_isConnectionFault_unsupported v)
    | true => exact fun f hf => (r.failsWith_requireServer f hf).not_isConnectionFault
  unfold refuse
  simp only
  split
  · next hf => exact checks _ hf
  · exact not_isConnectionFault_unsupported v

/-! ## Missing settings -/

/-- The value counts as false or has nothing but blanks. -/
def Value.IsBlank : Value → Prop
  | .text s => ∀ c ∈ s.toList, Text.isBlank c = true
  | .bytes bs | .byteArray bs => ∀ b ∈ bs, Text.isPlainBlank (Char.ofNat b.toNat) = true
  | v => v.isTrue = false

/-- What is asked for cannot do without a setting that the request lacks. -/
inductive Request.Lacks (r : Request) (argument : Value) : Prop where
  /-- The product is absent or unknown. -/
  | product (h : ∀ p : Product, r.productValue argument ≠ .text p.name)
  | file (hp : r.productValue argument = .text Product.sqlite.name) (h : r.database = .none)
  | server (p : Product) (hp : r.productValue argument = .text p.name) (hs : p ≠ .sqlite)
      (h : r.host = .none ∨ r.database = .none ∨ r.username = .none)
  /-- An encrypted connection needs a password. -/
  | password (hp : r.productValue argument = .text Product.trino.name)
      (he : r.isEncrypted = .ok true) (h : r.password.IsBlank)

namespace Request

variable {r : Request} {s : Settings} {call : OpenCall}

theorem require_eq_ok {name : String} {v : Value} (h : require name v = .ok ()) : v ≠ .none := by
  rintro rfl
  cases h

theorem requireServer_eq_ok (h : r.requireServer = .ok ()) :
    r.host ≠ .none ∧ r.database ≠ .none ∧ r.username ≠ .none := by
  obtain ⟨_, hh, h⟩ := bind_eq_ok_iff.1 h
  obtain ⟨_, hd, hu⟩ := bind_eq_ok_iff.1 h
  exact ⟨require_eq_ok hh, require_eq_ok hd, require_eq_ok hu⟩

theorem isSolid_of_isBlank {v : Value} (h : v.IsBlank) : isSolid v = .ok false := by
  unfold isSolid
  split
  · rfl
  · next hv =>
    cases v with
    | text s => simpa [Value.IsBlank] using h
    | bytes bs | byteArray bs => simpa [Value.IsBlank] using h
    | _ =>
      have ht : Value.isTrue _ = false := h
      simp [ht] at hv

theorem isBlank_secret (h : r.password.IsBlank) : r.secret.IsBlank := by
  unfold secret
  split
  · simp [Value.IsBlank]
  · exact h

theorem call_sqlite_ne_ok (h : r.database = .none) : r.call s .sqlite ≠ .ok call := by
  intro hc
  obtain ⟨options, -, hc⟩ := bind_eq_ok_iff.1 hc
  obtain ⟨_, hd, -⟩ := bind_eq_ok_iff.1 hc
  exact require_eq_ok hd h

theorem call_ne_ok {p : Product} (hp : p ≠ .sqlite)
    (h : r.host = .none ∨ r.database = .none ∨ r.username = .none) : r.call s p ≠ .ok call := by
  intro hc
  obtain ⟨options, -, hc⟩ := bind_eq_ok_iff.1 hc
  rw [if_neg hp] at hc
  obtain ⟨_, hs, -⟩ := bind_eq_ok_iff.1 hc
  obtain ⟨hh, hd, hu⟩ := requireServer_eq_ok hs
  rcases h with h | h | h
  · exact hh h
  · exact hd h
  · exact hu h

theorem call_trino_ne_ok (he : r.isEncrypted = .ok true) (h : r.password.IsBlank) :
    r.call s .trino ≠ .ok call := by
  intro hc
  obtain ⟨options, -, hc⟩ := bind_eq_ok_iff.1 hc
  obtain ⟨_, -, hc⟩ := bind_eq_ok_iff.1 hc
  obtain ⟨encrypted, he', hc⟩ := bind_eq_ok_iff.1 hc
  obtain rfl : true = encrypted := Except.ok.inj (he.symm.trans he')
  obtain ⟨solid, hs, hc⟩ := bind_eq_ok_iff.1 hc
  obtain rfl : false = solid := Except.ok.inj ((isSolid_of_isBlank (isBlank_secret h)).symm.trans hs)
  cases hc

end Request

/-! ## The outcome -/

/-- Connecting to a known product is opening a connection to it. -/
theorem connect_of_product {s : Settings} {driver : OpenCall → Reply d α} {r : Request}
    {argument : Value} {p : Product} (h : r.productValue argument = .text p.name) :
    connect s driver r argument = openProduct s driver p r := by
  have known : Product.ofName p.name = .ok p := by
    rw [Product.ofName, Product.ofName?_name]
  rw [connect, h]
  simp only [known]
  rfl

/-- A driver's connecting function, whose errors are its own. -/
def raising (driver : OpenCall → d → Except Raised α × d) (call : OpenCall) : Reply d α :=
  fun x => ((driver call x).1.mapError .raised, (driver call x).2)

theorem fst_raising_of_ok {driver : OpenCall → d → Except Raised α × d} {call : OpenCall} {x : d}
    {connection : α} (h : (driver call x).1 = .ok connection) :
    (raising driver call x).1 = .ok connection := by
  rw [raising, h]
  rfl

theorem fst_raising_of_error {driver : OpenCall → d → Except Raised α × d} {call : OpenCall} {x : d}
    {e : Raised} (h : (driver call x).1 = .error e) :
    (raising driver call x).1 = .error (.raised e) := by
  rw [raising, h]
  rfl

/-! ## Wording a driver's error -/

/-- The error and the host can be worded as these texts. -/
structure Worded (host : Value) (e : Raised) (causeText hostText : String) : Prop where
  cause : e.text = .ok causeText
  host : textOf (orElse host (.text "local")) = .ok hostText

/-- The error or the host cannot be worded, because of `f`. -/
inductive Unworded (host : Value) (e : Raised) (f : Fault) : Prop where
  | cause (h : e.written = .error f)
  | host (causeText : String) (hc : e.text = .ok causeText)
      (h : textOf (orElse host (.text "local")) = .error f)

theorem failsWith_textOf (v : Value) : FailsWith Fault.IsUnwritable (textOf v) := by
  intro f h
  unfold textOf at h
  cases hp : v.plain with
  | ok cs =>
    rw [hp] at h
    cases h
  | error g =>
    rw [hp] at h
    cases h
    exact v.failsWith_plain f hp

theorem written_of_text {e : Raised} {causeText : String} (h : e.text = .ok causeText) :
    e.written = .ok causeText := by
  rw [Raised.written, h]
  rfl

section
variable {p : Product} {host : Value} {e : Raised}

theorem connectionFault_of_worded {causeText hostText : String}
    (h : Worded host e causeText hostText) :
    connectionFault p host e = .cannotConnect p.name host hostText causeText e := by
  rw [connectionFault, written_of_text h.cause, h.host]
  rfl

theorem connectionFault_of_unworded {f : Fault} (h : Unworded host e f) :
    connectionFault p host e = f := by
  cases h with
  | cause h =>
    rw [connectionFault, h]
    rfl
  | host causeText hc h =>
    rw [connectionFault, written_of_text hc, h]
    rfl

theorem Unworded.not_isConnectionFault {f : Fault} (h : Unworded host e f) :
    f.isConnectionFault = false := by
  cases h with
  | cause h =>
    unfold Raised.written at h
    cases ht : e.text with
    | ok =>
      rw [ht] at h
      cases h
    | error =>
      rw [ht] at h
      cases h
      rfl
  | host _ _ h => exact (failsWith_textOf _ f h).not_isConnectionFault

/-- An error is worded or not. -/
theorem worded_or_unworded (host : Value) (e : Raised) :
    (∃ causeText hostText, Worded host e causeText hostText) ∨ ∃ f, Unworded host e f := by
  cases hc : e.text with
  | error e' => exact .inr ⟨.raised e', .cause (by rw [Raised.written, hc]; rfl)⟩
  | ok causeText =>
    cases hh : textOf (orElse host (.text "local")) with
    | error f => exact .inr ⟨f, .host causeText hc hh⟩
    | ok hostText => exact .inl ⟨causeText, hostText, hc, hh⟩

end

/-! ## The ways to end -/

/-- A way in which connecting ends. -/
inductive Ending where
  /-- A request is refused, and nothing is done. -/
  | refused
  | opened
  /-- The driver cannot open the connection. -/
  | failed
  /-- The driver cannot open the connection, and its error cannot be reported. -/
  | unworded
  /-- Another error of the driver passes through. -/
  | passedOn
  deriving DecidableEq

/-- The call is the one that the request makes for the product it asks for. -/
def Request.Makes (s : Settings) (r : Request) (argument : Value) (call : OpenCall) : Prop :=
  r.productValue argument = .text call.product.name ∧ r.call s call.product = .ok call

section
variable (s : Settings) (driver : OpenCall → d → Except Raised α × d) (r : Request)
  (argument : Value) (w : World d)

/-- What an ending says of the outcome of connecting, and of what has been done.  A driver's error is
    logged also if it cannot be reported. -/
def Ending.Describes (outcome : Except Fault α × World d) : Ending → Prop
  | refused => ∃ f : Fault, f.isConnectionFault = false ∧ outcome = (.error f, w)
  | opened => ∃ call connection,
    r.Makes s argument call ∧ (driver call w.driver).1 = .ok connection ∧
      outcome = (.ok connection, ⟨(driver call w.driver).2,
        w.journal ++ [.event (.opened call), .log ⟨.debug, openedMessage call.product r⟩]⟩)
  | failed => ∃ call e causeText hostText,
    r.Makes s argument call ∧ (driver call w.driver).1 = .error e ∧ e.isDriverError = true ∧
      Worded r.host e causeText hostText ∧
      outcome = (.error (.cannotConnect call.product.name r.host hostText causeText e),
        ⟨(driver call w.driver).2, w.journal ++
          [.event (.opened call), .log ⟨.error, failedMessage call.product r.host e⟩]⟩)
  | unworded => ∃ call e f,
    r.Makes s argument call ∧ (driver call w.driver).1 = .error e ∧ e.isDriverError = true ∧
      Unworded r.host e f ∧
      outcome = (.error f, ⟨(driver call w.driver).2, w.journal ++
        [.event (.opened call), .log ⟨.error, failedMessage call.product r.host e⟩]⟩)
  | passedOn => ∃ call e,
    r.Makes s argument call ∧ (driver call w.driver).1 = .error e ∧ e.isDriverError = false ∧
      outcome = (.error (.raised e),
        ⟨(driver call w.driver).2, w.journal ++ [.event (.opened call)]⟩)

end

section
variable {s : Settings} {driver : OpenCall → d → Except Raised α × d} {r : Request}
  {argument : Value} {w : World d} {p : Product}

theorem exec_openProduct_of_error {f : Fault} (h : r.call s p = .error f) (hf : f.IsRefusal) :
    Act.exec (openProduct s (raising driver) p r) w = (.error f, w) := by
  have call : Act.exec (do
      let call ← Act.ofExcept (r.call s p)
      ask (.opened call) (raising driver call)) w = (.error f, w) := by
    rw [Act.exec_bind, Act.exec_ofExcept, h]
  rw [openProduct, Act.exec_bind, guarded, Act.exec_bind, Act.exec_attempt, call]
  cases f <;> first | exact hf.elim | rfl

theorem exec_openProduct_of_ok {call : OpenCall} (h : r.call s p = .ok call) :
    Act.exec (openProduct s (raising driver) p r) w =
      match (driver call w.driver).1 with
      | .ok connection => (.ok connection, ⟨(driver call w.driver).2,
          w.journal ++ [.event (.opened call), .log ⟨.debug, openedMessage p r⟩]⟩)
      | .error e =>
        if e.isDriverError then
          (.error (connectionFault p r.host e), ⟨(driver call w.driver).2,
            w.journal ++ [.event (.opened call), .log ⟨.error, failedMessage p r.host e⟩]⟩)
        else (.error (.raised e),
          ⟨(driver call w.driver).2, w.journal ++ [.event (.opened call)]⟩) := by
  have asked : Act.exec (do
      let call ← Act.ofExcept (r.call s p)
      ask (.opened call) (raising driver call)) w =
        ((raising driver call w.driver).1,
          ⟨(driver call w.driver).2, w.journal ++ [.event (.opened call)]⟩) := by
    rw [Act.exec_bind, Act.exec_ofExcept, h]
    rfl
  rw [openProduct, Act.exec_bind, guarded, Act.exec_bind, Act.exec_attempt, asked]
  rcases hd : (driver call w.driver).1 with e | connection
  · rw [fst_raising_of_error hd]
    cases he : e.isDriverError
    · simp [he]
    · simp [he, Act.exec_bind, exec_log, World.note]
  · rw [fst_raising_of_ok hd]
    simp only [Act.exec_pure, Act.exec_bind, exec_log]
    simp [World.note]

/-! ## How connecting ends -/

/-- Where no known product is named, nothing is done, and for a regular request the fault is not of a
    connection. -/
theorem exec_connect_of_unknown {driver : OpenCall → Reply d α}
    (h : ∀ p : Product, r.productValue argument ≠ .text p.name) :
    ∃ f : Fault, Act.exec (connect s driver r argument) w = (.error f, w) ∧
      (r.Regular → f.isConnectionFault = false) := by
  unfold connect
  split
  · exact ⟨_, rfl, fun _ => rfl⟩
  · next name hp =>
    have unknown : Product.ofName? name = none := by
      rw [Product.ofName?, List.find?_eq_none]
      intro p _ hn
      exact h p (by rw [hp, beq_iff_eq.1 hn])
    refine ⟨.unknownProduct (String.ofList (Text.quoted name.toList)), ?_, fun _ => rfl⟩
    rw [Act.exec_bind, Act.exec_ofExcept, Product.ofName, unknown]
  · split
    · split
      · exact ⟨_, rfl, fun _ => rfl⟩
      · exact ⟨_, rfl, fun _ => rfl⟩
    · exact ⟨_, rfl, fun hr => hr.not_isConnectionFault_refuse _⟩

theorem refused_of_unknown (hr : r.Regular)
    (h : ∀ p : Product, r.productValue argument ≠ .text p.name) :
    Ending.Describes s driver r argument w
      (Act.exec (connect s (raising driver) r argument) w) .refused := by
  obtain ⟨f, ended, hf⟩ := exec_connect_of_unknown h
  exact ⟨f, hf hr, ended⟩

theorem refused_of_not_call (hr : r.Regular) (hp : r.productValue argument = .text p.name)
    (h : ∀ call, r.call s p ≠ .ok call) :
    Ending.Describes s driver r argument w
      (Act.exec (connect s (raising driver) r argument) w) .refused := by
  rw [connect_of_product hp]
  cases hc : r.call s p with
  | ok call => exact absurd hc (h call)
  | error f =>
    have hf := r.failsWith_call hr s p f hc
    exact ⟨f, hf.not_isConnectionFault, exec_openProduct_of_error hc hf⟩

/-- Whether there is a connection fault. -/
def isFailure (e : Except Fault α) : Bool :=
  match e with
  | .ok _ => false
  | .error f => f.isConnectionFault

/-- What tells the endings apart: whether there is a connection or a connection fault, and how much
    has been noted. -/
def Ending.signature : Ending → Bool × Bool × Nat
  | refused => (false, false, 0)
  | opened => (true, false, 2)
  | failed => (false, true, 2)
  | unworded => (false, false, 2)
  | passedOn => (false, false, 1)

theorem Ending.signature_of_describes {outcome : Except Fault α × World d} {ending : Ending}
    (h : ending.Describes s driver r argument w outcome) :
    ending.signature = (outcome.1.isOk, isFailure outcome.1,
      outcome.2.journal.length - w.journal.length) := by
  cases ending with
  | refused =>
    obtain ⟨f, hf, rfl⟩ := h
    simp [signature, isFailure, hf, Except.isOk, Except.toBool]
  | opened =>
    obtain ⟨_, _, -, -, rfl⟩ := h
    simp [signature, isFailure, Except.isOk, Except.toBool]
  | failed =>
    obtain ⟨_, _, _, _, -, -, -, -, rfl⟩ := h
    simp [signature, isFailure, Fault.isConnectionFault, Except.isOk, Except.toBool]
  | unworded =>
    obtain ⟨_, _, f, -, -, -, hf, rfl⟩ := h
    simp [signature, isFailure, hf.not_isConnectionFault, Except.isOk, Except.toBool]
  | passedOn =>
    obtain ⟨_, _, -, -, -, rfl⟩ := h
    simp [signature, isFailure, Fault.isConnectionFault, Except.isOk, Except.toBool]

theorem Ending.eq_of_describes {outcome : Except Fault α × World d} {ending ending' : Ending}
    (h : ending.Describes s driver r argument w outcome)
    (h' : ending'.Describes s driver r argument w outcome) : ending = ending' := by
  -- both are told by the one outcome, and no two endings have one signature
  have same := (signature_of_describes h).trans (signature_of_describes h').symm
  revert same
  cases ending <;> cases ending' <;> simp [signature]

theorem refused_of_lacks (hr : r.Regular) (h : r.Lacks argument) :
    Ending.Describes s driver r argument w
      (Act.exec (connect s (raising driver) r argument) w) .refused := by
  cases h with
  | product h => exact refused_of_unknown hr h
  | file hp h => exact refused_of_not_call hr hp fun _ => Request.call_sqlite_ne_ok h
  | server p hp hs h => exact refused_of_not_call hr hp fun _ => Request.call_ne_ok hs h
  | password hp he h => exact refused_of_not_call hr hp fun _ => Request.call_trino_ne_ok he h

section
variable {call : OpenCall} (hp : r.productValue argument = .text p.name)
  (hc : r.call s p = .ok call)
include hp hc

theorem describes_opened {connection : α} (hd : (driver call w.driver).1 = .ok connection) :
    Ending.Describes s driver r argument w
      (Act.exec (connect s (raising driver) r argument) w) .opened := by
  obtain rfl := Request.product_of_call hc
  refine ⟨call, connection, ⟨hp, hc⟩, hd, ?_⟩
  rw [connect_of_product hp, exec_openProduct_of_ok hc]
  simp only [hd]

theorem describes_failed {e : Raised} {causeText hostText : String}
    (hd : (driver call w.driver).1 = .error e) (he : e.isDriverError = true)
    (hw : Worded r.host e causeText hostText) :
    Ending.Describes s driver r argument w
      (Act.exec (connect s (raising driver) r argument) w) .failed := by
  obtain rfl := Request.product_of_call hc
  refine ⟨call, e, causeText, hostText, ⟨hp, hc⟩, hd, he, hw, ?_⟩
  rw [connect_of_product hp, exec_openProduct_of_ok hc]
  simp only [hd, he, if_true, connectionFault_of_worded hw]

theorem describes_unworded {e : Raised} {f : Fault} (hd : (driver call w.driver).1 = .error e)
    (he : e.isDriverError = true) (hf : Unworded r.host e f) :
    Ending.Describes s driver r argument w
      (Act.exec (connect s (raising driver) r argument) w) .unworded := by
  obtain rfl := Request.product_of_call hc
  refine ⟨call, e, f, ⟨hp, hc⟩, hd, he, hf, ?_⟩
  rw [connect_of_product hp, exec_openProduct_of_ok hc]
  simp only [hd, he, if_true, connectionFault_of_unworded hf]

theorem describes_passedOn {e : Raised} (hd : (driver call w.driver).1 = .error e)
    (he : e.isDriverError = false) :
    Ending.Describes s driver r argument w
      (Act.exec (connect s (raising driver) r argument) w) .passedOn := by
  obtain rfl := Request.product_of_call hc
  refine ⟨call, e, ⟨hp, hc⟩, hd, he, ?_⟩
  rw [connect_of_product hp, exec_openProduct_of_ok hc]
  simp only [hd, he, Bool.false_eq_true, if_false]

end

theorem exists_ending (hr : r.Regular) :
    ∃ ending : Ending, ending.Describes s driver r argument w
      (Act.exec (connect s (raising driver) r argument) w) := by
  by_cases hp : ∃ p : Product, r.productValue argument = .text p.name
  · obtain ⟨p, hp⟩ := hp
    by_cases hc : ∃ call, r.call s p = .ok call
    · obtain ⟨call, hc⟩ := hc
      rcases hd : (driver call w.driver).1 with e | connection
      · cases he : e.isDriverError with
        | true =>
          rcases worded_or_unworded r.host e with ⟨causeText, hostText, hw⟩ | ⟨f, hf⟩
          · exact ⟨.failed, describes_failed hp hc hd he hw⟩
          · exact ⟨.unworded, describes_unworded hp hc hd he hf⟩
        | false => exact ⟨.passedOn, describes_passedOn hp hc hd he⟩
      · exact ⟨.opened, describes_opened hp hc hd⟩
    · exact ⟨.refused, refused_of_not_call hr hp (not_exists.1 hc)⟩
  · exact ⟨.refused, refused_of_unknown hr (not_exists.1 hp)⟩

end

/-- The error of a driver that cannot read its file. -/
def unreadable : Raised :=
  ⟨⟨some "sqlite3", "OperationalError"⟩, [⟨some "sqlite3", "Error"⟩], .ok "unreadable"⟩

/-- A driver that cannot open its file. -/
def failing (_ : OpenCall) (x : Unit) : Except Raised Unit × Unit := (.error unreadable, x)

/-- A database in a file. -/
def fileSource : DataSource := ⟨.sqlite, none, 0, "d", none, "", false, []⟩

/-- A request for a database in a file, and with a host all the same. -/
def fileRequest (host : Value) : Request :=
  Request.ofFields [("product_type", .text "sqlite"), ("host", host), ("database", .text "d")]

/-- The least integer that is too long to be written. -/
def longInteger : Value := .int (Int.ofNat (Nat.pow 10 Numeral.maxDigits))

theorem textOf_int_of_le {n : Nat} (h : Nat.pow 10 Numeral.maxDigits ≤ n) :
    textOf (.int (Int.ofNat n)) = .error .integerTooLong := by
  have refused : Numeral.isWritable (Int.ofNat n) = false := by
    rw [Numeral.isWritable, decide_eq_false_iff_not, Nat.not_lt]
    exact h
  show (Value.integerText (Int.ofNat n)).map String.ofList = _
  rw [Value.integerText, refused]
  rfl

theorem isTrue_int_of_pos {n : Nat} (h : 0 < n) : (Value.int (Int.ofNat n)).isTrue = true := by
  rw [Value.isTrue, bne_iff_ne]
  exact Int.natCast_ne_zero.2 (Nat.ne_of_gt h)

end SqlWeave
