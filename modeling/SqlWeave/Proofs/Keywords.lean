/-
  The arguments by name of the driver's call.

  A driver is called with the fixed arguments of its product, with the caller's
  options, and with the defaults that no option replaces.

  * `Product.fixedNames` and `Product.defaults` are what a product has of both,
    and `Request.Passes` says that a request passes the product's checks;
  * `settle` are options with the defaults; `settle_perm` says of what they
    consist, whatever their order;
  * `call_of_passes`: every product makes its call in the same way, though each
    takes the options apart in its own;
  * `events_connect`: connecting asks the driver for such calls only;
  * `connect_keywords`: the driver is called unless an option names a fixed
    argument, and has each argument once.
-/
import Mathlib.Data.List.Nodup
import Mathlib.Data.Set.List
import SqlWeave.Proofs.Connecting
import SqlWeave.Proofs.NamedRows

namespace SqlWeave

open Act (Keeps)

variable {d α : Type}

/-! ## The arguments of a product -/

namespace Product

/-- The arguments by name that every call has, and that no option can name. -/
def fixedNames : Product → List String
  | mysql => ["host", "port", "database", "user", "password", "connect_timeout"]
  | postgres => ["host", "port", "dbname", "user", "password", "connect_timeout"]
  | trino => ["host", "port", "user", "auth", "catalog", "source", "http_scheme", "request_timeout"]
  | sqlite => ["timeout"]

/-- The arguments that a call has unless an option says otherwise. -/
def defaults : Product → List (String × Value)
  | mysql | postgres => [("autocommit", .bool true)]
  | trino => []
  | sqlite => [("isolation_level", .none)]

theorem nodup_fixedNames (p : Product) : p.fixedNames.Nodup := by cases p <;> decide

theorem nodup_defaults (p : Product) : (p.defaults.map Prod.fst).Nodup := by
  cases p <;> simp [defaults]

theorem notMem_fixedNames_of_default {p : Product} {name : String}
    (h : name ∈ p.defaults.map Prod.fst) : name ∉ p.fixedNames := by
  cases p <;> simp only [defaults, List.map_cons, List.map_nil, List.mem_singleton,
    List.not_mem_nil] at h
  all_goals
    subst h
    decide

end Product

namespace Request

/-- The request has the settings that the product needs and a password where one is needed; `port`
    is its port, and `encrypted` says whether the connection is to be encrypted. -/
structure Passes (r : Request) (p : Product) (port : Int) (encrypted : Bool) : Prop where
  database : r.database ≠ .none
  host : p ≠ .sqlite → r.host ≠ .none
  username : p ≠ .sqlite → r.username ≠ .none
  toInteger_port : p ≠ .sqlite → (r.portOr p.dialect.defaultPort).toInteger = .ok port
  isEncrypted : p = .trino → r.isEncrypted = .ok encrypted
  isSolid_secret : p = .trino → encrypted = true → isSolid r.secret = .ok true

/-- The fixed arguments of MySQL and PostgreSQL, which name the database by `databaseKey`. -/
def serverFixed (s : Settings) (databaseKey : String) (r : Request) (port : Int) :
    List (String × Argument) :=
  [("host", .value r.host), ("port", .value (.int port)), (databaseKey, .value r.database),
    ("user", .value r.username), ("password", .value r.secret),
    ("connect_timeout", .value (.int s.connectTimeout))]

/-- The arguments under `Product.fixedNames`. -/
def fixed (s : Settings) (p : Product) (r : Request) (port : Int) (encrypted : Bool) :
    List (String × Argument) :=
  match p with
  | .mysql => r.serverFixed s "database" port
  | .postgres => r.serverFixed s "dbname" port
  | .trino =>
    [("host", .value r.host), ("port", .value (.int port)), ("user", .value r.username),
      ("auth", if encrypted then .credentials r.username r.secret else .value .none),
      ("catalog", .value r.database), ("source", .value (.text "pydbal")),
      ("http_scheme", .value (.text (if encrypted then "https" else "http"))),
      ("request_timeout", .value (.int s.connectTimeout))]
  | .sqlite => [("timeout", .value (.int s.connectTimeout))]

theorem map_fst_fixed (s : Settings) (p : Product) (r : Request) (port : Int) (encrypted : Bool) :
    (r.fixed s p port encrypted).map Prod.fst = p.fixedNames := by
  cases p <;> rfl

/-- The arguments by position. -/
def positional (p : Product) (r : Request) : List Value :=
  if p = .sqlite then [r.database] else []

end Request

/-! ## Options and defaults -/

/-- Options as arguments. -/
def asArguments (options : List (String × Value)) : List (String × Argument) :=
  options.map fun e => (e.1, .value e.2)

theorem map_fst_asArguments (options : List (String × Value)) :
    (asArguments options).map Prod.fst = options.map Prod.fst := by
  simp [asArguments]

/-- The defaults, as the options have them, and the other options. -/
def settle (defaults options : List (String × Value)) : List (String × Value) :=
  (defaults.map fun e => (e.1, (options.lookup e.1).getD e.2)) ++
    options.filter fun e => e.1 ∉ defaults.map Prod.fst

section
variable {defaults options : List (String × Value)} {name : String} {v : Value}

theorem lookup_eq_some_iff_mem (h : (options.map Prod.fst).Nodup) :
    options.lookup name = some v ↔ (name, v) ∈ options := by
  induction options with
  | nil => simp
  | cons e options ih =>
    obtain ⟨n, u⟩ := e
    rw [List.map_cons, List.nodup_cons] at h
    rw [List.lookup_cons, List.mem_cons]
    by_cases hn : name = n
    · subst hn
      have other : (name, v) ∉ options := fun hv => h.1 (List.mem_map.2 ⟨_, hv, rfl⟩)
      simp [other, eq_comm]
    · rw [beq_false_of_ne hn]
      simp [ih h.2, hn]

theorem lookup_eq_none_iff_notMem : options.lookup name = none ↔ name ∉ options.map Prod.fst := by
  rw [List.lookup_eq_none_iff]
  simp only [List.mem_map, not_exists, not_and, bne_iff_ne, ne_eq]
  exact forall₂_congr fun e _ => not_congr eq_comm

theorem map_fst_settle (defaults options : List (String × Value)) :
    (settle defaults options).map Prod.fst =
      defaults.map Prod.fst ++ (options.map Prod.fst).filter (· ∉ defaults.map Prod.fst) := by
  rw [settle, List.map_append, List.map_map, List.filter_map]
  rfl

theorem mem_map_fst_settle :
    name ∈ (settle defaults options).map Prod.fst ↔
      name ∈ defaults.map Prod.fst ∨ name ∈ options.map Prod.fst := by
  rw [map_fst_settle, List.mem_append, List.mem_filter, decide_eq_true_iff]
  tauto

theorem nodup_settle (hd : (defaults.map Prod.fst).Nodup) (ho : (options.map Prod.fst).Nodup) :
    ((settle defaults options).map Prod.fst).Nodup := by
  rw [map_fst_settle, List.nodup_append']
  refine ⟨hd, ho.filter _, fun n hn hn' => ?_⟩
  rw [List.mem_filter, decide_eq_true_iff] at hn'
  exact hn'.2 hn

theorem mem_settle_iff (ho : (options.map Prod.fst).Nodup) {e : String × Value} :
    e ∈ settle defaults options ↔ (e ∈ defaults ∧ e.1 ∉ options.map Prod.fst) ∨ e ∈ options := by
  rw [settle, List.mem_append, List.mem_map, List.mem_filter, decide_eq_true_iff]
  constructor
  · rintro (⟨⟨name, v⟩, hv, rfl⟩ | ⟨he, -⟩)
    · rcases hu : options.lookup name with _ | u
      · exact .inl ⟨hv, lookup_eq_none_iff_notMem.1 hu⟩
      · exact .inr ((lookup_eq_some_iff_mem ho).1 hu)
    · exact .inr he
  · rintro (⟨he, hn⟩ | he)
    · refine .inl ⟨e, he, ?_⟩
      rw [lookup_eq_none_iff_notMem.2 hn]
      rfl
    · by_cases hn : e.1 ∈ defaults.map Prod.fst
      · obtain ⟨e', he', hn⟩ := List.mem_map.1 hn
        refine .inl ⟨e', he', ?_⟩
        rw [hn, (lookup_eq_some_iff_mem ho).2 he]
        rfl
      · exact .inr ⟨he, hn⟩

/-- Settled options are the options and the defaults that they do not name. -/
theorem settle_perm (hd : (defaults.map Prod.fst).Nodup) (ho : (options.map Prod.fst).Nodup) :
    (settle defaults options).Perm
      ((defaults.filter fun e => e.1 ∉ options.map Prod.fst) ++ options) := by
  have left : (settle defaults options).Nodup := (nodup_settle hd ho).of_map _
  have right : ((defaults.filter fun e => e.1 ∉ options.map Prod.fst) ++ options).Nodup := by
    rw [List.nodup_append']
    refine ⟨(hd.of_map _).filter _, ho.of_map _, fun e he he' => ?_⟩
    rw [List.mem_filter, decide_eq_true_iff] at he
    exact he.2 (List.mem_map.2 ⟨e, he', rfl⟩)
  refine (List.perm_ext_iff_of_nodup left right).2 fun e => ?_
  rw [mem_settle_iff ho, List.mem_append, List.mem_filter, decide_eq_true_iff]

end

/-! ## Options by name -/

section
variable {fixed : List (String × Argument)} {options taken rest : List (String × Value)}

theorem option?_named (name : String) (options : List (String × Value)) :
    option? name (Row.named options) = options.lookup name := by
  rw [option?]
  induction options with
  | nil => rfl
  | cons e options ih =>
    obtain ⟨n, v⟩ := e
    by_cases hn : name = n
    · simp [Row.named, Entries.lookup?, Value.equal_text, hn]
    · rw [Row.named] at ih
      simp [Row.named, Entries.lookup?, Value.equal_text, Ne.symm hn, ih, List.lookup_cons,
        beq_false_of_ne hn]

theorem withoutOption_named (name : String) (options : List (String × Value)) :
    withoutOption name (Row.named options) = Row.named (options.filter fun e => e.1 ∉ [name]) := by
  simp only [withoutOption, Row.named, List.filter_map, Function.comp_def, Value.equal_text]
  exact congrArg _ (List.filter_congr fun e _ => by simp [beq_eq_decide])

/-- Options are added to the arguments if none is there already. -/
theorem addKeywords_named (fixed : List (String × Argument)) (options : List (String × Value)) :
    addKeywords fixed (Row.named options) =
      match options.find? fun e => e.1 ∈ fixed.map Prod.fst with
      | some e => .error (.repeatedKeyword e.1)
      | none => .ok (fixed ++ asArguments options) := by
  have there : (fun e : String × Value => fixed.any (·.1 == e.1)) =
      fun e => decide (e.1 ∈ fixed.map Prod.fst) := by
    funext e
    rw [Bool.eq_iff_iff, decide_eq_true_iff, List.any_eq_true, List.mem_map]
    simp only [beq_iff_eq]
  have added : (options.mapM fun e => (.ok (e.1, .value e.2) : Except Fault (String × Argument))) =
      .ok (asArguments options) := List.mapM_pure
  simp only [addKeywords, Row.named, List.map_map, List.find?_map, List.mapM_map, Function.comp_def,
    Option.any_some, there, added]
  cases options.find? fun e => e.1 ∈ fixed.map Prod.fst <;> rfl

theorem exists_named {options : List (Value × Value)} (h : ∀ e ∈ options, ∃ name, e.1 = .text name) :
    ∃ named, options = Row.named named := by
  have each : options ∈ Set.range (List.map fun e : String × Value => (Value.text e.1, e.2)) := by
    rw [Set.range_list_map]
    rintro ⟨k, v⟩ he
    obtain ⟨name, rfl⟩ := h _ he
    exact ⟨(name, v), rfl⟩
  obtain ⟨named, rfl⟩ := each
  exact ⟨named, rfl⟩

/-- Options are added only if all their names are texts and none is there already. -/
theorem addKeywords_eq_ok_iff {options : List (Value × Value)}
    {keywords : List (String × Argument)} :
    addKeywords fixed options = .ok keywords ↔
      ∃ named, options = Row.named named ∧ (∀ e ∈ named, e.1 ∉ fixed.map Prod.fst) ∧
        keywords = fixed ++ asArguments named := by
  constructor
  · intro h
    have texts : ∃ named, options = Row.named named := by
      unfold addKeywords at h
      simp only at h
      split at h
      · cases h
      · obtain ⟨added, ha, -⟩ := bind_eq_ok_iff.1 h
        refine exists_named fun e he => ?_
        obtain ⟨argument, hg⟩ := exists_of_mapM_eq_ok ha e he
        split at hg
        · next name hk => exact ⟨name, hk⟩
        · cases hg
    obtain ⟨named, rfl⟩ := texts
    rw [addKeywords_named] at h
    split at h
    · cases h
    · next free =>
      cases h
      exact ⟨named, rfl, by simpa only [List.find?_eq_none, decide_eq_true_iff] using free, rfl⟩
  · rintro ⟨named, rfl, free, rfl⟩
    have none : (named.find? fun e => e.1 ∈ fixed.map Prod.fst) = none :=
      List.find?_eq_none.2 fun e he => by simpa only [decide_eq_true_iff] using free e he
    rw [addKeywords_named, none]

/-- An option that a call takes out and passes on itself is as good as one that it leaves. -/
theorem addKeywords_append (ht : ∀ e ∈ taken, e.1 ∉ fixed.map Prod.fst)
    (hr : ∀ e ∈ rest, e.1 ∉ taken.map Prod.fst) :
    addKeywords (fixed ++ asArguments taken) (Row.named rest) =
      addKeywords fixed (Row.named (taken ++ rest)) := by
  have found : (rest.find? fun e => e.1 ∈ (fixed ++ asArguments taken).map Prod.fst) =
      (taken ++ rest).find? fun e => e.1 ∈ fixed.map Prod.fst := by
    have none : (taken.find? fun e => e.1 ∈ fixed.map Prod.fst) = none :=
      List.find?_eq_none.2 fun e he => by simpa only [decide_eq_true_iff] using ht e he
    rw [List.find?_append, none, Option.none_or]
    rw [← List.head?_filter, ← List.head?_filter]
    refine congrArg _ (List.filter_congr fun e he => ?_)
    simp only [List.map_append, map_fst_asArguments, List.mem_append, hr e he, or_false]
  rw [addKeywords_named, addKeywords_named, found]
  cases (taken ++ rest).find? fun e => e.1 ∈ fixed.map Prod.fst <;> simp [asArguments]

end

/-! ## The call -/

namespace Request

variable {r : Request} {s : Settings} {p : Product} {port : Int} {encrypted : Bool}
  {options : List (String × Value)}

theorem require_of_ne {name : String} {v : Value} (h : v ≠ .none) : require name v = .ok () := by
  unfold require
  split
  · exact absurd rfl h
  · rfl

theorem Passes.requireServer_eq (h : r.Passes p port encrypted) (hp : p ≠ .sqlite) :
    r.requireServer = .ok () := by
  rw [requireServer, require_of_ne (h.host hp), ok_bind, require_of_ne h.database, ok_bind,
    require_of_ne (h.username hp)]

/-- MySQL and PostgreSQL take their default out of the options, and pass it on before them. -/
theorem serverCall_of_passes {databaseKey : String} (h : r.Passes p port encrypted)
    (hp : p ≠ .sqlite) (hk : databaseKey ≠ "autocommit") :
    serverCall p databaseKey s r (Row.named options) =
      (addKeywords (r.serverFixed s databaseKey port)
        (Row.named (settle [("autocommit", .bool true)] options))).map fun keywords =>
          ⟨p, [], keywords⟩ := by
  have fixed : ∀ e ∈ [("autocommit", (options.lookup "autocommit").getD (.bool true))],
      e.1 ∉ (r.serverFixed s databaseKey port).map Prod.fst := by
    simp [serverFixed, Ne.symm hk]
  have others : ∀ e ∈ options.filter fun e => e.1 ∉ ["autocommit"], e.1 ∉ ["autocommit"] :=
    fun e he => by simpa using (List.mem_filter.1 he).2
  have moved := addKeywords_append fixed others
  rw [serverCall, h.toInteger_port hp, ok_bind, option?_named, withoutOption_named]
  exact congrArg (Except.map _) moved

theorem trinoCall_of_passes (h : r.Passes .trino port encrypted) :
    trinoCall s r (Row.named options) =
      (addKeywords (r.fixed s .trino port encrypted) (Row.named options)).map fun keywords =>
        ⟨.trino, [], keywords⟩ := by
  rw [trinoCall, h.isEncrypted rfl, ok_bind, h.toInteger_port (by decide)]
  cases encrypted with
  | false => rfl
  | true =>
    rw [h.isSolid_secret rfl rfl]
    rfl

/-- The call has the fixed arguments, and further ones for the settled options. -/
theorem call_of_passes (h : r.Passes p port encrypted)
    (ho : mappingOf r.options = .ok (Row.named options)) :
    r.call s p =
      (addKeywords (r.fixed s p port encrypted) (Row.named (settle p.defaults options))).map
        fun keywords => ⟨p, r.positional p, keywords⟩ := by
  rw [call, ho, ok_bind]
  by_cases hp : p = .sqlite
  · subst hp
    rw [if_pos rfl, sqliteCall, require_of_ne h.database, ok_bind, option?_named,
      withoutOption_named]
    rfl
  · rw [if_neg hp, h.requireServer_eq hp, ok_bind, positional, if_neg hp]
    cases p with
    | sqlite => exact absurd rfl hp
    | mysql => exact serverCall_of_passes h hp (by decide)
    | postgres => exact serverCall_of_passes h hp (by decide)
    | trino =>
      have settled : settle (Product.defaults .trino) options = options := by
        simp [settle, Product.defaults]
      rw [settled]
      exact trinoCall_of_passes h

end Request

/-! ## What the driver is asked -/

namespace World

/-- Nothing more is asked of the driver. -/
def SameEvents (w w' : World d) : Prop := w'.events = w.events

instance : IsPreorder (World d) SameEvents where
  refl _ := rfl
  trans _ _ _ h h' := h'.trans h

end World

open World (SameEvents)

theorem keeps_events_log (level : Level) (message : Except Fault String) :
    Keeps SameEvents (log level message : Act (World d) Unit) :=
  fun w => World.events_note_log ⟨level, message⟩ w

section
variable {s : Settings} {driver : OpenCall → Reply d α} {r : Request} {p : Product}

/-- What is done about a driver's error asks nothing of the driver. -/
theorem events_guarded (p : Product) (host : Value) (a : Act (World d) α) (w : World d) :
    (Act.exec (guarded p host a) w).2.events = (Act.exec a w).2.events := by
  refine Keeps.after (R := SameEvents) (fun outcome => ?_) (Act.attempt a) w
  split
  · exact Keeps.pure _
  · split
    · exact (keeps_events_log _ _).bind fun _ => Keeps.throw _
    · exact Keeps.throw _
  · exact Keeps.throw _

/-- Whatever the driver answers, it is asked once if there is a call, and else not at all. -/
theorem events_openProduct (w : World d) :
    (Act.exec (openProduct s driver p r) w).2.events =
      w.events ++ (r.call s p).toOption.toList.map .opened := by
  have asked : (Act.exec (do
      let call ← Act.ofExcept (r.call s p)
      ask (.opened call) (driver call)) w).2.events =
        w.events ++ (r.call s p).toOption.toList.map .opened := by
    rw [Act.exec_bind, Act.exec_ofExcept]
    cases r.call s p with
    | error f => exact (List.append_nil _).symm
    | ok call => exact World.events_note_event _ _
  rw [← asked, openProduct]
  refine (Keeps.after (R := SameEvents) (fun _ => ?_) _ _).trans (events_guarded p r.host _ w)
  exact (keeps_events_log _ _).bind fun _ => Keeps.pure _

theorem events_openProduct_of_ok {call : OpenCall} (h : r.call s p = .ok call) (w : World d) :
    (Act.exec (openProduct s driver p r) w).2.events = w.events ++ [.opened call] := by
  rw [events_openProduct, h]
  rfl

/-- All that connecting asks of the driver are calls that the request makes. -/
theorem events_connect (s : Settings) (driver : OpenCall → Reply d α) (r : Request)
    (argument : Value) (w : World d) :
    ∃ made : List OpenCall,
      (Act.exec (connect s driver r argument) w).2.events = w.events ++ made.map .opened ∧
        ∀ call ∈ made, r.Makes s argument call := by
  by_cases known : ∃ p : Product, r.productValue argument = .text p.name
  · obtain ⟨p, hp⟩ := known
    refine ⟨_, by rw [connect_of_product hp, events_openProduct], fun call hc => ?_⟩
    have made : r.call s p = .ok call := toOption_eq_some_iff.1 (Option.mem_toList.1 hc)
    obtain rfl := Request.product_of_call made
    exact ⟨hp, made⟩
  · obtain ⟨f, ended, -⟩ : ∃ f, Act.exec (connect s driver r argument) w = (.error f, w) ∧ _ :=
      exec_connect_of_unknown (not_exists.1 known)
    exact ⟨[], by rw [ended, List.map_nil, List.append_nil], nofun⟩

end

/-- The arguments by name that the driver is to have: the fixed ones, the defaults that no option
    names, and the options. -/
def Request.arguments (s : Settings) (p : Product) (r : Request) (port : Int) (encrypted : Bool)
    (options : List (String × Value)) : List (String × Argument) :=
  r.fixed s p port encrypted ++
    asArguments ((p.defaults.filter fun e => e.1 ∉ options.map Prod.fst) ++ options)

section
variable {r : Request} {argument : Value} {p : Product} {port : Int} {encrypted : Bool}
  {options : List (String × Value)}

/-- **Options as arguments.**  Let a request pass the checks of its product, with options of distinct
    names.  If none of them names a fixed argument, the driver is called, once, with the fixed
    arguments, the defaults that the options do not name and all options, each name once.  Otherwise
    the request fails for such a name, and the driver is not called. -/
theorem connect_keywords (s : Settings) (driver : OpenCall → d → Except Raised α × d) (w : World d)
    (hp : r.productValue argument = .text p.name)
    (hr : r.Passes p port encrypted)
    (ho : mappingOf r.options = .ok (options.map fun e => (.text e.1, e.2)))
    (hd : (options.map Prod.fst).Nodup) :
    ((∀ name ∈ options.map Prod.fst, name ∉ p.fixedNames) →
        ∃ call : OpenCall,
          (Act.exec (connect s (raising driver) r argument) w).2.events =
            w.events ++ [.opened call] ∧
          call.product = p ∧ call.positional = r.positional p ∧
          call.keywords.Perm (r.arguments s p port encrypted options) ∧
          (call.keywords.map Prod.fst).Nodup) ∧
      (∀ name ∈ options.map Prod.fst, name ∈ p.fixedNames →
        ∃ repeated ∈ options.map Prod.fst, repeated ∈ p.fixedNames ∧
          Act.exec (connect s (raising driver) r argument) w =
            (.error (.repeatedKeyword repeated), w)) := by
  rw [connect_of_product hp]
  have made := Request.call_of_passes (s := s) hr ho
  have names := Request.map_fst_fixed s p r port encrypted
  rw [addKeywords_named, names] at made
  have ofOption : ∀ name ∈ (settle p.defaults options).map Prod.fst, name ∈ p.fixedNames →
      name ∈ options.map Prod.fst := fun name hn hf =>
    (mem_map_fst_settle.1 hn).resolve_left fun h => Product.notMem_fixedNames_of_default h hf
  constructor
  · intro free
    have none : ((settle p.defaults options).find? fun e => e.1 ∈ p.fixedNames) = none := by
      refine List.find?_eq_none.2 fun e he hf => ?_
      have hn := List.mem_map_of_mem (f := Prod.fst) he
      rw [decide_eq_true_iff] at hf
      exact free e.1 (ofOption e.1 hn hf) hf
    rw [none] at made
    refine ⟨_, events_openProduct_of_ok made w, rfl, rfl, ?_, ?_⟩
    · exact ((settle_perm p.nodup_defaults hd).map _).append_left _
    · rw [List.map_append, map_fst_asArguments, names, List.nodup_append']
      refine ⟨p.nodup_fixedNames, nodup_settle p.nodup_defaults hd, fun n hf hn => ?_⟩
      exact free n (ofOption n hn hf) hf
  · intro name hn hf
    cases he : (settle p.defaults options).find? fun e => e.1 ∈ p.fixedNames with
    | none =>
      obtain ⟨e, he', rfl⟩ := List.mem_map.1 (mem_map_fst_settle.2 (.inr hn))
      exact absurd (decide_eq_true hf) (List.find?_eq_none.1 he e he')
    | some e =>
      rw [he] at made
      have hf' : e.1 ∈ p.fixedNames := by simpa using List.find?_some he
      have hn' := List.mem_map_of_mem (f := Prod.fst) (List.mem_of_find?_eq_some he)
      exact ⟨e.1, ofOption e.1 hn' hf', hf', exec_openProduct_of_error made trivial⟩

/-- A source on a server. -/
def serverSource (options : List (String × Value)) : DataSource :=
  ⟨.mysql, some "h", 3307, "d", some "u", "pw", false, options⟩

/-- An option replaces a default, another one is added, and a fixed argument cannot be named. -/
theorem connect_keywords_mysql :
    let given : List (String × Value) := [("charset", .text "utf8"), ("autocommit", .bool false)]
    let r := (serverSource given).toRequest
    let r' := (serverSource [("port", .int 1)]).toRequest
    r.productValue .none = .text Product.mysql.name ∧ r.Passes .mysql 3307 false ∧
      mappingOf r.options = .ok (given.map fun e => (.text e.1, e.2)) ∧
      (given.map Prod.fst).Nodup ∧
      (∃ call : OpenCall,
        (Act.exec (connect .default (raising failing) r .none) ⟨(), []⟩).2.events = [.opened call] ∧
          call.keywords.Perm [("host", .value (.text "h")), ("port", .value (.int 3307)),
            ("database", .value (.text "d")), ("user", .value (.text "u")),
            ("password", .value (.text "pw")), ("connect_timeout", .value (.int 10)),
            ("charset", .value (.text "utf8")), ("autocommit", .value (.bool false))]) ∧
      Act.exec (connect .default (raising failing) r' .none) ⟨(), []⟩ =
        (.error (.repeatedKeyword "port"), ⟨(), []⟩) := by
  intro given r r'
  have product : ∀ options, (serverSource options).toRequest.productValue .none =
    .text Product.mysql.name := fun _ => rfl
  have passes : ∀ options, (serverSource options).toRequest.Passes .mysql 3307 false := fun _ =>
    ⟨nofun, nofun, nofun, fun _ => rfl, nofun, nofun⟩
  have mapping : ∀ options, mappingOf (serverSource options).toRequest.options =
    .ok (options.map fun e => (.text e.1, e.2)) := fun _ => mappingOf_of_entries rfl
  have distinct : (given.map Prod.fst).Nodup := by decide
  refine ⟨product _, passes _, mapping _, distinct, ?_, ?_⟩
  · obtain ⟨call, events, -, -, keywords, -⟩ :=
      (connect_keywords .default failing ⟨(), []⟩ (product given) (passes _) (mapping _)
        distinct).1 (by decide)
    exact ⟨call, events, keywords⟩
  · obtain ⟨repeated, hn, -, ended⟩ :=
      (connect_keywords .default failing ⟨(), []⟩ (product [("port", .int 1)]) (passes _)
        (mapping _) (by decide)).2 "port" (by decide) (by decide)
    obtain rfl : repeated = "port" := by simpa using hn
    exact ended

end

end SqlWeave
