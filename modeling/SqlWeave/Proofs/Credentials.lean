/-
  The credentials in calls for Trino.

  Over an encrypted connection the driver is given the user's name and password,
  over a plain one neither is sent as a credential.  The choice is the request's
  flag alone: the options are spread behind the arguments that carry it, and
  cannot name them.

  * `OpenCall.under` are the arguments of a call under a name; of those under a
    fixed name, no option is one (`filter_append_asArguments`);
  * `OpenCall.SendsCredentials` and `OpenCall.IsPlain` are the two kinds of call;
  * `trinoCall_eq_ok`: what the request has been found to be if there is a call;
  * `connect_of_not_encrypted`: without encryption the password is not read;
  * `connect_credentials`: every call for Trino is of the kind that its request
    asks for.
-/
import SqlWeave.Proofs.CheckedRequest
import SqlWeave.Proofs.Keywords

namespace SqlWeave

variable {d α : Type}

/-! ## The two kinds of call -/

namespace OpenCall

/-- The arguments under a name. -/
def under (name : String) (call : OpenCall) : List Argument :=
  (call.keywords.filter fun e => e.1 = name).map Prod.snd

/-- The connection is encrypted, and authenticated by the request's username and its password, which
    is not blank. -/
structure SendsCredentials (call : OpenCall) (r : Request) : Prop where
  scheme : call.under "http_scheme" = [.value (.text "https")]
  auth : call.under "auth" = [.credentials r.username r.password]
  solid : ¬r.password.IsBlank

/-- The connection is neither encrypted nor authenticated. -/
structure IsPlain (call : OpenCall) : Prop where
  scheme : call.under "http_scheme" = [.value (.text "http")]
  auth : call.under "auth" = [.value .none]

end OpenCall

/-- Options whose names are others leave the arguments under a name as they are. -/
theorem filter_append_asArguments {fixed : List (String × Argument)}
    {named : List (String × Value)} {name : String} (hn : name ∈ fixed.map Prod.fst)
    (free : ∀ e ∈ named, e.1 ∉ fixed.map Prod.fst) :
    (fixed ++ asArguments named).filter (fun e => e.1 = name) =
      fixed.filter fun e => e.1 = name := by
  have none : (asArguments named).filter (fun e => e.1 = name) = [] := by
    rw [List.filter_eq_nil_iff]
    intro e he
    obtain ⟨option, ho, rfl⟩ := List.mem_map.1 he
    rw [decide_eq_true_iff]
    rintro rfl
    exact free option ho hn
  rw [List.filter_append, none, List.append_nil]

/-! ## What a call says of its request -/

namespace Request

variable {s : Settings} {r : Request} {options : List (Value × Value)} {call : OpenCall}

/-- A solid password is there, and is not blank. -/
theorem secret_of_isSolid (h : isSolid r.secret = .ok true) :
    r.secret = r.password ∧ ¬r.password.IsBlank := by
  have solid : ¬r.password.IsBlank := fun blank => by
    cases h.symm.trans (isSolid_of_isBlank (isBlank_secret blank))
  refine ⟨?_, solid⟩
  unfold secret
  split
  · next hp =>
    rw [hp] at solid
    exact absurd rfl solid
  · rfl

/-- A call over a port has its own arguments, and options of other names. -/
theorem remoteCall_eq_ok {p : Product} {keywords : Int → List (String × Argument)}
    (h : remoteCall p r keywords options = .ok call) :
    ∃ port named, (∀ e ∈ named, e.1 ∉ (keywords port).map Prod.fst) ∧
      call = ⟨p, [], keywords port ++ asArguments named⟩ := by
  obtain ⟨port, -, h⟩ := bind_eq_ok_iff.1 h
  obtain ⟨_, hk, h⟩ := bind_eq_ok_iff.1 h
  obtain ⟨named, -, free, rfl⟩ := addKeywords_eq_ok_iff.1 hk
  cases h
  exact ⟨port, named, free, rfl⟩

/-- A call for Trino has the fixed arguments, and a solid password if it is to be encrypted. -/
theorem trinoCall_eq_ok (h : trinoCall s r options = .ok call) :
    ∃ encrypted, r.isEncrypted = .ok encrypted ∧
      (encrypted = true → isSolid r.secret = .ok true) ∧
      remoteCall .trino r (r.fixed s .trino · encrypted) options = .ok call := by
  obtain ⟨encrypted, he, h⟩ := bind_eq_ok_iff.1 h
  cases encrypted with
  | false => exact ⟨false, he, nofun, h⟩
  | true =>
    obtain ⟨solid, hs, h⟩ := bind_eq_ok_iff.1 h
    cases solid with
    | false => cases h
    | true => exact ⟨true, he, fun _ => hs, h⟩

theorem trinoCall_of_call (h : r.call s .trino = .ok call) :
    ∃ options, trinoCall s r options = .ok call := by
  obtain ⟨options, -, h⟩ := bind_eq_ok_iff.1 h
  obtain ⟨_, -, h⟩ := bind_eq_ok_iff.1 h
  exact ⟨options, h⟩

/-- A call for Trino is of the kind that its request asks for. -/
theorem kind_of_call (h : r.call s .trino = .ok call) :
    r.isEncrypted = .ok true ∧ call.SendsCredentials r ∨
      r.isEncrypted = .ok false ∧ call.IsPlain := by
  obtain ⟨options, h⟩ := trinoCall_of_call h
  obtain ⟨encrypted, he, solid, h⟩ := trinoCall_eq_ok h
  obtain ⟨port, named, free, rfl⟩ := remoteCall_eq_ok h
  have under : ∀ name ∈ Product.fixedNames .trino,
      OpenCall.under name ⟨.trino, [], r.fixed s .trino port encrypted ++ asArguments named⟩ =
        ((r.fixed s .trino port encrypted).filter fun e => e.1 = name).map Prod.snd := by
    intro name hn
    rw [← map_fst_fixed s .trino r port encrypted] at hn
    rw [OpenCall.under, filter_append_asArguments hn free]
  have scheme := under "http_scheme" (by decide)
  have auth := under "auth" (by decide)
  cases encrypted with
  | false => exact .inr ⟨he, scheme, auth⟩
  | true =>
    obtain ⟨hs, solid⟩ := secret_of_isSolid (solid rfl)
    refine .inl ⟨he, scheme, ?_, solid⟩
    rw [← hs]
    exact auth

/-! ## The password of a plain connection -/

theorem call_of_not_encrypted (he : r.isEncrypted = .ok false) (s : Settings) (password : Value) :
    ({ r with password := password } : Request).call s .trino = r.call s .trino := by
  have he' : ({ r with password := password } : Request).isEncrypted = .ok false := he
  have same : ∀ options,
      trinoCall s { r with password := password } options = trinoCall s r options := fun options => by
    rw [trinoCall, trinoCall, he, he']
    rfl
  simp only [call, same]
  rfl

end Request

/-- Connecting to Trino without encryption does the same for any password. -/
theorem connect_of_not_encrypted {r : Request} {argument : Value}
    (hp : r.productValue argument = .text Product.trino.name) (he : r.isEncrypted = .ok false)
    (s : Settings) (driver : OpenCall → Reply d α) (password : Value) :
    connect s driver { r with password := password } argument = connect s driver r argument := by
  have hp' : ({ r with password := password } : Request).productValue argument =
    .text Product.trino.name := hp
  rw [connect_of_product hp, connect_of_product hp', openProduct, openProduct,
    Request.call_of_not_encrypted he]
  rfl

/-! ## Every call -/

/-- **Credentials go over encrypted connections only.**  Every call for Trino that connecting makes,
    whatever the request and its options, is of one of two kinds.  If the request asks for encryption,
    the call has the scheme `https` and authenticates by the request's username and password, which
    is not blank.  If it does not, the call has the scheme `http` and no authentication, and
    connecting with another password does the same and ends in the same way. -/
theorem connect_credentials (s : Settings) (driver : OpenCall → Reply d α) (r : Request)
    (argument : Value) (w : World d) :
    ∃ made : List OpenCall,
      (Act.exec (connect s driver r argument) w).2.events = w.events ++ made.map .opened ∧
      ∀ call ∈ made, call.product = .trino →
        r.isEncrypted = .ok true ∧ call.SendsCredentials r ∨
          r.isEncrypted = .ok false ∧ call.IsPlain ∧
            ∀ password, Act.exec (connect s driver { r with password := password } argument) w =
              Act.exec (connect s driver r argument) w := by
  obtain ⟨made, events, each⟩ := events_connect s driver r argument w
  refine ⟨made, events, fun call hc trino => ?_⟩
  obtain ⟨hp, hcall⟩ := each call hc
  rw [trino] at hp hcall
  rcases Request.kind_of_call hcall with sends | ⟨he, plain⟩
  · exact .inl sends
  · refine .inr ⟨he, plain, fun password => ?_⟩
    rw [connect_of_not_encrypted hp he]

/-- With the word `true` the password is sent as a credential, with the word `yes` no password is. -/
theorem connect_credentials_words :
    let r := Request.ofFields (trinoRecord "true")
    let r' := Request.ofFields (trinoRecord "yes")
    (∃ call : OpenCall, call.product = .trino ∧ call.SendsCredentials r ∧
        (Act.exec (connect .default willing r .none) ⟨(), []⟩).2.events = [.opened call]) ∧
      ∃ call : OpenCall, call.product = .trino ∧ call.IsPlain ∧
        (Act.exec (connect .default willing r' .none) ⟨(), []⟩).2.events = [.opened call] ∧
        ∀ password, Act.exec (connect .default willing { r' with password := password } .none)
          ⟨(), []⟩ = Act.exec (connect .default willing r' .none) ⟨(), []⟩ := by
  intro r r'
  let call := trinoOpening (.credentials (.text "u") (.text "pw")) "https"
  let call' := trinoOpening (.value .none) "http"
  have opened : (Act.exec (connect .default willing r .none) ⟨(), []⟩).2.events =
    [.opened call] := by rfl
  have opened' : (Act.exec (connect .default willing r' .none) ⟨(), []⟩).2.events =
    [.opened call'] := by rfl
  have yes : r.isEncrypted = .ok true := by rfl
  have no : r'.isEncrypted = .ok false := by rfl
  have alone : ∀ {made : List OpenCall} {call : OpenCall},
      [Event.opened call] = made.map .opened → call ∈ made := fun {made call} h => by
    have there : Event.opened call ∈ made.map .opened := h ▸ List.mem_singleton_self _
    simpa using there
  constructor
  · obtain ⟨made, events, kinds⟩ := connect_credentials .default willing r .none ⟨(), []⟩
    rcases kinds call (alone (opened.symm.trans events)) rfl with ⟨-, sends⟩ | ⟨he, -⟩
    · exact ⟨call, rfl, sends, opened⟩
    · cases yes.symm.trans he
  · obtain ⟨made, events, kinds⟩ := connect_credentials .default willing r' .none ⟨(), []⟩
    rcases kinds call' (alone (opened'.symm.trans events)) rfl with ⟨he, -⟩ | ⟨-, plain, same⟩
    · cases no.symm.trans he
    · exact ⟨call', rfl, plain, opened', same⟩

end SqlWeave
