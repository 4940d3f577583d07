import Diego.Numeral
import Diego.SSH.PermissionsBuilder

/-!
# Password authentication of the SSH proxy

`diego-ssh/authenticators/cf_authenticator.go`.  A user name `cf:<app guid>/<index>` names an
instance of an app.  The password is exchanged for a token at the UAA, and with the token the
Cloud Controller is asked whether the user may reach the instance.

The UAA and the Cloud Controller are arbitrary functions of what they are sent, and a response is
its status with what its body decodes to.  The token is only parsed for the log, and the error of
the parser is dropped: a nil token, or one without claims, makes the next line panic.
-/

namespace Diego.SSH

open Diego.Models List
open Diego.Executor (GoString bytes)

/-! ## User names -/

def isHexDigit (c : UInt8) : Bool :=
  Numeral.isDigit c || (65 ≤ c.toNat && c.toNat ≤ 70) || (97 ≤ c.toNat && c.toNat ≤ 102)

/-- Groups of 8, 4, 4, 4 and 12 hexadecimal digits with dashes between them. -/
def isGuid (text : GoString) : Bool :=
  let groups := text.splitOn 45
  groups.map List.length = [8, 4, 4, 4, 12] && groups.all fun group => group.all isHexDigit

/-- `CFUserRegex` at the start of a text: the app guid and the index. -/
def matchUserHere (text : GoString) : Option (GoString × GoString) :=
  let appGuid := (text.drop 3).take 36
  let index := (text.drop 40).takeWhile Numeral.isDigit
  if (bytes "cf:").isPrefixOf text && isGuid appGuid && (text.drop 39).head? = some 47 && index ≠ []
  then some (appGuid, index)
  else none

/-- `CFUserRegex.FindStringSubmatch`: the leftmost match, anywhere in the text. -/
def findUserSubmatch : GoString → Option (GoString × GoString)
  | [] => none
  | c :: text =>
    match matchUserHere (c :: text) with
    | some guidAndIndex => some guidAndIndex
    | none => findUserSubmatch text

/-- `strconv.Atoi`, for an `int` of 64 bits. -/
def atoi (text : GoString) : Option Int :=
  (Numeral.parseInt text).filter fun n => -2 ^ 63 ≤ n && n < 2 ^ 63

/-! ## Requests and responses -/

structure UAAAuthTokenResponse where
  accessToken : GoString
  tokenType : GoString

structure AppSSHResponse where
  processGuid : String

/-- A response, with what the JSON decoder makes of its body. -/
structure Response (α : Type) where
  statusCode : Nat
  body : Option α

/-- A request for `ssh_access`, with its authorization header. -/
structure AccessRequest where
  path : GoString
  authorization : GoString
  deriving DecidableEq

/-- A claim of a token: a string or another JSON value. -/
inductive Claim
  | string (value : GoString)
  | other

/-- A `jwt.Token` whose claims may be nil. -/
structure Token where
  claims : Option (GoMap String Claim)

structure CFAuthenticator where
  ccURL : GoString
  newTokenRequest : Option Error
  /-- The response of the UAA to a password, or none if the request fails. -/
  uaa : GoString → Option (Response UAAAuthTokenResponse)
  /-- `http.NewRequest` accepts the path. -/
  validPath : GoString → Bool
  cc : AccessRequest → Except Error (Response AppSSHResponse)
  /-- `jwt.Parse` without its error.  The token may be nil. -/
  parse : GoString → Option Token
  permissionsBuilder : String → Int → String → Built

/-- What `Authenticate` returns, if it does. -/
inductive Result
  | panicked
  | returned (result : Except Error Permissions)

/-- The data of the logger. -/
structure LogData where
  app : GoString
  principal : GoString
  username : GoString

/-- What `Authenticate` asks the Cloud Controller and the BBS, and how it ends. -/
structure Authentication where
  logData : Option LogData
  accessRequest : Option AccessRequest
  lookup : Option ActualLRPFilter
  result : Result

/-- A claim of a token. -/
def stringClaim (claims : GoMap String Claim) (name : String) : GoString :=
  match claims.lookup name with
  | some (.string value) => value
  | _ => bytes "unknown"

/-- What `Authenticate` knows once it has a token. -/
structure Credentials where
  appGuid : GoString
  index : Int
  cred : GoString
  tokenString : GoString

namespace CFAuthenticator

variable (cfa : CFAuthenticator)

def exchangeAccessCodeForToken (code : GoString) : Except Error GoString :=
  match cfa.newTokenRequest with
  | some err => .error err
  | none =>
    match cfa.uaa code with
    | none => .error .authenticationFailed
    | some resp =>
      if resp.statusCode ≠ 200 then .error .authenticationFailed
      else
        match resp.body with
        | none => .error .authenticationFailed
        | some tokenResponse => .ok (tokenResponse.tokenType ++ 32 :: tokenResponse.accessToken)

def accessPath (appGuid : GoString) (index : Int) : GoString :=
  cfa.ccURL ++ bytes "/internal/apps/" ++ appGuid ++ bytes "/ssh_access/" ++ Numeral.formatInt index

/-- `checkAccess`: the request, if it is sent, and the process guid. -/
def checkAccess (appGuid : GoString) (index : Int) (token : GoString) :
    Option AccessRequest × Except Error String :=
  let path := cfa.accessPath appGuid index
  if cfa.validPath path then
    let req : AccessRequest := ⟨path, token⟩
    (some req,
      match cfa.cc req with
      | .error err => .error err
      | .ok resp =>
        if resp.statusCode ≠ 200 then .error .fetchAppFailed
        else
          match resp.body with
          | none => .error .invalidCCResponse
          | some app => .ok app.processGuid)
  else (none, .error .invalidRequest)

/-- `Authenticate` up to the parsing of the token. -/
def credentials (user password : GoString) : Except Error Credentials :=
  match findUserSubmatch user with
  | none => .error .invalidCredentials
  | some (appGuid, indexString) =>
    match atoi indexString with
    | none => .error .invalidCredentials
    | some index =>
      match cfa.exchangeAccessCodeForToken password with
      | .error err => .error err
      | .ok cred =>
        match cred.splitOn 32 with
        | [_, tokenString] => .ok ⟨appGuid, index, cred, tokenString⟩
        | _ => .error .authenticationFailed

/-- The rest of `Authenticate`. -/
def authorize (c : Credentials) (claims : GoMap String Claim) (remoteAddr : String) :
    Authentication :=
  let logData : LogData := ⟨c.appGuid ++ 47 :: Numeral.formatInt c.index,
    stringClaim claims "user_id", stringClaim claims "user_name"⟩
  match cfa.checkAccess c.appGuid c.index c.cred with
  | (req, .error err) => ⟨some logData, req, none, .returned (.error err)⟩
  | (req, .ok processGuid) =>
    let built := cfa.permissionsBuilder processGuid c.index remoteAddr
    ⟨some logData, req, some built.lookup, .returned built.result⟩

def authenticate (user password : GoString) (remoteAddr : String) : Authentication :=
  match cfa.credentials user password with
  | .error err => ⟨none, none, none, .returned (.error err)⟩
  | .ok c =>
    match cfa.parse c.tokenString with
    -- the claims of a nil token
    | none => ⟨none, none, none, .panicked⟩
    | some token =>
      match token.claims with
      -- the type assertion of a nil interface
      | none => ⟨none, none, none, .panicked⟩
      | some claims => cfa.authorize c claims remoteAddr

end CFAuthenticator

/-! ## The index -/

variable {text appGuid indexString : GoString} {index : Int} {a : UInt8}

theorem matchUserHere_spec (h : matchUserHere text = some (appGuid, indexString)) :
    isGuid appGuid = true ∧ ∀ c ∈ indexString, Numeral.isDigit c = true := by
  unfold matchUserHere at h
  dsimp only at h
  split at h
  · rename_i hmatch
    obtain ⟨rfl, rfl⟩ := Prod.mk.inj (Option.some.inj h)
    simp only [Bool.and_eq_true] at hmatch
    exact ⟨hmatch.1.1.2, fun c hc => all_eq_true.mp all_takeWhile c hc⟩
  · exact nomatch h

theorem findUserSubmatch_spec {user : GoString}
    (h : findUserSubmatch user = some (appGuid, indexString)) :
    isGuid appGuid = true ∧ ∀ c ∈ indexString, Numeral.isDigit c = true := by
  induction user with
  | nil => exact nomatch h
  | cons c text ih =>
    rw [findUserSubmatch] at h
    split at h
    · rename_i guidAndIndex hmatch
      cases h
      exact matchUserHere_spec hmatch
    · exact ih h

/-- The index of a user name is not negative and fits into 64 bits. -/
theorem atoi_bounds (hdigits : ∀ c ∈ text, Numeral.isDigit c = true) (h : atoi text = some index) :
    0 ≤ index ∧ index < 2 ^ 63 := by
  rw [atoi, Numeral.parseInt_of_isDigit hdigits, Option.filter_eq_some_iff] at h
  obtain ⟨hparse, hrange⟩ := h
  obtain ⟨n, -, rfl⟩ := Option.map_eq_some_iff.mp hparse
  refine ⟨Int.natCast_nonneg n, ?_⟩
  simp only [Bool.and_eq_true, decide_eq_true_eq] at hrange
  exact hrange.2

/-- The conversion to 32 bits keeps an index that fits. -/
theorem toInt_ofInt_eq_iff (h : 0 ≤ index) :
    (Int32.ofInt index).toInt = index ↔ index < 2 ^ 31 := by
  rw [Int32.toInt_ofInt]
  constructor
  · intro heq
    have hlt := Int.bmod_lt (x := index) (m := Int32.size) (by decide)
    rw [heq] at hlt
    exact lt_of_lt_of_le hlt (by decide)
  · intro hlt
    refine Int.bmod_eq_of_le ?_ ?_
    · exact le_trans (by decide) h
    · exact lt_of_lt_of_le hlt (by decide)

/-! ## The instance that is reached -/

section Instance

variable {cfa : CFAuthenticator} {user password : GoString} {remoteAddr : String}

theorem CFAuthenticator.credentials_spec {c : Credentials}
    (h : cfa.credentials user password = .ok c) :
    isGuid c.appGuid = true ∧ 0 ≤ c.index ∧ c.index < 2 ^ 63 := by
  unfold credentials at h
  split at h
  · exact nomatch h
  · rename_i appGuid indexString hmatch
    obtain ⟨hguid, hdigits⟩ := findUserSubmatch_spec hmatch
    split at h
    · exact nomatch h
    · rename_i index hatoi
      split at h
      · exact nomatch h
      · split at h
        · obtain rfl := Except.ok.inj h
          exact ⟨hguid, atoi_bounds hdigits hatoi⟩
        · exact nomatch h

theorem CFAuthenticator.checkAccess_spec {appGuid token : GoString} {index : Int}
    {req : Option AccessRequest} {processGuid : String}
    (h : cfa.checkAccess appGuid index token = (req, .ok processGuid)) :
    req = some ⟨cfa.accessPath appGuid index, token⟩ ∧
      cfa.cc ⟨cfa.accessPath appGuid index, token⟩ = .ok ⟨200, some ⟨processGuid⟩⟩ := by
  unfold checkAccess at h
  dsimp only at h
  split at h
  · obtain ⟨rfl, hresult⟩ := Prod.mk.inj h
    refine ⟨rfl, ?_⟩
    split at hresult
    · exact nomatch hresult
    · rename_i resp hcc
      rw [hcc]
      obtain ⟨statusCode, body⟩ := resp
      dsimp only at hresult
      split at hresult
      · exact nomatch hresult
      · rename_i hstatus
        split at hresult
        · exact nomatch hresult
        · obtain rfl := Except.ok.inj hresult
          rw [not_not.mp hstatus]
  · exact nomatch (Prod.mk.inj h).2

/-- What stands between the user name and permissions with a target. -/
theorem CFAuthenticator.authenticate_spec {options : CriticalOptions}
    (h : (cfa.authenticate user password remoteAddr).result = .returned (.ok ⟨some options⟩)) :
    ∃ c processGuid, cfa.credentials user password = .ok c ∧
      (cfa.authenticate user password remoteAddr).accessRequest =
        some ⟨cfa.accessPath c.appGuid c.index, c.cred⟩ ∧
      cfa.cc ⟨cfa.accessPath c.appGuid c.index, c.cred⟩ = .ok ⟨200, some ⟨processGuid⟩⟩ ∧
      (cfa.authenticate user password remoteAddr).lookup =
        some (cfa.permissionsBuilder processGuid c.index remoteAddr).lookup ∧
      (cfa.permissionsBuilder processGuid c.index remoteAddr).result = .ok ⟨some options⟩ := by
  unfold authenticate at h ⊢
  split at h
  · exact nomatch h
  · rename_i c hcredentials
    split at h
    · exact nomatch h
    · split at h
      · exact nomatch h
      · unfold authorize at h ⊢
        split at h
        · exact nomatch h
        · rename_i req processGuid haccess
          obtain ⟨rfl, hcc⟩ := checkAccess_spec haccess
          exact ⟨c, processGuid, hcredentials, rfl, hcc, rfl, Result.returned.inj h⟩

/-- A request for `ssh_access` that the Cloud Controller answered with a process guid, and the
lookup that gave the target. -/
structure Granted (cfa : CFAuthenticator) (pb : PermissionsBuilder) (a : Authentication)
    (config : TargetConfig) (appGuid : GoString) (index : Int) (authorization : GoString)
    (processGuid : String) (filter : ActualLRPFilter) (lrp : ActualLRP) : Prop where
  guid : isGuid appGuid = true
  nonneg : 0 ≤ index
  request : a.accessRequest = some ⟨cfa.accessPath appGuid index, authorization⟩
  response : cfa.cc ⟨cfa.accessPath appGuid index, authorization⟩ = .ok ⟨200, some ⟨processGuid⟩⟩
  lookup : a.lookup = some filter
  found : pb.FoundBy filter lrp config

/-- **The connection reaches the instance that was authorised if and only if its index fits
into 32 bits.** -/
theorem reaches_authorised_instance_iff (cfa : CFAuthenticator) (pb : PermissionsBuilder)
    (hbbs : pb.bbsClient.Filters) (user password : GoString) (remoteAddr : String)
    {options : CriticalOptions}
    (h : (CFAuthenticator.authenticate { cfa with permissionsBuilder := pb.build } user password
      remoteAddr).result = .returned (.ok ⟨some options⟩)) :
    ∃ appGuid index authorization processGuid filter lrp,
      Granted cfa pb (CFAuthenticator.authenticate { cfa with permissionsBuilder := pb.build }
        user password remoteAddr) options.proxyTargetConfig appGuid index authorization
        processGuid filter lrp ∧
      (filter.processGuid = processGuid ∧ filter.index.toInt = index ∧ lrp.index = index ↔
        index < 2 ^ 31) := by
  obtain ⟨c, processGuid, hcredentials, hrequest, hcc, hlookup, hbuild⟩ :=
    CFAuthenticator.authenticate_spec h
  obtain ⟨lrp, hfound⟩ := PermissionsBuilder.foundBy_of_build hbuild
  obtain ⟨hguid, hindex, -⟩ := CFAuthenticator.credentials_spec hcredentials
  have hlrp : lrp.index = (Int32.ofInt c.index).toInt :=
    (hbbs _ _ hfound.found lrp List.mem_cons_self).2
  refine ⟨c.appGuid, c.index, c.cred, processGuid, ⟨processGuid, Int32.ofInt c.index⟩, lrp,
    ⟨hguid, hindex, hrequest, hcc, hlookup, hfound⟩, ?_⟩
  rw [hlrp, and_iff_right rfl, and_self_iff]
  exact toInt_ofInt_eq_iff hindex

end Instance

/-! ## A BBS and a Cloud Controller that grant everything -/

/-- One instance for every process guid and index. -/
def someInstance (filter : ActualLRPFilter) : ActualLRP :=
  { (default : ActualLRP) with
    processGuid := filter.processGuid
    index := filter.index.toInt
    instanceGuid := "instance"
    address := "10.0.0.1"
    ports := [some ⟨2222, 61001, 0, 0⟩] }

def openBuilder : PermissionsBuilder where
  bbsClient :=
    { actualLRPs := fun filter => .ok [someInstance filter]
      desiredLRPByProcessGuid := fun processGuid => .ok
        { (default : DesiredLRP) with
          processGuid := processGuid
          diegoSSH := some (.ok ⟨2222, "", "", "vcap", "", "key"⟩) } }
  useDirectInstanceAddr := false

theorem openBuilder_filters : openBuilder.bbsClient.Filters := by
  intro filter lrps hlrps lrp hmem
  obtain rfl := Except.ok.inj hlrps
  rw [mem_singleton.mp hmem]
  exact ⟨Or.inr rfl, rfl⟩

def sampleHeader : GoString :=
  bytes "eyJhbGciOiJIUzI1NiJ9"

/-- A token with the header `{"alg":"HS256"}` and the claims `{}`. -/
def sampleToken : GoString :=
  sampleHeader ++ bytes ".e30.x"

/-- The access token is `accessToken`, and the only header that the parser decodes is
`sampleHeader`. -/
def openAuthenticator (accessToken : GoString) : CFAuthenticator where
  ccURL := bytes "https://cc"
  newTokenRequest := none
  uaa _ := some ⟨200, some ⟨accessToken, bytes "bearer"⟩⟩
  validPath _ := true
  cc _ := .ok ⟨200, some ⟨"process"⟩⟩
  parse text := if (text.splitOn 46).length = 3
    then some ⟨if (text.splitOn 46).head? = some sampleHeader then some ∅ else none⟩ else none
  permissionsBuilder := openBuilder.build

def appUser (index : String) : GoString :=
  bytes "cf:1e051b88-a210-40b7-bcca-df645b24b634/" ++ bytes index

def authenticateOpen (accessToken : GoString) (index : String) : Authentication :=
  (openAuthenticator accessToken).authenticate (appUser index) [] "10.0.0.9"

theorem reaches_authorised_instance_one :
    ∃ options index processGuid filter lrp,
      (authenticateOpen sampleToken "1").result = .returned (.ok ⟨some options⟩) ∧
      (filter.processGuid = processGuid ∧ filter.index.toInt = index ∧ lrp.index = index ↔
        index < 2 ^ 31) ∧
      ∃ appGuid authorization, Granted (openAuthenticator sampleToken) openBuilder
        (authenticateOpen sampleToken "1") options.proxyTargetConfig appGuid index authorization
        processGuid filter lrp := by
  obtain ⟨options, hresult⟩ : ∃ options, (authenticateOpen sampleToken "1").result =
      .returned (.ok ⟨some options⟩) := ⟨_, rfl⟩
  obtain ⟨appGuid, index, authorization, processGuid, filter, lrp, hgranted, hiff⟩ :=
    reaches_authorised_instance_iff (openAuthenticator sampleToken)
      openBuilder openBuilder_filters (appUser "1") [] "10.0.0.9" hresult
  exact ⟨options, index, processGuid, filter, lrp, hresult, hiff, appGuid, authorization, hgranted⟩

/-- The Cloud Controller is asked about instance 4294967296, and instance 0 is looked up. -/
theorem reaches_other_instance :
    ∃ options, (authenticateOpen sampleToken "4294967296").result =
        .returned (.ok ⟨some options⟩) ∧
      (authenticateOpen sampleToken "4294967296").accessRequest =
        some ⟨bytes "https://cc/internal/apps/1e051b88-a210-40b7-bcca-df645b24b634" ++
          bytes "/ssh_access/4294967296", bytes "bearer " ++ sampleToken⟩ ∧
      (authenticateOpen sampleToken "4294967296").lookup = some ⟨"process", 0⟩ :=
  ⟨_, rfl, by decide, by decide⟩

/-! ## Panics -/

theorem not_mem_of_splitOn_eq_singleton {part : GoString} (h : text.splitOn a = [part]) :
    a ∉ text := by
  intro hmem
  obtain ⟨before, after, rfl⟩ := append_of_mem hmem
  rw [splitOn_append_cons_self] at h
  have hlength := congrArg length h
  have hbefore := length_pos_of_ne_nil (splitOn_ne_nil a before)
  have hafter := length_pos_of_ne_nil (splitOn_ne_nil a after)
  simp only [length_append, length_singleton] at hlength
  omega

/-- The two parts of a text with one separator. -/
theorem splitOn_eq_pair_iff {before after first second : GoString} :
    (before ++ a :: after).splitOn a = [first, second] ↔
      a ∉ before ∧ a ∉ after ∧ first = before ∧ second = after := by
  rw [splitOn_append_cons_self]
  constructor
  · intro h
    have hlength := congrArg length h
    have hbefore := length_pos_of_ne_nil (splitOn_ne_nil a before)
    have hafter := length_pos_of_ne_nil (splitOn_ne_nil a after)
    simp only [length_append, length_cons, length_nil] at hlength
    obtain ⟨left, hleft⟩ := length_eq_one_iff.mp (show (before.splitOn a).length = 1 by omega)
    obtain ⟨right, hright⟩ := length_eq_one_iff.mp (show (after.splitOn a).length = 1 by omega)
    have hmem := not_mem_of_splitOn_eq_singleton hleft
    have hmem' := not_mem_of_splitOn_eq_singleton hright
    rw [splitOn_eq_singleton hmem, splitOn_eq_singleton hmem'] at h
    simp only [singleton_append, cons.injEq, and_true] at h
    exact ⟨hmem, hmem', h.1.symm, h.2.symm⟩
  · rintro ⟨hbefore, hafter, rfl, rfl⟩
    rw [splitOn_eq_singleton hbefore, splitOn_eq_singleton hafter]
    rfl

section Panics

variable {cfa : CFAuthenticator} {user password token : GoString} {remoteAddr : String}
  {c : Credentials}

/-- `Authenticate` gets as far as parsing this token: the user name is that of an instance, the
UAA answers with the token, and neither the token nor its type has a space. -/
structure CFAuthenticator.Obtains (cfa : CFAuthenticator) (user password token : GoString) :
    Prop where
  user : ∃ appGuid indexString, findUserSubmatch user = some (appGuid, indexString) ∧
    (atoi indexString).isSome
  request : cfa.newTokenRequest = none
  response : ∃ tokenType, cfa.uaa password = some ⟨200, some ⟨token, tokenType⟩⟩ ∧ 32 ∉ tokenType
  spaces : 32 ∉ token

theorem CFAuthenticator.exchange_spec {cred : GoString}
    (h : cfa.exchangeAccessCodeForToken password = .ok cred) :
    cfa.newTokenRequest = none ∧ ∃ accessToken tokenType,
      cfa.uaa password = some ⟨200, some ⟨accessToken, tokenType⟩⟩ ∧
      cred = tokenType ++ 32 :: accessToken := by
  unfold exchangeAccessCodeForToken at h
  split at h
  · exact nomatch h
  · rename_i hrequest
    refine ⟨hrequest, ?_⟩
    split at h
    · exact nomatch h
    · rename_i resp huaa
      obtain ⟨statusCode, body⟩ := resp
      dsimp only at h
      split at h
      · exact nomatch h
      · rename_i hstatus
        split at h
        · exact nomatch h
        · obtain rfl := Except.ok.inj h
          rw [not_not.mp hstatus] at huaa
          exact ⟨_, _, huaa, rfl⟩

theorem CFAuthenticator.obtains_of_credentials (h : cfa.credentials user password = .ok c) :
    cfa.Obtains user password c.tokenString := by
  unfold credentials at h
  split at h
  · exact nomatch h
  · rename_i appGuid indexString hmatch
    split at h
    · exact nomatch h
    · rename_i index hatoi
      split at h
      · exact nomatch h
      · rename_i cred hcred
        obtain ⟨hrequest, accessToken, tokenType, huaa, rfl⟩ := exchange_spec hcred
        split at h
        · rename_i first tokenString hsplit
          obtain ⟨htype, htoken, -, rfl⟩ := splitOn_eq_pair_iff.mp hsplit
          obtain rfl := Except.ok.inj h
          exact ⟨⟨appGuid, indexString, hmatch, by rw [hatoi]; rfl⟩, hrequest,
            ⟨tokenType, huaa, htype⟩, htoken⟩
        · exact nomatch h

theorem CFAuthenticator.Obtains.credentials (h : cfa.Obtains user password token) :
    ∃ c, cfa.credentials user password = .ok c ∧ c.tokenString = token := by
  obtain ⟨⟨appGuid, indexString, hmatch, hindex⟩, hrequest, ⟨tokenType, huaa, htype⟩, htoken⟩ := h
  obtain ⟨index, hatoi⟩ := Option.isSome_iff_exists.mp hindex
  have hcred : cfa.exchangeAccessCodeForToken password = .ok (tokenType ++ 32 :: token) := by
    simp [exchangeAccessCodeForToken, hrequest, huaa]
  have hsplit : (tokenType ++ 32 :: token).splitOn 32 = [tokenType, token] :=
    splitOn_eq_pair_iff.mpr ⟨htype, htoken, rfl, rfl⟩
  refine ⟨⟨appGuid, index, tokenType ++ 32 :: token, token⟩, ?_, rfl⟩
  simp only [CFAuthenticator.credentials, hmatch, hatoi, hcred, hsplit]

/-- What is known of `jwt.Parse`. -/
structure CFAuthenticator.ParsesTokens (cfa : CFAuthenticator) (decodesHeader : GoString → Bool) :
    Prop where
  segments : ∀ text, (text.splitOn 46).length ≠ 3 → cfa.parse text = none
  token : ∀ text, (text.splitOn 46).length = 3 → (cfa.parse text).isSome
  claims : ∀ text token, (text.splitOn 46).length = 3 → decodesHeader text = true →
    cfa.parse text = some token → token.claims.isSome

/-- `jwt.Parse` returns a token with claims. -/
def CFAuthenticator.HasClaims (cfa : CFAuthenticator) (text : GoString) : Prop :=
  ∃ token, cfa.parse text = some token ∧ token.claims.isSome

theorem CFAuthenticator.returned_of_authorize {claims : GoMap String Claim} :
    ∃ result, (cfa.authorize c claims remoteAddr).result = .returned result := by
  unfold authorize
  split
  · exact ⟨_, rfl⟩
  · exact ⟨_, rfl⟩

/-- `Authenticate` returns if and only if the token that it obtains, if any, has claims. -/
theorem CFAuthenticator.authenticate_returns_iff :
    (∃ result, (cfa.authenticate user password remoteAddr).result = .returned result) ↔
      ∀ token, cfa.Obtains user password token → cfa.HasClaims token := by
  unfold authenticate
  cases hcredentials : cfa.credentials user password with
  | error err =>
    refine iff_of_true ⟨_, rfl⟩ ?_
    intro token hobtains
    obtain ⟨c, hc, -⟩ := hobtains.credentials
    exact nomatch hcredentials.symm.trans hc
  | ok c =>
    have hobtains : ∀ token, cfa.Obtains user password token ↔ token = c.tokenString := by
      intro token
      constructor
      · intro hobtains
        obtain ⟨c', hc', rfl⟩ := hobtains.credentials
        rw [Except.ok.inj (hcredentials.symm.trans hc')]
      · rintro rfl
        exact obtains_of_credentials hcredentials
    simp only [hobtains, forall_eq]
    cases hparse : cfa.parse c.tokenString with
    | none => simp [HasClaims, hparse]
    | some token =>
      cases hclaims : token.claims with
      | none => simp [HasClaims, hparse, hclaims]
      | some claims =>
        refine iff_of_true ?_ ⟨token, hparse, by rw [hclaims]; rfl⟩
        dsimp only
        rw [hclaims]
        exact returned_of_authorize

/-- **Authentication does not panic if and only if every token that it obtains from the UAA has
three segments, and a header that can be decoded** unless the parser makes claims without it. -/
theorem authenticate_returns_iff_segments (cfa : CFAuthenticator)
    {decodesHeader : GoString → Bool} (hjwt : cfa.ParsesTokens decodesHeader)
    (user password : GoString) (remoteAddr : String) :
    (∃ result, (cfa.authenticate user password remoteAddr).result = .returned result) ↔
      ∀ token, cfa.Obtains user password token → (token.splitOn 46).length = 3 ∧
        (decodesHeader token = true ∨ cfa.HasClaims token) := by
  rw [CFAuthenticator.authenticate_returns_iff]
  refine forall_congr' fun token => imp_congr_right fun _ => ?_
  constructor
  · intro hclaims
    refine ⟨?_, Or.inr hclaims⟩
    by_contra hsegments
    obtain ⟨token', hparse, -⟩ := hclaims
    exact nomatch (hjwt.segments token hsegments).symm.trans hparse
  · rintro ⟨hsegments, hheader | hclaims⟩
    · obtain ⟨token', hparse⟩ := Option.isSome_iff_exists.mp (hjwt.token token hsegments)
      exact ⟨token', hparse, hjwt.claims token token' hsegments hheader hparse⟩
    · exact hclaims

end Panics

theorem openAuthenticator_parsesTokens {accessToken : GoString} :
    (openAuthenticator accessToken).ParsesTokens
      fun text => (text.splitOn 46).head? = some sampleHeader where
  segments text hsegments := if_neg hsegments
  token text hsegments := by
    simp [openAuthenticator, hsegments]
  claims text token hsegments hheader hparse := by
    have hhead := of_decide_eq_true hheader
    simp only [openAuthenticator, hsegments, hhead] at hparse
    cases hparse
    rfl

theorem authenticate_returns_header :
    (∃ result, (authenticateOpen sampleToken "1").result = .returned result) ↔
      ∀ token, (openAuthenticator sampleToken).Obtains (appUser "1") [] token →
        (token.splitOn 46).length = 3 ∧
          (decide ((token.splitOn 46).head? = some sampleHeader) = true ∨
            (openAuthenticator sampleToken).HasClaims token) :=
  authenticate_returns_iff_segments _ openAuthenticator_parsesTokens (appUser "1") [] "10.0.0.9"

/-- The UAA answers with a token that has no segments, or one whose header is empty. -/
theorem authenticate_panics :
    (authenticateOpen (bytes "opaque") "1").result = .panicked ∧
      (authenticateOpen (bytes ".claims.signature") "1").result = .panicked :=
  ⟨rfl, rfl⟩

end Diego.SSH
