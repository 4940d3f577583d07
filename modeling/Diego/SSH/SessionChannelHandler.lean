import Diego.GoMap
import Diego.Machine

/-!
# The environments of SSH sessions

`diego-ssh/handlers/session_channel_handler.go`.  The daemon has one `SessionChannelHandler`.
Each session channel is served by a goroutine of its own, which takes the requests of its
channel one after the other; between the goroutines every order is possible.

A Go map is a reference, so `Daemon.maps` holds the maps and the handler and its sessions hold
references into it.  Requests that neither touch an environment nor make a command (signals,
subsystems, unknown ones) are `Request.other`, and what is sent back to the client is left out.
-/

namespace Diego.SSH

open Function Option

/-! ## Records -/

abbrev MapRef := Nat

abbrev SessionId := Nat

/-- `exec.Cmd`, as `createCommand` fills it. -/
structure Cmd where
  path : String
  args : List String
  env : List String
  deriving DecidableEq

structure PtyRequestMsg where
  term : String
  columns : UInt32
  rows : UInt32
  width : UInt32
  height : UInt32
  modelist : String
  deriving DecidableEq, Inhabited

structure EnvMsg where
  name : String
  value : String
  deriving DecidableEq

structure WindowChangeMsg where
  columns : UInt32
  rows : UInt32
  widthPx : UInt32
  heightPx : UInt32
  deriving DecidableEq

/-- A request on a session channel.  The payload is `none` when `ssh.Unmarshal` fails on it. -/
inductive Request
  | env (msg : Option EnvMsg)
  | ptyReq (msg : Option PtyRequestMsg)
  | windowChange (msg : Option WindowChangeMsg)
  | exec (command : Option String)
  | shell
  | other
  deriving DecidableEq

structure Session where
  shellPath : String
  env : MapRef
  command : Option Cmd
  allocPty : Bool
  ptyRequest : PtyRequestMsg
  deriving DecidableEq

structure SessionChannelHandler where
  /-- What `shellLocator.ShellPath` returns. -/
  shellPath : String
  defaultEnv : MapRef

structure Daemon where
  maps : MapRef → GoMap String String
  sessions : SessionId → Option Session

namespace Daemon

/-- `env[name] = value` on a map that others may refer to as well. -/
def setEnv (daemon : Daemon) (env : MapRef) (name value : String) : Daemon :=
  { daemon with maps := Function.update daemon.maps env ((daemon.maps env).insert name value) }

@[simp] def putSession (daemon : Daemon) (s : SessionId) (sess : Session) : Daemon :=
  { daemon with sessions := Function.update daemon.sessions s (some sess) }

def command (daemon : Daemon) (s : SessionId) : Option Cmd :=
  (daemon.sessions s).bind Session.command

/-- The daemon before the first session. -/
def start (maps : MapRef → GoMap String String) : Daemon where
  maps := maps
  sessions := fun _ => none

end Daemon

/-! ## The handlers -/

def newSession (handler : SessionChannelHandler) : Session where
  shellPath := handler.shellPath
  env := handler.defaultEnv
  command := none
  allocPty := false
  ptyRequest := ⟨"", 0, 0, 0, 0, ""⟩

/-- The variables that a command takes from the map of its session. -/
def inherited (name : String) : Bool :=
  name ≠ "HOME" && name ≠ "USER"

section Handlers

-- `os.Getenv`: the daemon's own environment.
variable (getenv : String → String)

def environment (env : GoMap String String) : List String :=
  ["PATH=/bin:/usr/bin", "LANG=en_US.UTF8"] ++
    (env.restrict fun name _ => inherited name).entries.map
      (fun entry => entry.1 ++ "=" ++ entry.2) ++
    ["HOME=" ++ getenv "HOME", "USER=" ++ getenv "USER"]

def createCommand (daemon : Daemon) (sess : Session) (args : List String) : Except String Session :=
  match sess.command with
  | some _ => .error "command already started"
  | none =>
    .ok { sess with
      command := some
        { path := sess.shellPath
          args := args
          env := environment getenv (daemon.maps sess.env) } }

def executeShell (s : SessionId) (sess : Session) (args : List String) (daemon : Daemon) : Daemon :=
  match createCommand getenv daemon sess args with
  | .error _ => daemon
  | .ok sess' => daemon.putSession s sess'

def handleEnvironmentRequest (sess : Session) (msg : Option EnvMsg) (daemon : Daemon) : Daemon :=
  match msg with
  | none => daemon
  | some msg => daemon.setEnv sess.env msg.name msg.value

def handlePtyRequest (s : SessionId) (sess : Session) (msg : Option PtyRequestMsg)
    (daemon : Daemon) : Daemon :=
  match msg with
  | none => daemon
  | some msg =>
    (daemon.putSession s { sess with allocPty := true, ptyRequest := msg }).setEnv sess.env
      "TERM" msg.term

def handleWindowChangeRequest (s : SessionId) (sess : Session) (msg : Option WindowChangeMsg)
    (daemon : Daemon) : Daemon :=
  match msg with
  | none => daemon
  | some msg =>
    if sess.allocPty then
      daemon.putSession s
        { sess with
          ptyRequest := { sess.ptyRequest with columns := msg.columns, rows := msg.rows } }
    else daemon

/-- The class `\s` of a Go regular expression. -/
def isSpace (c : Char) : Bool :=
  c = ' ' || c = '\t' || c = '\n' || c = '\r' || c = Char.ofNat 12

/-- `scpRegex`: `^\s*scp($|\s+)`. -/
def isSCP (command : String) : Bool :=
  let rest := command.toList.dropWhile isSpace
  rest.take 3 = ['s', 'c', 'p'] && ((rest.drop 3).head?.all isSpace)

/-- A copy is served in the daemon itself, without a command. -/
def handleExecRequest (s : SessionId) (sess : Session) (command : Option String)
    (daemon : Daemon) : Daemon :=
  match command with
  | none => daemon
  | some command =>
    if isSCP command then daemon else executeShell getenv s sess ["-c", command] daemon

@[simp] def handleRequest (s : SessionId) (sess : Session) (daemon : Daemon) : Request → Daemon
  | .env msg => handleEnvironmentRequest sess msg daemon
  | .ptyReq msg => handlePtyRequest s sess msg daemon
  | .windowChange msg => handleWindowChangeRequest s sess msg daemon
  | .exec command => handleExecRequest getenv s sess command daemon
  | .shell => executeShell getenv s sess [] daemon
  | .other => daemon

/-- A step of the daemon: a channel is opened, or a session takes its next request. -/
inductive Action
  | open (s : SessionId)
  | request (s : SessionId) (req : Request)

def Action.session : Action → SessionId
  | .open s => s
  | .request s _ => s

def step (handler : SessionChannelHandler) : Action → Daemon → Option Daemon
  | .open s, daemon =>
    match daemon.sessions s with
    | some _ => none
    | none => some (daemon.putSession s (newSession handler))
  | .request s req, daemon =>
    (daemon.sessions s).map fun sess => handleRequest getenv s sess daemon req

end Handlers

/-! ## What a request changes -/

@[simp] def Request.sets : Request → Option EnvMsg
  | .env msg => msg
  | .ptyReq (some msg) => some ⟨"TERM", msg.term⟩
  | _ => none

/-- An assignment, or none. -/
@[simp] def assign (msg : Option EnvMsg) (env : GoMap String String) : GoMap String String :=
  msg.elim env fun msg => env.insert msg.name msg.value

def Session.started (sess : Session) (args env : List String) : Session :=
  match sess.command with
  | some _ => sess
  | none => { sess with command := some ⟨sess.shellPath, args, env⟩ }

/-- What a request makes of its session, when `env` is the environment for a command. -/
@[simp] def Session.after (sess : Session) (env : List String) : Request → Session
  | .ptyReq (some msg) => { sess with allocPty := true, ptyRequest := msg }
  | .windowChange (some msg) =>
    if sess.allocPty then
      { sess with ptyRequest := { sess.ptyRequest with columns := msg.columns, rows := msg.rows } }
    else sess
  | .exec (some command) => if isSCP command then sess else sess.started ["-c", command] env
  | .shell => sess.started [] env
  | _ => sess

section Effects

variable {getenv : String → String} {handler : SessionChannelHandler} {daemon next : Daemon}
  {s : SessionId} {sess : Session} {req : Request}

theorem executeShell_eq (hsess : daemon.sessions s = some sess) (args : List String) :
    executeShell getenv s sess args daemon =
      daemon.putSession s (sess.started args (environment getenv (daemon.maps sess.env))) := by
  unfold executeShell createCommand Session.started
  cases sess.command with
  | some cmd => simp [← hsess]
  | none => rfl

/-- A request changes one variable of the map of its session at most, and of the sessions only
its own. -/
theorem handleRequest_eq (hsess : daemon.sessions s = some sess) :
    handleRequest getenv s sess daemon req =
      { maps := update daemon.maps sess.env (assign req.sets (daemon.maps sess.env))
        sessions := update daemon.sessions s
          (some (sess.after (environment getenv (daemon.maps sess.env)) req)) } := by
  have hsame : update daemon.sessions s (some sess) = daemon.sessions := by
    rw [← hsess, update_eq_self]
  cases req with
  | env msg =>
    cases msg with
    | none => simp [handleEnvironmentRequest, hsame]
    | some msg =>
      simp [handleEnvironmentRequest, hsame, Daemon.setEnv]
  | ptyReq msg =>
    cases msg with
    | none => simp [handlePtyRequest, hsame]
    | some msg => rfl
  | windowChange msg =>
    cases msg with
    | none =>
      simp [handleWindowChangeRequest, hsame]
    | some msg =>
      by_cases hpty : sess.allocPty = true
      · simp [handleWindowChangeRequest, hpty]
      · simp [handleWindowChangeRequest, hpty, hsame]
  | exec command =>
    cases command with
    | none => simp [handleExecRequest, hsame]
    | some command =>
      by_cases hscp : isSCP command = true
      · simp [handleExecRequest, hscp, hsame]
      · simp [handleExecRequest, hscp, executeShell_eq hsess]
  | shell =>
    simp [executeShell_eq hsess, Daemon.putSession]
  | other => simp [hsame]

variable (env : List String)

theorem Session.after_env : (sess.after env req).env = sess.env := by
  unfold Session.after Session.started
  split <;> (try split) <;> (try split) <;> rfl

theorem Session.after_command {cmd : Cmd} (hcmd : sess.command = some cmd) :
    (sess.after env req).command = some cmd := by
  unfold Session.after Session.started
  split <;> (try split) <;> (try split) <;> simp_all

end Effects

/-! ## The environment of a command -/

/-- Two maps that a command cannot tell apart. -/
def Agree (env env' : GoMap String String) : Prop :=
  ∀ name, inherited name = true → env.lookup name = env'.lookup name

theorem lookup_assign_some (msg : EnvMsg) (env : GoMap String String) (name : String) :
    (assign (some msg) env).lookup name =
      if name = msg.name then some msg.value else env.lookup name :=
  GoMap.lookup_insert_ite env msg.name name msg.value

variable {env env' : GoMap String String} {sess sess' : Session}

theorem Agree.assign (h : Agree env env') {msg : Option EnvMsg} :
    Agree (assign msg env) (assign msg env') := by
  intro name hname
  cases msg with
  | none => exact h name hname
  | some msg => rw [lookup_assign_some, lookup_assign_some, h name hname]

/-- Setting a variable to the value that it has, or a variable that no command takes from the
map, goes unnoticed. -/
theorem agree_assign_self {msg : Option EnvMsg}
    (hsame : ∀ msg' ∈ msg, inherited msg'.name = true → env.lookup msg'.name = some msg'.value) :
    Agree (SSH.assign msg env) env := by
  intro name hname
  cases msg with
  | none => rfl
  | some msg =>
    rw [lookup_assign_some]
    split
    · rename_i heq
      subst heq
      exact (hsame msg rfl hname).symm
    · rfl

/-- The variables come in the order in which the runtime visits the map, so two environments are
the same up to their order. -/
theorem Agree.environment_perm (h : Agree env env') {getenv : String → String} :
    (environment getenv env).Perm (environment getenv env') := by
  have hentries : (env.restrict fun name _ => inherited name).entries.Perm
      (env'.restrict fun name _ => inherited name).entries := by
    refine List.lookup_ext (AList.nodupKeys _) (AList.nodupKeys _) ?_
    intro name value
    have hlookup : (env.restrict fun name _ => inherited name).lookup name =
        (env'.restrict fun name _ => inherited name).lookup name := by
      rw [GoMap.lookup_restrict, GoMap.lookup_restrict]
      cases hname : inherited name with
      | true => rw [h name hname]
      | false => simp
    exact iff_of_eq (congrArg (value ∈ ·) hlookup)
  exact ((hentries.map _).append_left _).append_right _

/-- The same command, with its environment in whatever order. -/
structure Cmd.Same (cmd cmd' : Cmd) : Prop where
  path : cmd.path = cmd'.path
  args : cmd.args = cmd'.args
  env : cmd.env.Perm cmd'.env

/-- The same session, with its command up to the order of the environment. -/
def Session.Same (sess sess' : Session) : Prop :=
  ∃ command', sess' = { sess with command := command' } ∧ Option.Rel Cmd.Same sess.command command'

theorem Session.Same.started (h : sess.Same sess') (args : List String) {env env' : List String}
    (henv : sess.command = none → env.Perm env') :
    (sess.started args env).Same (sess'.started args env') := by
  obtain ⟨command', rfl, hrel⟩ := h
  unfold Session.started
  cases hcommand : sess.command with
  | none =>
    rw [hcommand] at hrel
    cases hrel
    exact ⟨_, rfl, .some ⟨rfl, rfl, henv hcommand⟩⟩
  | some cmd =>
    rw [hcommand] at hrel
    cases hrel with
    | some hcmd =>
      refine ⟨_, rfl, ?_⟩
      simp only [hcommand]
      exact .some hcmd

theorem Session.Same.after (h : sess.Same sess') {req : Request} {env env' : List String}
    (henv : sess.command = none → env.Perm env') :
    (sess.after env req).Same (sess'.after env' req) := by
  have hstarted := fun args => h.started args henv
  obtain ⟨command', rfl, hrel⟩ := h
  unfold Session.after
  split
  · exact ⟨command', rfl, hrel⟩
  · split <;> exact ⟨command', rfl, hrel⟩
  · split
    · exact ⟨command', rfl, hrel⟩
    · exact hstarted _
  · exact hstarted _
  · exact ⟨command', rfl, hrel⟩

/-! ## Sessions by themselves -/

section Alone

variable {getenv : String → String} {handler : SessionChannelHandler} {s : SessionId}
  {daemon alone next : Daemon}

/-- Every session has the handler's own map, not a copy of it. -/
def Daemon.SharesDefaultEnv (handler : SessionChannelHandler) (daemon : Daemon) : Prop :=
  ∀ s sess, daemon.sessions s = some sess → sess.env = handler.defaultEnv

variable {action : Action}

/-- What a step that is not refused does, as long as the sessions share one map. -/
theorem step_cases (hshares : daemon.SharesDefaultEnv handler)
    (hstep : step getenv handler action daemon = some next) :
    (∃ s, action = .open s ∧ daemon.sessions s = none ∧
      next = daemon.putSession s (newSession handler)) ∨
    ∃ s req sess, action = .request s req ∧ daemon.sessions s = some sess ∧
      sess.env = handler.defaultEnv ∧
      next =
        { maps := update daemon.maps handler.defaultEnv
            (assign req.sets (daemon.maps handler.defaultEnv))
          sessions := update daemon.sessions s
            (some (sess.after (environment getenv (daemon.maps handler.defaultEnv)) req)) } := by
  cases action with
  | «open» s =>
    left
    cases hsess : daemon.sessions s with
    | some sess => simp [step, hsess] at hstep
    | none =>
      simp only [step, hsess, some.injEq] at hstep
      exact ⟨s, rfl, hsess, hstep.symm⟩
  | request s req =>
    right
    obtain ⟨sess, hsess, rfl⟩ := map_eq_some_iff.mp hstep
    have henv : sess.env = handler.defaultEnv := hshares s sess hsess
    refine ⟨s, req, sess, rfl, hsess, henv, ?_⟩
    rw [handleRequest_eq hsess, henv]

/-- Another session does not change a variable that the command of `s` takes from the map, before
`s` has its command. -/
def LeavesAlone (handler : SessionChannelHandler) (s : SessionId) (action : Action)
    (daemon : Daemon) : Prop :=
  match action with
  | .open _ => True
  | .request s' req =>
    s' ≠ s → daemon.command s = none → ∀ msg ∈ req.sets, inherited msg.name = true →
      (daemon.maps handler.defaultEnv).lookup msg.name = some msg.value

instance decidableLeavesAlone (handler : SessionChannelHandler) (s : SessionId) (action : Action)
    (daemon : Daemon) : Decidable (LeavesAlone handler s action daemon) :=
  match action with
  | .open _ => inferInstanceAs (Decidable True)
  | .request s' req =>
    inferInstanceAs (Decidable (s' ≠ s → daemon.command s = none → ∀ msg ∈ req.sets,
      inherited msg.name = true →
        (daemon.maps handler.defaultEnv).lookup msg.name = some msg.value))

/-- The daemon, and the daemon that has served `s` only. -/
structure Mirrors (handler : SessionChannelHandler) (s : SessionId) (daemon alone : Daemon) :
    Prop where
  shares : daemon.SharesDefaultEnv handler
  sharesAlone : alone.SharesDefaultEnv handler
  session : Option.Rel Session.Same (daemon.sessions s) (alone.sessions s)
  agree : daemon.command s = none →
    Agree (daemon.maps handler.defaultEnv) (alone.maps handler.defaultEnv)

theorem SharesDefaultEnv.step (hshares : daemon.SharesDefaultEnv handler)
    (hstep : step getenv handler action daemon = some next) : next.SharesDefaultEnv handler := by
  intro s sess hsess
  obtain ⟨s', rfl, hnone, rfl⟩ | ⟨s', req, sess', rfl, hsess', henv, rfl⟩ :=
    step_cases hshares hstep
  · by_cases hs : s = s'
    · subst hs
      simp only [Daemon.putSession, update_self, some.injEq] at hsess
      rw [← hsess]
      rfl
    · simp only [Daemon.putSession, update_of_ne hs] at hsess
      exact hshares s sess hsess
  · by_cases hs : s = s'
    · subst hs
      simp only [update_self, some.injEq] at hsess
      rw [← hsess, Session.after_env, henv]
    · simp only [update_of_ne hs] at hsess
      exact hshares s sess hsess

/-- A step of `s` can be taken on both sides. -/
theorem Mirrors.step_own (h : Mirrors handler s daemon alone) (haction : action.session = s)
    (hstep : step getenv handler action daemon = some next) :
    ∃ next', step getenv handler action alone = some next' ∧ Mirrors handler s next next' := by
  have hshares : next.SharesDefaultEnv handler := SharesDefaultEnv.step h.shares hstep
  have hsession := h.session
  obtain ⟨s', rfl, hnone, rfl⟩ | ⟨s', req, sess, rfl, hsess, henv, rfl⟩ := step_cases h.shares hstep
  · obtain rfl : s' = s := haction
    rw [hnone] at hsession
    cases halone : alone.sessions s' with
    | some sess' =>
      rw [halone] at hsession
      cases hsession
    | none =>
      have hstep' : step getenv handler (.open s') alone =
          some (alone.putSession s' (newSession handler)) := by
        simp only [step, halone]
      refine ⟨_, hstep', ⟨hshares, SharesDefaultEnv.step h.sharesAlone hstep', ?_, ?_⟩⟩
      · simp only [Daemon.putSession, update_self]
        exact .some ⟨none, rfl, .none⟩
      · intro _
        exact h.agree (by rw [Daemon.command, hnone, bind_none])
  · obtain rfl : s' = s := haction
    rw [hsess] at hsession
    cases halone : alone.sessions s' with
    | none =>
      rw [halone] at hsession
      cases hsession
    | some sess' =>
      rw [halone] at hsession
      cases hsession with
      | some hsame =>
      have hcommand : daemon.command s' = sess.command := by
        rw [Daemon.command, hsess, bind_some]
      have hstep' : step getenv handler (.request s' req) alone =
          some (handleRequest getenv s' sess' alone req) := by
        simp only [step, halone, map_some]
      refine ⟨_, hstep', ⟨hshares, SharesDefaultEnv.step h.sharesAlone hstep', ?_, ?_⟩⟩
      · rw [handleRequest_eq halone, h.sharesAlone s' sess' halone]
        simp only [update_self]
        refine .some (hsame.after ?_)
        intro hnew
        exact (h.agree (hcommand.trans hnew)).environment_perm
      · intro hnew
        rw [handleRequest_eq halone, h.sharesAlone s' sess' halone]
        simp only [update_self]
        refine (h.agree ?_).assign
        -- A command that was there before the request is still there after it.
        rw [hcommand, eq_none_iff_forall_ne_some]
        intro cmd hcmd
        simp only [Daemon.command, update_self, bind_some, Session.after_command _ hcmd] at hnew
        cases hnew

/-- A step of another session that leaves the variables of `s` alone does not show. -/
theorem Mirrors.step_other (h : Mirrors handler s daemon alone) (haction : action.session ≠ s)
    (hleaves : LeavesAlone handler s action daemon)
    (hstep : step getenv handler action daemon = some next) : Mirrors handler s next alone := by
  have hshares : next.SharesDefaultEnv handler := SharesDefaultEnv.step h.shares hstep
  obtain ⟨s', rfl, hnone, rfl⟩ | ⟨s', req, sess, rfl, hsess, henv, rfl⟩ := step_cases h.shares hstep
  · have hs : s ≠ s' := fun heq => haction heq.symm
    have hkept : (daemon.putSession s' (newSession handler)).sessions s = daemon.sessions s :=
      update_of_ne hs _ _
    refine ⟨hshares, h.sharesAlone, hkept ▸ h.session, ?_⟩
    intro hnew
    rw [Daemon.command, hkept] at hnew
    exact h.agree hnew
  · have hs : s ≠ s' := fun heq => haction heq.symm
    refine ⟨hshares, h.sharesAlone, ?_, ?_⟩
    · simp only [update_of_ne hs]
      exact h.session
    · intro hnew
      simp only [Daemon.command, update_of_ne hs] at hnew
      simp only [update_self]
      have hunnoticed : Agree (assign req.sets (daemon.maps handler.defaultEnv))
          (daemon.maps handler.defaultEnv) := by
        refine agree_assign_self ?_
        intro msg hmsg hname
        exact hleaves haction hnew msg hmsg hname
      intro name hname
      rw [hunnoticed name hname, h.agree hnew name hname]

theorem mirrors_start {maps : MapRef → GoMap String String} :
    Mirrors handler s (Daemon.start maps) (Daemon.start maps) where
  shares := nofun
  sharesAlone := nofun
  session := .none
  agree := fun _ _ _ => rfl

/-- **A session's command has the environment it would have if its session were the only one**,
in every run in which no other session changes a variable of the shared map before the command is
made.  The run of the session's own requests also starts from the handler's default
environment. -/
theorem environment_eq_alone {maps : MapRef → GoMap String String} {actions : List Action}
    (hrun : Machine.run (step getenv handler) (Daemon.start maps) actions = some daemon)
    (hleaves : Machine.Meets (step getenv handler) (LeavesAlone handler s) (Daemon.start maps)
      actions) :
    ∃ alone, Machine.run (step getenv handler) (Daemon.start maps)
        (actions.filter fun action => action.session = s) = some alone ∧
      Option.Rel Cmd.Same (daemon.command s) (alone.command s) := by
  have hmirrors : ∃ alone, Machine.run (step getenv handler) (Daemon.start maps)
      (actions.filter fun action => action.session = s) = some alone ∧
      Mirrors handler s daemon alone := by
    refine Machine.run_filter ?_ ?_ mirrors_start hleaves hrun
    · intro action _ _ _ hown hmirrors _ hstep
      exact hmirrors.step_own (of_decide_eq_true hown) hstep
    · intro action _ _ _ hother hmirrors hcond hstep
      exact hmirrors.step_other (of_decide_eq_false hother) hcond hstep
  obtain ⟨alone, halone, hmirrors⟩ := hmirrors
  refine ⟨alone, halone, ?_⟩
  have hsession := hmirrors.session
  unfold Daemon.command
  generalize daemon.sessions s = sess at hsession ⊢
  generalize alone.sessions s = sess' at hsession ⊢
  cases hsession with
  | none => exact .none
  | some hsame =>
    obtain ⟨command', rfl, hrel⟩ := hsame
    exact hrel

end Alone

/-! ## Two sessions -/

def exampleHandler : SessionChannelHandler where
  shellPath := "/bin/sh"
  defaultEnv := 0

def exampleMaps : MapRef → GoMap String String :=
  fun _ => GoMap.ofPairs [("LANGUAGE", "en")]

/-- Before session 1 has its command, session 2 sets `HOME`, which no command takes from the map,
and `LANGUAGE` to the value that it has; a variable of session 1 it sets only afterwards. -/
def quietActions : List Action :=
  [.open 1, .open 2, .request 1 (.env (some ⟨"ENV1", "value1"⟩)),
    .request 2 (.env (some ⟨"HOME", "/root"⟩)), .request 2 (.env (some ⟨"LANGUAGE", "en"⟩)),
    .request 1 (.exec (some "/usr/bin/env")), .request 2 (.env (some ⟨"ENV1", "value2"⟩))]

/-- Session 1 sets a variable and starts no command; session 2 asks for a shell. -/
def disturbingActions : List Action :=
  [.open 1, .request 1 (.env (some ⟨"LD_PRELOAD", "/tmp/evil.so"⟩)), .open 2, .request 2 .shell]

theorem environment_eq_alone_quiet :
    ∃ daemon, Machine.run (step (fun _ => "vcap") exampleHandler) (Daemon.start exampleMaps)
        quietActions = some daemon ∧
      (daemon.command 1).isSome = true ∧
      ∃ alone, Machine.run (step (fun _ => "vcap") exampleHandler) (Daemon.start exampleMaps)
          (quietActions.filter fun action => action.session = 1) = some alone ∧
        Option.Rel Cmd.Same (daemon.command 1) (alone.command 1) := by
  exact ⟨_, rfl, rfl, environment_eq_alone rfl (by decide)⟩

/-- The shell of session 2 gets the variable that session 1 has set for itself. -/
theorem environment_disturbed :
    ((Machine.run (step (fun _ => "vcap") exampleHandler) (Daemon.start exampleMaps)
        disturbingActions).bind (·.command 2)).map Cmd.env =
      some ["PATH=/bin:/usr/bin", "LANG=en_US.UTF8", "LD_PRELOAD=/tmp/evil.so", "LANGUAGE=en",
        "HOME=vcap", "USER=vcap"] ∧
    ((Machine.run (step (fun _ => "vcap") exampleHandler) (Daemon.start exampleMaps)
        (disturbingActions.filter fun action => action.session = 2)).bind (·.command 2)).map
          Cmd.env =
      some ["PATH=/bin:/usr/bin", "LANG=en_US.UTF8", "LANGUAGE=en", "HOME=vcap", "USER=vcap"] := by
  constructor <;> rfl

end Diego.SSH
