import SummitUsbgadget.SocketUpdate.Session

/-!
# The listener of the socket updater

`serve_swupdate` binds, accepts one client and serves it, and does so again. How a session ends is
logged and nothing else; but two steps before the session, reading the client's address and the TLS
handshake, hand their error on to the caller. The address is read for a line of the log, so it is
read only where lines of that level are logged. `still_listening_iff` says that the listener goes
back to accepting after all the clients exactly if none of them made one of these two fail;
`client_stops_listener` shows clients that do.
-/

set_option autoImplicit false

namespace SummitUsbgadget.SocketUpdate

open SummitUsbgadget.Lib
open SummitUsbgadget.Swupdate

/-! ## TLS -/

/-- `SocketTlsConfig`. -/
structure SocketTlsConfig where
  serverCert : String
  serverKey : String
  requestClientCert : Bool
  caCert : Option String
  ignoreExpiration : Bool
  fips : Bool
  deriving DecidableEq, Repr

/-- What OpenSSL answers to the calls that set up a connection; a failure comes with its text. -/
structure Openssl where
  defaultProvider : Except String Unit
  fipsProvider : Except String Unit
  fipsEnabled : Bool
  builder : Except String Unit
  certificateChain : Except String Unit
  privateKey : Except String Unit
  checkPrivateKey : Except String Unit
  caFile : Except String Unit
  session : Except String Unit
  stream : Except String Unit

/-- `map_err` with a text in front of that of the library. -/
def mapErr (what : String) (result : Except String Unit) : Except IoError Unit :=
  result.mapError fun text => IoError.other (what ++ text)

def enableFipsIfRequested (config : SocketTlsConfig) (lib : Openssl) : Except IoError Unit :=
  if !config.fips then .ok ()
  else do
    mapErr "loading OpenSSL default provider failed: " lib.defaultProvider
    mapErr "loading OpenSSL FIPS provider failed: " lib.fipsProvider
    if lib.fipsEnabled then .ok ()
    else .error (IoError.other "enabling OpenSSL FIPS default properties failed")

inductive SslVerifyMode where
  | none
  | peer
  deriving DecidableEq, Repr

/-- The settings of an acceptor: whether it asks for a certificate, and which ones pass. -/
structure SslAcceptor where
  verifyMode : SslVerifyMode
  verify : Bool → Nat → Bool

def isIgnorableExpirationResult (result : Nat) : Bool := result ∈ [9, 10, 13, 14]

/-- The CA file of a server that asks for client certificates. -/
def clientCertVerification (config : SocketTlsConfig) (lib : Openssl) :
    Except IoError SslVerifyMode :=
  if !config.requestClientCert then .ok .none
  else
    match config.caCert with
    | none => .error (IoError.new .invalidInput "client certificate validation requires a ca_cert")
    | some caCert => do
        mapErr ("loading OpenSSL CA file " ++ caCert ++ " failed: ") lib.caFile
        return .peer

def buildTlsAcceptor (config : SocketTlsConfig) (lib : Openssl) : Except IoError SslAcceptor := do
  enableFipsIfRequested config lib
  mapErr "OpenSSL TLS builder creation failed: " lib.builder
  mapErr ("loading OpenSSL server certificate chain " ++ config.serverCert ++ " failed: ")
    lib.certificateChain
  mapErr ("loading OpenSSL server private key " ++ config.serverKey ++ " failed: ") lib.privateKey
  mapErr "OpenSSL server certificate/key mismatch: " lib.checkPrivateKey
  let verifyMode ← clientCertVerification config lib
  return ⟨verifyMode, fun preverified result =>
    preverified || config.ignoreExpiration && isIgnorableExpirationResult result⟩

/-- `tls::accept`; the handshake is `none` if it takes too long. -/
def tlsAccept (config : SocketTlsConfig) (lib : Openssl) (handshake : Option (Except String Unit)) :
    Except IoError Unit := do
  let _ ← buildTlsAcceptor config lib
  mapErr "OpenSSL TLS session setup failed: " lib.session
  mapErr "OpenSSL stream setup failed: " lib.stream
  match handshake with
  | none => .error (IoError.new .timedOut "TLS handshake timed out")
  | some result => mapErr "TLS handshake failed: " result

/-! ## Logging -/

/-- `log::LevelFilter`. -/
inductive LevelFilter where
  | off
  | error
  | warn
  | info
  | debug
  | trace
  deriving DecidableEq, Repr

/-- `Level::Info <= max_level()`. -/
def LevelFilter.enablesInfo : LevelFilter → Bool
  | .off => false
  | .error => false
  | .warn => false
  | .info => true
  | .debug => true
  | .trace => true

/-- `log::info!` with a fallible argument: it is evaluated, and its error handed on, only if the
level is enabled. -/
def logInfo {α : Type} (maxLevel : LevelFilter) (arg : Except IoError α) : Except IoError Unit :=
  if maxLevel.enablesInfo then arg.map fun _ => () else .ok ()

theorem logInfo_isOk_iff {α : Type} (maxLevel : LevelFilter) (arg : Except IoError α) :
    (logInfo maxLevel arg).isOk = true ↔ (maxLevel.enablesInfo = true → arg.isOk = true) := by
  unfold logInfo
  cases maxLevel.enablesInfo with
  | false => simp [Except.isOk, Except.toBool]
  | true => cases arg <;> simp [Except.isOk, Except.toBool, Except.map]

/-! ## The loop -/

/-- All that one turn of the loop meets: the sockets, the client and what it sends, and SWUpdate. -/
structure Client where
  bind : Except IoError Unit
  accept : Except IoError Unit
  peerAddr : Except IoError String
  openssl : Openssl
  handshake : Option (Except String Unit)
  reads : List Read
  answers : Answers

/-- `log_session_end`: the line that is logged, if any. -/
def logSessionEnd (result : Except IoError Unit) : Option String :=
  match result with
  | .ok () => none
  | .error err => some ("socket update session failed: " ++ err.text)

/-- The upgrade of a connection, if TLS is configured. -/
def upgrade (tls : Option SocketTlsConfig) (client : Client) : Except IoError Unit :=
  match tls with
  | none => .ok ()
  | some config => tlsAccept config client.openssl client.handshake

/-- One turn of the loop; an error ends it, the result of a session does not. -/
def serveClient (maxLevel : LevelFilter) (tls : Option SocketTlsConfig) (params : SwupdateParams)
    (client : Client) : Except IoError (Except IoError Unit) := do
  client.bind
  client.accept
  logInfo maxLevel client.peerAddr
  upgrade tls client
  return (Program.exec (streamToSwupdate client.reads) (.new params) client.answers).1

/-- `serve_swupdate`, up to the clients given: what was logged of their sessions, and the error with
which it returned; `none` if it accepts the next client. -/
def serveSwupdate (maxLevel : LevelFilter) (tls : Option SocketTlsConfig)
    (params : SwupdateParams) :
    List Client → List (Option String) × Option IoError
  | [] => ([], none)
  | client :: clients =>
      match serveClient maxLevel tls params client with
      | .error err => ([], some err)
      | .ok result =>
          let served := serveSwupdate maxLevel tls params clients
          (logSessionEnd result :: served.1, served.2)

section Listening

variable {maxLevel : LevelFilter} {tls : Option SocketTlsConfig} {params : SwupdateParams}

/-- A turn ends the loop exactly if one of its steps before the session fails. -/
theorem serveClient_isOk_iff (client : Client) :
    (serveClient maxLevel tls params client).isOk = true ↔
      client.bind.isOk = true ∧ client.accept.isOk = true ∧
        (logInfo maxLevel client.peerAddr).isOk = true ∧ (upgrade tls client).isOk = true := by
  unfold serveClient
  cases client.bind with
  | error err => simp [Except.isOk, Except.toBool, bind, Except.bind]
  | ok u =>
      cases client.accept with
      | error err => simp [Except.isOk, Except.toBool, bind, Except.bind]
      | ok u =>
          cases logInfo maxLevel client.peerAddr with
          | error err => simp [Except.isOk, Except.toBool, bind, Except.bind]
          | ok u =>
              cases upgrade tls client <;>
                simp [Except.isOk, Except.toBool, bind, Except.bind, pure, Except.pure]

/-- The listener is back at accepting after the clients exactly if every turn gets to its
session. -/
theorem serveSwupdate_listening_iff (clients : List Client) :
    (serveSwupdate maxLevel tls params clients).2 = none ↔
      ∀ client ∈ clients, (serveClient maxLevel tls params client).isOk = true := by
  induction clients with
  | nil => simp [serveSwupdate]
  | cons client clients ih =>
      unfold serveSwupdate
      cases hserve : serveClient maxLevel tls params client with
      | error err => simp [hserve, Except.isOk, Except.toBool]
      | ok result => simp [hserve, ih, Except.isOk, Except.toBool]

/-- As long as the listener is there, every client has had its session. -/
theorem length_serveSwupdate {clients : List Client}
    (h : (serveSwupdate maxLevel tls params clients).2 = none) :
    (serveSwupdate maxLevel tls params clients).1.length = clients.length := by
  induction clients with
  | nil => rfl
  | cons client clients ih =>
      unfold serveSwupdate at h ⊢
      cases hserve : serveClient maxLevel tls params client with
      | error err =>
          rw [hserve] at h
          cases h
      | ok result =>
          rw [hserve] at h
          simpa using ih h

end Listening

/-- For every sequence of clients, of whatever behaviour, every level of logging, and with `bind`
and `accept` succeeding: the listener has served them all and accepts the next one, if and only if
the address of each of them could be read, where that level has it read, and, where TLS is
configured, its handshake succeeded. How their sessions ended does not matter. -/
theorem still_listening_iff (maxLevel : LevelFilter) (tls : Option SocketTlsConfig)
    (params : SwupdateParams) (clients : List Client)
    (hsockets : ∀ client ∈ clients, client.bind.isOk = true ∧ client.accept.isOk = true) :
    ((serveSwupdate maxLevel tls params clients).2 = none ∧
        (serveSwupdate maxLevel tls params clients).1.length = clients.length) ↔
      ∀ client ∈ clients, (maxLevel.enablesInfo = true → client.peerAddr.isOk = true) ∧
        (upgrade tls client).isOk = true := by
  have hiff : (serveSwupdate maxLevel tls params clients).2 = none ↔
      ∀ client ∈ clients, (maxLevel.enablesInfo = true → client.peerAddr.isOk = true) ∧
        (upgrade tls client).isOk = true := by
    rw [serveSwupdate_listening_iff]
    refine forall₂_congr fun client hclient => ?_
    obtain ⟨hbind, haccept⟩ := hsockets client hclient
    rw [serveClient_isOk_iff, logInfo_isOk_iff]
    simp [hbind, haccept]
  rw [← hiff]
  exact ⟨fun h => h.1, fun h => ⟨h, length_serveSwupdate h⟩⟩

/-- A library without any trouble. -/
def workingOpenssl : Openssl where
  defaultProvider := .ok ()
  fipsProvider := .ok ()
  fipsEnabled := true
  builder := .ok ()
  certificateChain := .ok ()
  privateKey := .ok ()
  checkPrivateKey := .ok ()
  caFile := .ok ()
  session := .ok ()
  stream := .ok ()

/-- A client whose image SWUpdate rejects. -/
def badImage : Client where
  bind := .ok ()
  accept := .ok ()
  peerAddr := .ok "192.168.0.2:40000"
  openssl := workingOpenssl
  handshake := some (.ok ())
  reads := twoReads
  answers := rejecting 5

def tlsConfig : SocketTlsConfig := ⟨"server.pem", "server.key", false, none, true, false⟩

/-- Clients with bad images do not stop the listener. -/
theorem still_listening_iff_badImage :
    (serveSwupdate .info (some tlsConfig) .default [badImage, badImage]).2 = none := by
  have hsockets : ∀ client ∈ [badImage, badImage],
      client.bind.isOk = true ∧ client.accept.isOk = true := by
    simp [badImage, Except.isOk, Except.toBool]
  refine ((still_listening_iff .info (some tlsConfig) .default
    [badImage, badImage] hsockets).2 ?_).1
  intro client hclient
  obtain rfl : client = badImage := by simpa using hclient
  exact ⟨fun _ => rfl, rfl⟩

/-- A client that fails the handshake and one that stalls in it end the listener at every level; one
that resets the connection before its address is read ends it at the level `Info`, which is the
default, and not at `Warn`. -/
theorem client_stops_listener :
    (∀ maxLevel, serveSwupdate maxLevel (some tlsConfig) .default
        [{ badImage with handshake := some (.error "unexpected eof") }, badImage] =
      ([], some (IoError.other "TLS handshake failed: unexpected eof"))) ∧
    (∀ maxLevel, serveSwupdate maxLevel (some tlsConfig) .default
        [{ badImage with handshake := none }, badImage] =
      ([], some (IoError.new .timedOut "TLS handshake timed out"))) ∧
    serveSwupdate .info none .default
        [{ badImage with peerAddr := .error ⟨.notConnected, some 107, "not connected"⟩ },
          badImage] =
      ([], some ⟨.notConnected, some 107, "not connected"⟩) ∧
    (serveSwupdate .warn none .default
        [{ badImage with peerAddr := .error ⟨.notConnected, some 107, "not connected"⟩ },
          badImage]).2 = none := by
  refine ⟨fun maxLevel => ?_, fun maxLevel => ?_, rfl, rfl⟩
  · cases maxLevel <;> rfl
  · cases maxLevel <;> rfl

end SummitUsbgadget.SocketUpdate
