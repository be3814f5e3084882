import Notary.CommandLine.Operator
import Notary.Config.Watcher
import Notary.Http.Exchange
import Notary.Http.Wire
import Notary.Lifecycle.Process
import Notary.Net.Location
import Notary.Text.Identifier
import Std.Async.Signal
import Std.Async.TCP
import Std.Async.Timer

namespace Notary.Shell

/-!
# The programs

The outer layer of the gateway and of the operator's program: sockets, files,
signals, pauses and random bytes. What they do is decided elsewhere; the
operator's program is the one that runs under that program's name.
-/

open Std.Async
open Std.Async.TCP.Socket (Client Server)

/-- What is at a path. -/
def readFile (path : String) : IO Config.File := do
  try
    return .bytes (← IO.FS.readBinFile path).toList
  catch
    | .noFileOrDirectory .. => return .absent
    | _ => return .directory

/-- The variables of the given names that the process was started with. -/
def readEnvironment (names : List String) : IO CommandLine.Environment :=
  names.filterMapM fun name => do return (← IO.getEnv name).map (name, ·)

/-- The variables that can stand in for options of a command. -/
def variablesOf (c : CommandLine.Command) : List String :=
  c.options.filterMap (·.source)

/-- The socket address of an address. -/
def socketAddress (a : Net.Address) : Std.Net.SocketAddress :=
  let byte (bytes : List Nat) (i : Nat) : UInt8 := (bytes.getD i 0).toUInt8
  let group (groups : List Nat) (i : Nat) : UInt16 := (groups.getD i 0).toUInt16
  match a.host with
  | .short b => .v4 ⟨.ofParts (byte b 0) (byte b 1) (byte b 2) (byte b 3), a.port.toUInt16⟩
  | .long g =>
      .v6 ⟨.ofParts (group g 0) (group g 1) (group g 2) (group g 3) (group g 4) (group g 5)
        (group g 6) (group g 7), a.port.toUInt16⟩

/-- Receive bytes after those that are there, until there are enough of them or no more come. -/
partial def receive (client : Client) (enough : ByteArray → Bool) (got : ByteArray) :
    Async ByteArray := do
  if enough got then return got
  match ← client.recv? 65536 with
  | none => return got
  | some bytes => receive client enough (got ++ bytes)

/-! ## The operator's program -/

/-- Ask the gateway at a location. -/
def ask (url : String) (question : CommandLine.Operator.Question) :
    IO CommandLine.Operator.Reply := do
  let known : Option (Net.Location × Net.Address) := do
    let location ← Net.Location.parse? url
    return (location, ← location.address? Net.localNames)
  match known with
  | none => return .unreachable
  | some (location, address) =>
      let m := question.message
      let m : Http.Message := { m with target := location.base ++ m.target }
      let conversation : Async ByteArray := do
        let client ← Client.mk
        client.connect (socketAddress address)
        client.send ⟨(m.wire location.authority).toArray⟩
        receive client (fun _ => false) .empty
      try
        let bytes ← conversation.block
        return ((Http.Response.read? bytes.toList).map .response).getD .unreachable
      catch _ => return .unreachable

/-- Run the operator's program. -/
def runOperator (arguments : List String) : IO UInt32 := do
  let environment ← readEnvironment (variablesOf CommandLine.Operator.command)
  let reply ←
    match CommandLine.Operator.read environment arguments with
    | .ask url question => ask url question
    | _ => pure .unreachable
  let outcome := CommandLine.Operator.run environment arguments fun _ _ => reply
  match outcome with
  | .ok text => IO.print text
  | .error failure => IO.eprint (CommandLine.Operator.unlines failure.lines)
  return (CommandLine.Operator.exitStatus outcome).toUInt32

/-! ## The gateway -/

/-- A gateway at work. -/
structure Session where
  gateway : Gateway
  watcher : Config.Watcher
  /-- What was at the path of the configuration when it was looked at last. -/
  file : Config.File
  filter : Journal.Filter
  format : LogFormat

/-- Write lines of the log. -/
def writeLines (format : LogFormat) (lines : List Journal.Line) : IO Unit :=
  lines.forM fun line =>
    IO.println
      (match format with
      | .pretty => line.text
      | .json => line.object.text)

/-- Write events that belong to no request. -/
def writeEvents (format : LogFormat) (events : List Journal.Event) : IO Unit :=
  writeLines format (events.map fun event => ⟨event, none⟩)

/-- Write the lines that the filter admits. -/
def Session.log (s : Session) (lines : List Journal.Line) : IO Unit :=
  writeLines s.format (lines.filter fun line => s.filter.admits line.event)

/-- Write what was noted outside of requests. -/
def Session.note (s : Session) (notes : List Journal.Note) : IO Unit :=
  s.log ((Journal.events notes).map fun event => ⟨event, none⟩)

/-- Take the watcher's move over into the gateway. -/
def Session.moved (s : Session) (m : Config.Watcher.Moved) : IO Session := do
  s.note m.notes
  return { s with
    watcher := m.watcher
    gateway := { s.gateway with store := m.watcher.store } }

/-- Look at the configuration file, and tell the watcher if it has changed. -/
def Session.look (s : Session) : IO Session := do
  let file ← readFile s.watcher.store.path
  let notice : Config.Notice :=
    if file = s.file || file = .absent then .idle
    else .change ⟨true, false, [some s.watcher.fileName]⟩
  { s with file }.moved (s.watcher.step file notice)

/-- Answer the request on a connection. -/
def converse (s : Session) (client : Client) : Async Unit := do
  let headLimit := 65536
  let length? (bytes : ByteArray) : Option Nat := Http.headLength? 0 bytes.toList
  let start ← receive client
    (fun bytes => (length? bytes).isSome || headLimit < bytes.size) .empty
  match length? start with
  | none => return
  | some length =>
      let madeUpId := Text.identifier (← IO.getRandomBytes 16).toList
      match Http.Head.read? (start.toList.take length) with
      | none =>
          client.send ⟨((Http.Response.bare 400).wire madeUpId).toArray⟩
      | some head =>
          let wanted := length + min head.bodyLength (s.gateway.bodyLimit + 1)
          let bytes ← receive client (fun bytes => wanted ≤ bytes.size) start
          let m := head.withBody ((bytes.toList.drop length).take head.bodyLength)
          let salt := (← IO.getRandomBytes 16).toList
          let exchange := Http.answer s.gateway salt madeUpId m
          s.log (Journal.lines exchange.log)
          client.send ⟨(exchange.response.wire (m.requestId madeUpId)).toArray⟩
  client.shutdown

/-- A gateway at work, with the conversations that are not known to have ended. -/
structure Service where
  session : IO.Ref Session
  conversations : IO.Ref (List (AsyncTask Unit))

/-- Take connections, one after another, for as long as the process lives. -/
partial def Service.welcome (service : Service) (server : Server) : Async Unit := do
  let client ← server.accept
  let session ← service.session.get
  let conversation ← async (converse session client)
  let others ← (← service.conversations.get).filterM fun other =>
    return !(← IO.hasFinished other)
  service.conversations.set (conversation :: others)
  service.welcome server

/-- Look after the configuration file until a signal comes. -/
partial def Service.patrol (service : Service) (interrupted terminated : AsyncTask Int) :
    Async Lifecycle.Signal := do
  if ← IO.hasFinished interrupted then return .interrupt
  if ← IO.hasFinished terminated then return .terminate
  service.session.set (← (← service.session.get).look)
  sleep 100
  service.patrol interrupted terminated

/-- Serve requests until a signal comes, and then wait for those that are being answered. -/
def Service.run (service : Service) (server : Server) : Async Unit := do
  let interrupted ← (← Signal.Waiter.mk .sigint false).wait
  let terminated ← (← Signal.Waiter.mk .sigterm false).wait
  background (service.welcome server)
  let signal ← service.patrol interrupted terminated
  for conversation in ← service.conversations.get do
    try await conversation catch _ => pure ()
  let session ← service.session.get
  session.note (Lifecycle.stopNotes signal)
  discard <| session.moved (session.watcher.requestStop.step session.file .idle)

/-- The files that a call of the gateway names. -/
def readFiles (e : CommandLine.Environment) (arguments : List String) :
    IO (String → Config.File) := do
  match CommandLine.readCall CommandLine.serverCommand e .start arguments with
  | .accepted values _ =>
      let settingsFile ← (values.get? "settings").mapM readFile
      let around (_ : String) : Config.File := settingsFile.getD .absent
      match CommandLine.settingsOf around values with
      | .error _ => return around
      | .ok settings =>
          let configuration ← readFile settings.configPath
          return fun path => if path = settings.configPath then configuration else around path
  | _ => return fun _ => .absent

/-- Run the gateway. -/
def runGateway (arguments : List String) : IO UInt32 := do
  let environment ← readEnvironment
    (Lifecycle.filterVariable :: variablesOf CommandLine.serverCommand)
  let around : Lifecycle.Surroundings :=
    ⟨← readFiles environment arguments, Net.localNames, fun _ => true, false⟩
  match Lifecycle.begin around environment arguments with
  | .ended status output errors format events =>
      output.forM (IO.println ·)
      errors.forM (IO.eprintln ·)
      writeEvents format events
      return status.toUInt32
  | .serving gateway settings choice events =>
      choice.complaints.forM (IO.eprintln ·)
      let format := settings.observability.logFormat
      writeEvents format events
      let watched := Config.Watcher.start gateway.store none
      let session : Session :=
        ⟨gateway, watched.watcher, around.files settings.configPath, choice.filter, format⟩
      let session ← session.moved watched
      try
        match Net.listenAddress Net.localNames around.own settings.listener.bindAddress with
        | .error fault => throw (.userError fault.text)
        | .ok address =>
            let server ← Server.mk
            server.bind (socketAddress address)
            server.listen 1024
            let service : Service := ⟨← IO.mkRef session, ← IO.mkRef []⟩
            (service.run server).block
            return 0
      catch error =>
        session.note [.event (.stoppedWithError ("IO error: " ++ toString error))]
        return 1

end Notary.Shell

/-- Run the program whose name the executable has: the operator's, or the gateway. -/
def main (arguments : List String) : IO UInt32 := do
  let path ← IO.appPath
  if path.fileName = some Notary.CommandLine.Operator.command.name then
    Notary.Shell.runOperator arguments
  else Notary.Shell.runGateway arguments
