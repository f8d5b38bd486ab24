import LightBridge.Bridge.Http
import LightBridge.CommandLine
import Std.Async.DNS
import Std.Async.TCP
import Std.Async.Timer

/-! The program itself: requests go over the network, output is printed and time is waited for. A
run is followed as far as the replies so far take it; with each reply it is followed again, one
request further. -/

namespace LightBridge.Main

open Std.Async Std.Net

/-- The milliseconds after which a request counts as lost. -/
def requestTimeout : Nat := 5000

def socketAddress (number : Nat) : IPAddr → SocketAddress
  | .v4 addr => .v4 ⟨addr, UInt16.ofNat number⟩
  | .v6 addr => .v6 ⟨addr, UInt16.ofNat number⟩

/-- Everything that arrives until the connection is closed. -/
partial def receive (client : TCP.Socket.Client) (before : ByteArray) : Async ByteArray := do
  match ← client.recv? 65536 with
  | some bytes => receive client (before ++ bytes)
  | none => return before

def converse (endpoint : Endpoint) (request : Request) : Async ByteArray := do
  let (host, number) := Http.splitAuthority endpoint.authority
  let addresses ← DNS.getAddrInfo host (toString number)
  let some address := addresses[0]? | throw (IO.userError "no address")
  let client ← TCP.Socket.Client.mk
  client.connect (socketAddress number address)
  client.send (Http.requestText endpoint request).toUTF8
  receive client .empty

def exchange (endpoint : Endpoint) (request : Request) : IO Reply := do
  try
    let late : Async (Option ByteArray) := do
      sleep (.ofNat requestTimeout)
      return none
    match ← (Async.race (some <$> converse endpoint request) late).block with
    | some bytes => return Http.replyOf bytes.toList
    | none => return .lost (some "no reply in time")
  catch e => return .lost (some e.toString)

def waitUntil (time : Nat) : IO Unit := do
  let now ← IO.monoMsNow
  if now < time then IO.sleep (UInt32.ofNat (time - now))

def print : CommandLine.Line → IO Unit
  | .out text => do
    IO.println text
    (← IO.getStdout).flush
  | .err text => IO.eprintln text

/-- Follows a run on from the lines that were printed already. `origin` is the moment at which it
would have begun if requests took no longer than it assumes. -/
partial def follow (arguments : CommandLine.Arguments) (replies : List Reply)
    (printed origin : Nat) : IO UInt32 := do
  let p := arguments.run (.known replies)
  for (time, line) in p.printed.drop printed do
    waitUntil (origin + time)
    print line
  waitUntil (origin + p.clock)
  match p.ending with
  | .exited code => return UInt32.ofNat code
  | .waiting request =>
    let before ← IO.monoMsNow
    let reply ← exchange arguments.endpoint request
    let after ← IO.monoMsNow
    follow arguments (replies ++ [reply]) p.printed.length (origin + (after - before))

end LightBridge.Main

open LightBridge in
def main (words : List String) : IO UInt32 := do
  match CommandLine.Arguments.parse words with
  | .ok arguments => Main.follow arguments [] 0 (← IO.monoMsNow)
  | .error (.help command?) =>
    for text in CommandLine.helpOf command? do
      IO.println text
    return 0
  | .error .wrong =>
    IO.eprintln CommandLine.grammar.usage
    return 2
