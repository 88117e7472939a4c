import RemoteFlags.Http.Network
import RemoteFlags.Time.Clock

/-!
# The world outside

The network and the clock: all that the outcome of an evaluation depends on besides its arguments
and the state of its provider.

## Main definitions

* `World`, `World.now`, `World.send`: reading the clock, and sending a request.

## What is left out

* Connections, encrypted ones included: the network says what becomes of a request, and it need not
  treat any scheme in its own way.
* Waiting: neither the wait for an answer nor the one before a repetition is told, only what becomes
  of the requests.  The wait before a repetition has to be a length of time that can be represented.
* Room in the HTTP library: a request has at most 24576 header fields with different names.
* Most of Unicode in the names of hosts, see `Domain`, and the larger encodings of bodies, see
  `Text.Charset`.
* Where in a text a fault of JSON was found, what is written to the log, and evaluations that end
  while they hold the state of a provider.
-/

namespace RemoteFlags

/-- The network and the clock. -/
structure World where
  /-- The network. -/
  network : Http.Network
  /-- The clock. -/
  clock : Clock

namespace World

/-- Reads the clock. -/
def now (w : World) : Instant × World :=
  let (t, clock) := w.clock.read
  (t, { w with clock := clock })

/-- Sends a request. -/
def send (w : World) (r : Http.Request) : Except Http.Fault Http.Response × World :=
  let (result, network) := w.network.send r
  (result, { w with network := network })

end World

end RemoteFlags
