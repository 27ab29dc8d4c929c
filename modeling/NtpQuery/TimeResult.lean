import NtpQuery.Binary64.Arithmetic
import NtpQuery.Binary64.Fixed
import NtpQuery.Json.Value
import NtpQuery.Text.Ascii
import NtpQuery.Wire.Client

/-!
# Time results

From the seconds at which a request left and its answer arrived, and from the
seconds at which the server received and answered it, follow the offset of the
server's clock and the delay of the round trip. Only whole seconds take part,
so the offset is a multiple of one half; both are doubles.

A reference identifier is the server's kind of clock, as text, up to stratum
1, and the address of its own server above.
-/

namespace NtpQuery

structure TimeResult where
  /-- The server's clock in Unix seconds. -/
  time : Int
  offset : Binary64
  delay : Binary64
  stratum : Int
  precision : Int
  refid : String
  deriving DecidableEq, Repr, Inhabited

namespace Timing

/-- Twice the offset of the server's clock. -/
def doubleOffset (t1 t2 t3 t4 : Int) : Int := (t2 - t1) + (t3 - t4)

/-- The time spent on the way there and back. -/
def roundTripDelay (t1 t2 t3 t4 : Int) : Int := (t4 - t1) - (t3 - t2)

/-- Offset and delay as doubles; none when one is beyond their range. -/
def offsetDelay? (t1 t2 t3 t4 : Int) : Option (Binary64 × Binary64) := do
  let double ← Binary64.ofInt? (doubleOffset t1 t2 t3 t4)
  let delay ← Binary64.ofInt? (roundTripDelay t1 t2 t3 t4)
  pure (double.div (.ofInt 2), delay)

/-- The text of a reference identifier of at least four octets. -/
def refidText (stratum : Int) (refId : Bytes) : Except Failure String :=
  if stratum ≤ 1 then
    .ok (String.ofList (Text.decodeAscii (Bytes.upToZero (refId.take 4))))
  else
    match refId.take 4 with
    | [a, b, c, d] =>
      .ok (".".intercalate ([a, b, c, d].map fun octet => toString octet.toNat))
    | _ => .error .system

end Timing

namespace TimeResult

/-- The result for an answer, with the NTP seconds of departure and arrival. -/
def ofAnswer (packet : ClientPacket) (t1 t4 : Int) : Except Failure TimeResult :=
  let t2 := packet.receiveSeconds
  let t3 := packet.transmitSeconds
  match Timing.offsetDelay? t1 t2 t3 t4 with
  | none => .error .overflow
  | some (offset, delay) =>
    match packet.refIdBytes with
    | .error failure => .error failure
    | .ok refId =>
      match Timing.refidText packet.stratum refId with
      | .error failure => .error failure
      | .ok refid =>
        .ok
          { time := t3 - Wire.epochOffset
            offset, delay
            stratum := packet.stratum
            precision := packet.precision
            refid }

/-- The result as named values; offset and delay with six decimal places. -/
def entries (result : TimeResult) : List (String × Json) :=
  [("time", .whole result.time),
   ("offset", .text (result.offset.toFixed 6)),
   ("delay", .text (result.delay.toFixed 6)),
   ("stratum", .whole result.stratum),
   ("precision", .whole result.precision),
   ("refid", .text result.refid)]

end TimeResult

end NtpQuery
