import CubeNano.Flight.SatelliteSimulator

/-!
# From a TC frame to a command

`StockApidRouter` (`flight/stock_router.py`) and the part of `CloudPayload.dispatch_tc_frame`
that comes before `handle_command`: the frame, its spacecraft and virtual channel, the
packet header, the APID and the command.  What is refused on the way is refused with an
error code.

## Main definitions

* `StockApidRouter`, `StockApidRouter.routeTc`
* `TcProfile`, `TcProfile.dispatchTcFrame`

## Main statements

* `TcProfile.dispatchTcFrame_of_encode` — a frame for this spacecraft with a command inside is
  handled as that command
-/

namespace CubeNano

/-- `RouteResult`. -/
structure RouteResult where
  accepted : Bool
  apid : ℤ
  command : Option Command
  errorCode : Option String

/-- `StockApidRouter`. -/
structure StockApidRouter where
  commandApid : ℕ
  expectedPacketType : ℕ
  expectedSecondaryHeaderPresent : Bool
  expectedSequenceFlags : ℕ

/-- The router with the defaults of its constructor. -/
def stockApidRouter (commandApid : ℕ) : StockApidRouter := ⟨commandApid, 1, false, 3⟩

namespace StockApidRouter

/-- A refusal. -/
def refusal (apid : ℤ) (errorCode : String) : RouteResult := ⟨false, apid, none, some errorCode⟩

/-- `route_tc`. -/
def routeTc (router : StockApidRouter) (packetBytes : Bytes) : Raises RouteResult :=
  match SpacePacket.decode packetBytes with
  | .error failure =>
      if failure.isValueError then .ok (refusal (-1) "INVALID_PACKET") else .error failure
  | .ok packet =>
      if packet.packetType ≠ router.expectedPacketType then
        .ok (refusal packet.apid "PACKET_TYPE_MISMATCH")
      else if packet.secondaryHeaderPresent ≠ router.expectedSecondaryHeaderPresent then
        .ok (refusal packet.apid "SECONDARY_HEADER_MISMATCH")
      else if packet.sequenceFlags ≠ router.expectedSequenceFlags then
        .ok (refusal packet.apid "SEQUENCE_FLAGS_MISMATCH")
      else if packet.apid ≠ router.commandApid then .ok (refusal packet.apid "INVALID_APID")
      else
        match decodeCommand packet.payload with
        | .error failure =>
            if failure.isValueError then .ok (refusal packet.apid "INVALID_COMMAND")
            else .error failure
        | .ok command => .ok ⟨true, packet.apid, some command, none⟩

end StockApidRouter

/-- What `CloudPayload` reads of the mission profile for telecommands. -/
structure TcProfile where
  spacecraftId : ℕ
  tcVirtualChannel : ℕ
  tcApid : ℕ

/-- A frame is refused with an error code, or its command goes to `handle_command`. -/
inductive TcDispatch
  | refused (errorCode : String)
  | command (command : Command)

/-- `part in message`. -/
def mentions (message part : String) : Bool :=
  message.toList.tails.any fun rest => part.toList.isPrefixOf rest

/-- The error code of a frame that cannot be decoded, of the message in capitals. -/
def frameErrorCode (message : String) : String :=
  if mentions message "CRC" || mentions message "FECF" then "TC_CRC_INVALID"
  else if mentions message "TYPE-BD" || mentions message "RESERVED" || mentions message "VERSION" then
    "TC_FRAME_HEADER_INVALID"
  else if mentions message "LENGTH" || mentions message "SPACE PACKET" then "TC_PACKET_INVALID"
  else "TC_FRAME_INVALID"

namespace TcProfile

/-- `dispatch_space_packet`. -/
def dispatchSpacePacket (profile : TcProfile) (packetBytes : Bytes) : Raises TcDispatch := do
  let routed ← (stockApidRouter profile.tcApid).routeTc packetBytes
  match routed.accepted, routed.command with
  | true, some command => .ok (.command command)
  | _, _ => .ok (.refused (routed.errorCode.getD "INVALID_COMMAND"))

/-- `dispatch_tc_frame`. -/
def dispatchTcFrame (profile : TcProfile) (frameBytes : Bytes) : Raises TcDispatch :=
  match TcTypeBdFrame.decode frameBytes with
  | .error failure =>
      if failure.kind.isTypeOrValueError then
        .ok (.refused (frameErrorCode failure.message.toUpper))
      else .error failure
  | .ok frame =>
      if frame.spacecraftId ≠ profile.spacecraftId then .ok (.refused "TC_SCID_MISMATCH")
      else if frame.virtualChannelId ≠ profile.tcVirtualChannel then
        .ok (.refused "TC_VCID_MISMATCH")
      else profile.dispatchSpacePacket frame.packet.encode

end TcProfile

/-! ## Commands that arrive -/

/-- A packet of the router's kind with a command inside is routed as that command. -/
theorem StockApidRouter.routeTc_of_command {packet : SpacePacket} {command : Command}
    (packetType : packet.packetType = 1) (header : packet.secondaryHeaderPresent = false)
    (flags : packet.sequenceFlags = 3) (read : decodeCommand packet.payload = .ok command) :
    (stockApidRouter packet.apid).routeTc packet.encode =
      .ok ⟨true, packet.apid, some command, none⟩ := by
  unfold routeTc
  rw [SpacePacket.decode_encode]
  simp only [stockApidRouter, packetType, header, flags, read, ne_eq, not_true_eq_false, if_false]

/-- **A telecommand that arrives.**  A frame for this spacecraft and its telecommand channel,
with a packet of the telecommand APID and a command inside, is handled as that command,
whatever padding the frame has. -/
theorem TcProfile.dispatchTcFrame_of_encode {frame : TcTypeBdFrame} {frameSize? : Option ℕ}
    {data : Bytes} {command : Command} (encoded : frame.encode frameSize? = .ok data)
    (packetType : frame.packet.packetType = 1)
    (header : frame.packet.secondaryHeaderPresent = false)
    (flags : frame.packet.sequenceFlags = 3)
    (read : decodeCommand frame.packet.payload = .ok command) :
    (TcProfile.mk frame.spacecraftId frame.virtualChannelId frame.packet.apid).dispatchTcFrame
      data = .ok (.command command) := by
  have routed := StockApidRouter.routeTc_of_command packetType header flags read
  unfold dispatchTcFrame
  rw [TcTypeBdFrame.decode_encode encoded]
  simp only [ne_eq, not_true_eq_false, if_false]
  unfold dispatchSpacePacket
  simp only
  rw [routed]
  rfl

end CubeNano
