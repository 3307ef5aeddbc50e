import MTConnect.Document.Basic

namespace MTConnect

/-!
# Frames of a stream

A stream delivers frames: documents with new observations, heartbeats when
there is nothing new, and at most one error, which is the last frame.
-/

/-- One unit of what a stream delivers. -/
inductive Frame where
  /-- New observations, at least one. -/
  | data (document : SampleDocument)
  /-- Nothing new; reading goes on from `endSequence`. -/
  | heartbeat (header : Header) (endSequence : Nat)
  /-- The stream failed. -/
  | failure (document : ErrorDocument)
  deriving Repr, DecidableEq, Inhabited

/-- Whether a frame is the last one of its stream. -/
def Frame.isLast : Frame → Bool
  | .failure _ => true
  | _ => false

end MTConnect
