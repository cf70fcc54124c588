import HeatingPortal.Error
import HeatingPortal.Notice.Sink

/-!
# Warnings

What is reported to the operator although nothing failed for the caller.
-/

namespace HeatingPortal

open Plant Notice

/-- A report to the operator. -/
inductive Warning where
  | unknownKey (key : String)
  | sensorUnread (failure : Failure)
  | liveModeUnread (error : Error)
  | liveStateUnread (error : Error)
  | noticeLost (error : PublishError)
  | plantNotReachable (failure : Failure)

/-- The wording of a warning. -/
def Warning.message : Warning → String
  | unknownKey key => s!"Unrecognised configuration key '{key}'"
  | sensorUnread failure => "Sensor read failed: " ++ failure.message
  | liveModeUnread error => "Live system mode unavailable for re-render: " ++ error.message
  | liveStateUnread error => "Live state unavailable for re-render: " ++ error.message
  | noticeLost error => "Notification dropped: " ++ error.message
  | plantNotReachable failure => "Gateway not reachable yet: " ++ failure.message

/-- Publishes a system mode after it was committed; a loss is only reported. -/
def Notice.Recording.notify (recording : Recording) (composite : UInt8) :
    List Warning × Recording :=
  match recording.publish composite with
  | (.ok (), recording) => ([], recording)
  | (.error error, recording) => ([.noticeLost error], recording)

end HeatingPortal
