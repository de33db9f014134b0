import DeviceMonitoring.Stream

/-! The three message classes, as they are compared by `operator==`. -/
namespace DeviceMonitoring

/-- `MessageError::ErrorType`. -/
inductive ErrorType where
  | noSchedule
  | noTimestamp
  | obsolete
  deriving DecidableEq, Repr

structure MessageMeterage where
  timeStamp : UInt64
  meterage : UInt8
  deriving DecidableEq, Repr

inductive Message where
  | error (errorType : ErrorType)
  | command (command : Int8)
  | meterage (message : MessageMeterage)
  deriving DecidableEq, Repr

end DeviceMonitoring
