import Mathlib.Logic.Basic

namespace Instinct.Sensors.Emlid

/-- `ErbMessageID`, the message kinds of the Emlid Reach binary protocol. -/
inductive ErbMessageID where
  | erbMessageIdNone
  | erbMessageIdVer
  | erbMessageIdPos
  | erbMessageIdStat
  | erbMessageIdDpos
  | erbMessageIdVel
  | erbMessageIdSvi
  | erbMessageIdRtk
  deriving DecidableEq, Repr

open ErbMessageID

def getMsgIdFromString (idName : String) : ErbMessageID :=
  if idName = "VER" then erbMessageIdVer
  else if idName = "POS" then erbMessageIdPos
  else if idName = "STAT" then erbMessageIdStat
  else if idName = "DPOS" then erbMessageIdDpos
  else if idName = "VEL" then erbMessageIdVel
  else if idName = "SVI" then erbMessageIdSvi
  else if idName = "RTK" then erbMessageIdRtk
  else erbMessageIdNone

end Instinct.Sensors.Emlid
