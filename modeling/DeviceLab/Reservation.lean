import DeviceLab.Request

/-!
# Reservations

A `Reservation` asks for a number of devices of one profile. A client *claims* a list of
reservations and hands out coordinates as devices become ready, until the claim is *released*.
-/

namespace DeviceLab

/-- A demand for `count` devices of a profile. -/
structure Reservation where
  count : UInt32
  device : DeviceProfile
  deriving DecidableEq

end DeviceLab
