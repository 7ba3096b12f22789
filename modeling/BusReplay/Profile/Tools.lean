import BusReplay.Profile.Basic

/-!
# The two tools

`dbus-send` wants the type of every argument in front of its value and cannot take variants or
signatures. `gdbus` looks the types up and takes bare values, variants and signatures included.
-/

namespace BusReplay

namespace Profile

def dbusSend : Profile where
  target := .dbusSend
  header := "dbus-send --\x7bscope\x7d --dest=\x7bname\x7d --print-reply " ++
    "\x7bpath\x7d \x7binterface\x7d.\x7bmethod\x7d"
  rules := [
    ⟨'n', some "int16", .verbatim⟩,
    ⟨'q', some "uint16", .verbatim⟩,
    ⟨'i', some "int32", .verbatim⟩,
    ⟨'u', some "uint32", .verbatim⟩,
    ⟨'x', some "int64", .verbatim⟩,
    ⟨'t', some "uint64", .verbatim⟩,
    ⟨'d', some "double", .verbatim⟩,
    ⟨'y', some "byte", .verbatim⟩,
    ⟨'b', some "boolean", .verbatim⟩,
    ⟨'s', some "string", .hexDecoded⟩,
    ⟨'o', some "objpath", .hexDecoded⟩]

def gdbus : Profile where
  target := .gdbus
  header := "gdbus call --\x7bscope\x7d --dest \x7bname\x7d --object-path \x7bpath\x7d " ++
    "--method \x7binterface\x7d.\x7bmethod\x7d"
  rules := [
    ⟨'n', none, .verbatim⟩,
    ⟨'q', none, .verbatim⟩,
    ⟨'i', none, .verbatim⟩,
    ⟨'u', none, .verbatim⟩,
    ⟨'x', none, .verbatim⟩,
    ⟨'t', none, .verbatim⟩,
    ⟨'d', none, .verbatim⟩,
    ⟨'y', none, .verbatim⟩,
    ⟨'b', none, .verbatim⟩,
    ⟨'s', none, .hexDecoded⟩,
    ⟨'o', none, .hexDecoded⟩,
    ⟨'g', none, .hexDecoded⟩,
    ⟨'v', none, .hexDecoded⟩]

end Profile

def Target.profile : Target → Profile
  | dbusSend => .dbusSend
  | gdbus => .gdbus

end BusReplay
