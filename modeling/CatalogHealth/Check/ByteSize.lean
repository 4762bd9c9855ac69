import CatalogHealth.Number

/-!
# Byte sizes as text

A size is shown in the first unit in which it is below 1024, or in terabytes.
Bytes have no places and the larger units one.
-/

namespace CatalogHealth

/-- The number of bytes in a kilobyte. -/
def kilobyte : Binary64 := .finite false (1024 * Binary64.unitsPerOne)

/-- A size in the first of some units in which it is below 1024; the last unit
takes any size. -/
def sizeInUnits (size : Binary64) : List String → String
  | [] => size.fixed 1
  | [unit] => size.fixed 1 ++ " " ++ unit
  | unit :: larger =>
    if (Number.float size.abs).lt (.int 1024) then size.fixed 1 ++ " " ++ unit
    else sizeInUnits (size.div kilobyte) larger

/-- A size in bytes as text. -/
def byteSize (size : Binary64) : String :=
  if (Number.float size.abs).lt (.int 1024) then size.fixed 0 ++ " B"
  else sizeInUnits (size.div kilobyte) ["kB", "MB", "GB", "TB"]

/-- A whole number of bytes as text, unless it is beyond the binary64 range. -/
def wholeByteSize (size : Int) : Except Fault String := do
  return byteSize (← (Number.int size).toFloat)

end CatalogHealth
