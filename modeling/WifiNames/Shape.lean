import WifiNames.Shape.DoubleByte
import WifiNames.Shape.MultiByte

namespace WifiNames

/-!
# Shapes — the decision

Many names satisfy both byte patterns.  The multi-byte pattern wins: a name is taken for GBK
only if it has the double-byte shape and cannot be read as the multi-byte one.
-/

/-- Whether a name is to be treated as GBK. -/
def isGbkName (b : Bytes) : Bool :=
  !Shape.isMultiByte b && Shape.isDoubleByte b

end WifiNames
