/-! Why no class is generated. -/

namespace ValueParcel

inductive Failure
  | unsupportedType (owner property : String)
  | invalidMapType (owner property : String)
  | missingAdapter (owner property : String)
  | conflictingMember (owner member : String)
  deriving DecidableEq, Repr

namespace Failure

def message : Failure → String
  | unsupportedType owner property =>
    "property " ++ property ++ " of " ++ owner ++ " is not a supported Parcelable type"
  | invalidMapType owner property =>
    "property " ++ property ++ " of " ++ owner ++ " is a Map without String keys or supported values"
  | missingAdapter owner property =>
    "property " ++ property ++ " of " ++ owner ++ " has a ParcelAdapter annotation without an adapter"
  | conflictingMember owner member => owner ++ " declares " ++ member ++ " by hand"

end Failure

end ValueParcel
