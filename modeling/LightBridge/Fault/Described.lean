import LightBridge.Fault

/-! The short text of a fault, for a reader of logs: its name and what is known about it. -/

namespace LightBridge.Fault

def describe : Fault → String
  | unreadable => "JsonLoad"
  | unreachable _ => "Http"
  | refused status => s!"HttpStatus({status})"
  | unauthorized => "Unauthorized"
  | missingCredentials => "MissingCredentials"
  | invalidClientKey key => s!"InvalidClientKey({Text.quote key})"
  | notReady => "NotReady"
  | tooFewColors lights colors =>
    "ColorCountMismatch \x7b lights: " ++ toString lights ++ ", colors: " ++ toString colors ++
      " \x7d"
  | groupNotFound group => s!"GroupNotFound({group.toNat})"
  | notEntertainmentGroup group => s!"NotEntertainmentGroup({group.toNat})"
  | stream action reason =>
    "Stream \x7b action: " ++ Text.quote action ++ ", reason: " ++ Text.quote reason ++ " \x7d"

end LightBridge.Fault
