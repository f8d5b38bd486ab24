import LightBridge.Text.Hex
import LightBridge.Text.Shown

/-! A text between double quotes, for messages. A backslash stands before a quote and a backslash;
tab, line feed, carriage return and the zero character have letters of their own; any other
character that cannot be shown is written by its number. -/

namespace LightBridge.Text

def quoteChar (c : Char) : List Char :=
  match c with
  | '"' => ['\\', '"']
  | '\\' => ['\\', '\\']
  | '\t' => ['\\', 't']
  | '\n' => ['\\', 'n']
  | '\r' => ['\\', 'r']
  | '\x00' => ['\\', '0']
  | _ => if isShown c then [c] else "\\u\x7b".toList ++ (Hex.digits c.toNat).toList ++ ['\x7d']

def quote (s : String) : String := "\"" ++ String.ofList (s.toList.flatMap quoteChar) ++ "\""

end LightBridge.Text
