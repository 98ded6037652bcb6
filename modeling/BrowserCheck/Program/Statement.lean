import BrowserCheck.Script.Action

set_option autoImplicit false

namespace BrowserCheck.Program

def escapeChar (c : Char) : List Char :=
  match c with
  | '\\' => ['\\', '\\']
  | '\'' => ['\\', '\'']
  | '"' => ['\\', '"']
  | '\n' => ['\\', 'n']
  | '\r' => ['\\', 'r']
  | '\u2028' => "\\u2028".toList
  | '\u2029' => "\\u2029".toList
  | c => [c]

def escape (s : String) : String := String.ofList (s.toList.flatMap escapeChar)

def literal (s : String) : String := "'" ++ escape s ++ "'"

inductive Statement where
  | navigate (url : String)
  | click (selector : String)
  | sleep (milliseconds : UInt64)
  | injectTelemetry
  | captureStep (index : Nat) (action : ActionKind) (details : String)
deriving DecidableEq, Repr

namespace Statement

def code : Statement → String
  | navigate url => "await page.goto(" ++ literal url ++ ");"
  | click selector => "await page.click(" ++ literal selector ++ ");"
  | sleep milliseconds => "await page.waitForTimeout(" ++ toString milliseconds.toNat ++ ");"
  | injectTelemetry => "await addSpotlight(page);"
  | captureStep index action details =>
    "await captureStep(" ++ toString index ++ ", " ++ literal action.tag ++ ", " ++ literal details ++ ");"

def isCapture : Statement → Bool
  | captureStep .. => true
  | _ => false

end Statement

end BrowserCheck.Program
