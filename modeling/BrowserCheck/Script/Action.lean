set_option autoImplicit false

namespace BrowserCheck

inductive ActionKind where
  | goTo
  | click
  | sleep
deriving DecidableEq, Repr

namespace ActionKind

def tag : ActionKind → String
  | goTo => "goto"
  | click => "click"
  | sleep => "sleep"

def all : List ActionKind := [goTo, click, sleep]

def ofTag? (s : String) : Option ActionKind := all.find? (·.tag == s)

end ActionKind

inductive Version where
  | v100
deriving DecidableEq, Repr

namespace Version

def tag : Version → String
  | v100 => "1.0.0"

def all : List Version := [v100]

def ofTag? (s : String) : Option Version := all.find? (·.tag == s)

def vocabulary : Version → List ActionKind
  | v100 => [.goTo, .click, .sleep]

def current : Version := v100

end Version

inductive Action where
  | goTo (url : String)
  | click (selector : String)
  | sleep (milliseconds : UInt64)
deriving DecidableEq, Repr

namespace Action

def kind : Action → ActionKind
  | goTo _ => .goTo
  | click _ => .click
  | sleep _ => .sleep

def details : Action → String
  | goTo url => url
  | click selector => selector
  | sleep milliseconds => toString milliseconds.toNat ++ "ms"

end Action

structure Script where
  version : String
  actions : List Action
deriving DecidableEq, Repr

namespace Script

def ofActions (actions : List Action) : Script := ⟨Version.current.tag, actions⟩

def version? (s : Script) : Option Version := Version.ofTag? s.version

end Script

end BrowserCheck
