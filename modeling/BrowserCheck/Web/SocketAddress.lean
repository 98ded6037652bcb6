import BrowserCheck.Text.Basic

set_option autoImplicit false

namespace BrowserCheck.Web.SocketAddress

open Text

def isOctet (s : List Char) : Bool :=
  s.length ≤ 3 && (s.length == 1 || s.head? != some '0') && (decimal? 256 s).isSome

def isFourOctets (s : List Char) : Bool :=
  let parts := splitAt '.' s
  parts.length == 4 && parts.all isOctet

def isGroup (s : List Char) : Bool := !s.isEmpty && s.length ≤ 4 && s.all fun c => (hexValue? c).isSome

def groupCount? (octets : Bool) (s : List Char) : Option Nat :=
  if s.isEmpty then some 0
  else
    let parts := splitAt ':' s
    let init := parts.dropLast
    match parts.getLast? with
    | none => none
    | some last =>
      if ¬init.all isGroup then none
      else if isGroup last then some parts.length
      else if octets && isFourOctets last then some (parts.length + 1)
      else none

def isEightGroups (s : List Char) : Bool :=
  match cutAt? "::".toList s with
  | none => groupCount? true s == some 8
  | some (before, after) =>
    match groupCount? false before, groupCount? true after with
    | some m, some n => m + n ≤ 7
    | _, _ => false

def isPort (s : List Char) : Bool := (decimal? 65536 s).isSome

def isZoned (s : List Char) : Bool :=
  match splitAt '%' s with
  | [address] => isEightGroups address
  | [address, zone] => isEightGroups address && (decimal? (2 ^ 32) zone).isSome
  | _ => false

def isValid (s : String) : Bool :=
  match s.toList with
  | '[' :: rest =>
    match cutAt? "]:".toList rest with
    | some (address, port) => isZoned address && isPort port
    | none => false
  | cs =>
    match splitAt ':' cs with
    | [address, port] => isFourOctets address && isPort port
    | _ => false

end BrowserCheck.Web.SocketAddress
