import QueryDesk.Json.Number

/-!
# Addresses to listen on

An address is a host, a colon and a port.  It can be listened on when the host is a name or number
of this machine.
-/

namespace QueryDesk.CommandLine

open QueryDesk.Json

/-- Why an address cannot be listened on. -/
inductive AddressFault where
  | noPort
  | badPort
  | unknownHost
  | foreignHost
deriving DecidableEq, Repr

/-- The wording of a fault. -/
def AddressFault.message : AddressFault → String
  | .noPort => "invalid socket address"
  | .badPort => "invalid port value"
  | .unknownHost => "failed to lookup address information: Name or service not known"
  | .foreignHost => "Cannot assign requested address (os error 99)"

/-- The value of decimal digits. -/
def decimal (ds : List Char) : Nat :=
  ds.foldl (fun n d => n * 10 + digitValue d) 0

/-- A port: digits after an optional plus sign, within sixteen bits. -/
def isPort (s : List Char) : Bool :=
  let ds := match s with
    | '+' :: ds => ds
    | ds => ds
  !ds.isEmpty && ds.all isDigit && decimal ds < 65536

/-- The numbers between dots. -/
def dotted (s : List Char) : List (List Char) :=
  match s with
  | [] => [[]]
  | c :: rest =>
    if c = '.' then [] :: dotted rest
    else match dotted rest with
      | first :: others => (c :: first) :: others
      | [] => [[c]]

/-- Four numbers of eight bits with dots between them. -/
def isNumericHost (s : List Char) : Bool :=
  (dotted s).length == 4 &&
    (dotted s).all fun ds => !ds.isEmpty && ds.all isDigit && decimal ds < 256

/-- Whether a numeric host is this machine. -/
def isLocalNumber (s : List Char) : Bool :=
  match dotted s with
  | first :: _ => decimal first == 127 || s == "0.0.0.0".toList
  | [] => false

/-- The names of this machine that need no look-up. -/
def localNames : List String := ["localhost", "[::1]", "[::]", "::1", "::"]

/-- Whether a host is this machine. -/
def checkHost (host : List Char) : Except AddressFault Unit :=
  if localNames.contains (String.ofList host) then .ok ()
  else if !isNumericHost host then .error .unknownHost
  else if isLocalNumber host then .ok ()
  else .error .foreignHost

/-- Whether an address can be listened on. -/
def checkAddress (address : String) : Except AddressFault Unit :=
  let reversed := address.toList.reverse
  match reversed.dropWhile (· != ':') with
  | [] => .error .noPort
  | _ :: host =>
    if isPort (reversed.takeWhile (· != ':')).reverse then checkHost host.reverse
    else .error .badPort

end QueryDesk.CommandLine
