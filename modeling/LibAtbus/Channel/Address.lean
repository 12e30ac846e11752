/-
Module: LibAtbus.Channel.Address
Layer: Channel
Purpose: Channel addresses, from `src/channel_utility.cpp`: `make_address` that parses one and
  `make_address` that prints one. A position of a `std::string` is a `size_t`, and the difference of
  two may wrap.
Trusted boundary: human-reviewed spec
Main exports: ChannelAddress, makeAddress, makeAddressOf, schemeBegins
-/
import LibAtbus.Foundation.StdString
import LibAtbus.Foundation.Word64

namespace LibAtbus.Channel

open StdString Word64

/-- `channel_address_t`. -/
structure ChannelAddress where
  address : List Char := []
  scheme : List Char := []
  host : List Char := []
  port : Int := 0
deriving DecidableEq, Repr

/-- `std::out_of_range`, which `substr` throws. What the address is then is of no use to anybody. -/
inductive AddressError where
  | outOfRange
deriving DecidableEq, Repr

/-- The number behind the last colon, if that is behind the separator. -/
def addressPort (text : List Char) (schemeEnd : Nat) (portEnd : Option Nat) : Int :=
  match portEnd.filter fun place => schemeEnd + 3 ≤ place with
  | some place => (scanDecimal (text.drop (place + 1))).getD 0
  | none => 0

/-- How much of the address `make_address` takes for the host; `npos` is the greatest `size_t`. -/
def hostSize (schemeEnd : Nat) (portEnd : Option Nat) : Nat :=
  match portEnd with
  | none => 2 ^ 64 - 1
  | some place => sub (sub place schemeEnd) 3

/-- `make_address(in, addr)`, which parses an address. `find_first_of` looks for any of the
    characters. -/
def makeAddress (text : List Char) (addr : ChannelAddress) :
    Except AddressError (Bool × ChannelAddress) :=
  match findFirstOf text "://".toList with
  | none => .ok (false, { addr with address := text })
  | some schemeEnd =>
      let portEnd := findLastOf ":".toList text
      match substr text 0 schemeEnd, substr text (schemeEnd + 3) (hostSize schemeEnd portEnd) with
      | some scheme, some host =>
          .ok (true,
            { address := text
              scheme := scheme
              host := host
              port := addressPort text schemeEnd portEnd })
      | _, _ => .error .outOfRange

/-- `make_address(scheme, host, port, addr)`, which prints an address. -/
def makeAddressOf (scheme host : List Char) (port : Int) : ChannelAddress where
  address :=
    scheme ++ "://".toList ++ host ++ if 0 < port then ":".toList ++ printDecimal port else []
  scheme := scheme
  host := host
  port := port

/-- `0 == UTIL_STRFUNC_STRNCASE_CMP(name, scheme, strlen(name))`, for a name in lower case. -/
def schemeBegins (name : String) (scheme : List Char) : Bool :=
  (scheme.take name.length).map Char.toLower == name.toList

end LibAtbus.Channel
