import RiverPuzzle.Text.Utf8

/-!
# Addresses

An address names a kind of store before its first colon and a place in such a
store behind it.  A question mark or a number sign ends the place.  An address is
written in a small alphabet; any byte can be written as a percent sign and two
hexadecimal digits.
-/

namespace RiverPuzzle

/-- An address: its text, the name of a kind of store, and the place as written. -/
structure Address where
  text : List Char
  scheme : String
  place : List Char
deriving DecidableEq, Repr

/-- A kind of store: this disk, with places that have to start at the top folder or
need not; one that is made for the occasion; one with buckets; one with accounts. -/
inductive Store
  | disk (rooted : Bool)
  | memory
  | buckets (name : String)
  | accounts
deriving DecidableEq, Repr

/-- A place in a store that can be used. -/
inductive Place
  | onDisk (text : String)
  | inMemory (text : String)
deriving DecidableEq, Repr

/-- Why an address leads nowhere, or stands where none may stand. -/
inductive AddressFault
  | unknownStore (text : List Char)
  | notRooted (text : List Char)
  | noBucket (store : String)
  | noAccount
  | decode (fault : Text.DecodeFault)
  | notOnDisk (text : String)
  | notInMemory (text : String)
  | zeroInPlace (text : String)
  | missing (text : String)
deriving DecidableEq, Repr

def AddressFault.message : AddressFault → String
  | .unknownStore text => "Unrecognized filesystem type in URI: " ++ String.ofList text
  | .notRooted text => "File URI cannot be relative: '" ++ String.ofList text ++ "'"
  | .noBucket store => "Missing bucket name in " ++ store ++ " URI"
  | .noAccount => "AzureOptions doesn't contain a valid account name"
  | .decode fault => fault.message
  | .notOnDisk text => "Expected a local filesystem path, got a URI: '" ++ text ++ "'"
  | .notInMemory text => "Expected a filesystem path, got a URI: '" ++ text ++ "'"
  | .zeroInPlace text => "Embedded NUL char in path: '" ++ text ++ "'"
  | .missing text =>
      "[Errno 2] Path does not exist '" ++ text
        ++ "'. Detail: [errno 2] No such file or directory"

namespace Store

/-- The kinds of stores by name. -/
def all : List (String × Store) :=
  [("file", .disk true), ("local", .disk false), ("mock", .memory), ("s3", .buckets "S3"),
    ("gs", .buckets "GCS"), ("gcs", .buckets "GCS"), ("abfs", .accounts), ("abfss", .accounts)]

end Store

namespace Address

/-- A text that can name a kind of store. -/
def isScheme : List Char → Bool
  | first :: rest =>
      first.isAlpha && rest.all fun char => char.isAlphanum || "+-.".toList.contains char
  | [] => false

/-- The two parts of a text around its first colon, if the first part can name a
kind of store. -/
def split? (text : List Char) : Option (List Char × List Char) :=
  match text.dropWhile (· != ':') with
  | [] => none
  | _ :: rest =>
      let scheme := text.takeWhile (· != ':')
      if isScheme scheme then some (scheme, rest) else none

/-- A text that is meant for an address, well written or not: the name before the
colon has more than one letter and is no longer than such names are. -/
def isMeant (text : List Char) : Bool :=
  match split? text with
  | some (scheme, _) => 2 ≤ scheme.length && scheme.length ≤ 36
  | none => false

/-- The value of a hexadecimal digit, in letters of either case. -/
def hexValue? (char : Char) : Option Nat :=
  if char.isDigit then some (char.toNat - '0'.toNat)
  else if 'a' ≤ char && char ≤ 'f' then some (char.toNat - 'a'.toNat + 10)
  else if 'A' ≤ char && char ≤ 'F' then some (char.toNat - 'A'.toNat + 10)
  else none

/-- A character that stands for itself behind the colon. -/
def isPlain (char : Char) : Bool :=
  char.isAlphanum || "-._~!$&'()*+,;=:@/?".toList.contains char

/-- What stands behind the colon is well written.  There is at most one number
sign; `marked` says that it has been seen. -/
def isWellWritten (marked : Bool) : List Char → Bool
  | [] => true
  | '%' :: high :: low :: rest =>
      (hexValue? high).isSome && (hexValue? low).isSome && isWellWritten marked rest
  | '#' :: rest => !marked && isWellWritten true rest
  | char :: rest => isPlain char && isWellWritten marked rest

/-- The address that a text reads as. -/
def ofText? (text : List Char) : Option Address :=
  match split? text with
  | none => none
  | some (scheme, rest) =>
      if isWellWritten false rest then
        some ⟨text, String.ofList scheme, rest.takeWhile fun char => char != '?' && char != '#'⟩
      else none

/-- The bytes that a well written place stands for. -/
def bytes : List Char → List UInt8
  | [] => []
  | '%' :: high :: low :: rest =>
      (16 * (hexValue? high).getD 0 + (hexValue? low).getD 0).toUInt8 :: bytes rest
  | char :: rest => char.toNat.toUInt8 :: bytes rest

/-- A text without the slashes at its end, unless it is a single slash. -/
def dropSlashes (text : List Char) : List Char :=
  if text = ['/'] then text else (text.reverse.dropWhile (· == '/')).reverse

/-- The place on this disk that an address names. -/
def onDisk (text : List Char) : Place :=
  .onDisk (String.ofList (dropSlashes text))

/-- The place in a store made for the occasion, where all starts at the top. -/
def inMemory (text : List Char) : Place :=
  .inMemory (String.ofList (text.dropWhile (· == '/')))

/-- The place of an address, its text put to use. -/
def decoded (address : Address) (use : List Char → Place) : Except AddressFault Place :=
  match Text.decodeUtf8 (bytes address.place) with
  | .error fault => .error (.decode fault)
  | .ok text => .ok (use text)

/-- The place to which an address leads. -/
def target (address : Address) : Except AddressFault Place :=
  match Store.all.lookup address.scheme with
  | none => .error (.unknownStore address.text)
  | some (.disk rooted) =>
      if rooted && address.place.head? != some '/' then .error (.notRooted address.text)
      else address.decoded onDisk
  | some .memory => address.decoded inMemory
  | some (.buckets name) => .error (.noBucket name)
  | some .accounts => .error .noAccount

end Address

end RiverPuzzle
