import Bearer.Digest.Argon2
import Bearer.Password.Phc
import Bearer.Text.Utf8

/-!
# Checking passwords

A comparator says whether a password belongs to a stored hash. The one that is made here stretches
the password with what the hash names and compares the result; whatever cannot be read belongs to no
password.
-/

namespace Bearer.Password

open Digest

/-- A way to check a password: the stored hash comes first. -/
abbrev Comparator := String → String → Bool

/-- The named kinds of the stretching function. -/
def kinds : List (List Char × Argon2.Kind) :=
  [ ("argon2d".toList, .dependent), ("argon2i".toList, .independent),
    ("argon2id".toList, .hybrid) ]

/-- What the parameters of a written hash set. -/
structure Settings where
  /-- The memory in blocks. -/
  memory : Nat
  /-- The number of passes. -/
  passes : Nat
  /-- The number of lanes. -/
  lanes : Nat
  /-- Further data that enters the result. -/
  data : List UInt8

namespace Settings

/-- What holds for parameters that are not named. -/
def usual : Settings :=
  ⟨19456, 2, 1, []⟩

/-- Bytes in base64, up to a limit. -/
def bytes? (limit : Nat) (text : List Char) : Option (List UInt8) :=
  (Base64.decode? Base64.standardUnpadded text).filter (·.length ≤ limit)

/-- The settings with one more parameter. The name of a key is checked and not used. -/
def set? (settings : Settings) (parameter : List Char × List Char) : Option Settings :=
  let (name, value) := parameter
  if name = ['m'] then do return { settings with memory := ← Phc.decimal? value }
  else if name = ['t'] then do return { settings with passes := ← Phc.decimal? value }
  else if name = ['p'] then do return { settings with lanes := ← Phc.decimal? value }
  else if name = "data".toList then do return { settings with data := ← bytes? 32 value }
  else if name = "keyid".toList then (bytes? 8 value).map fun _ => settings
  else none

/-- Whether the function can be run: eight blocks for each lane, and a pass. -/
def usable (settings : Settings) : Bool :=
  1 ≤ settings.lanes && settings.lanes ≤ 0xFFFFFF && 8 * settings.lanes ≤ settings.memory &&
    1 ≤ settings.passes

end Settings

/-- The revision with a number; the later one where no number is given. -/
def version? : Option Nat → Option Argon2.Version
  | none => some .adding
  | some 16 => some .replacing
  | some 19 => some .adding
  | some _ => none

/-- What a written hash asks to run, and the result it expects. -/
def Phc.demand? (phc : Phc) : Option (Argon2.Parameters × List UInt8) := do
  let kind ← kinds.lookup phc.algorithm
  let version ← version? phc.version
  let settings ← phc.parameters.foldlM Settings.set? Settings.usual
  let salt ← Base64.decode? Base64.standardUnpadded (← phc.salt)
  let expected ← phc.hash
  if settings.usable && 8 ≤ salt.length then
    return (
      { kind, version, salt, memory := settings.memory, passes := settings.passes
        lanes := settings.lanes, data := settings.data, size := expected.length }, expected)
  else none

/-- Whether a password is short enough to be stretched. -/
def isAccepted (password : String) : Bool :=
  (Text.bytes password).length ≤ Argon2.longestPassword

/-- Whether a password belongs to a written hash. A password that is too long belongs to none. -/
def compare : Comparator := fun stored password =>
  match (Phc.parse? stored.toList).bind Phc.demand? with
  | some (parameters, expected) =>
    isAccepted password && Argon2.hash parameters (Text.bytes password) = expected
  | none => false

/-- What a new password is stretched with. -/
def parameters (salt : List UInt8) : Argon2.Parameters :=
  { kind := .hybrid, version := .adding, memory := 15000, passes := 2, lanes := 1, salt
    data := [], size := 32 }

/-- The hash of a new password, which is an accepted one, under a salt of 16 bytes. -/
def phc (salt : List UInt8) (password : String) : Phc where
  algorithm := "argon2id".toList
  version := some 19
  parameters :=
    [(['m'], Decimal.ofNat 15000), (['t'], Decimal.ofNat 2), (['p'], Decimal.ofNat 1)]
  salt := some (Base64.encode Base64.standardUnpadded salt)
  hash := some (Argon2.hash (parameters salt) (Text.bytes password))

/-- The written hash of a new password. -/
def hash (salt : List UInt8) (password : String) : String :=
  String.ofList (phc salt password).print

/-- A hash of a password that nobody has. To compare with it takes as long as with any other. -/
def dummyHash : String :=
  "$argon2id$v=19$m=15000,t=2,p=1$" ++
    "c2Vzc2lvbi1hdXRoLWR1bQ$5kL82/pCUhI9d1ILrlEM3wRA00JupXQxD8vWDMGPf0M"

end Bearer.Password
