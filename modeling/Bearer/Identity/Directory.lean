import Bearer.Identity.Role
import Bearer.Table

/-!
# Directories

A directory knows accounts by name. The first account under a name stays; `find?_add` says what
adding does.
-/

namespace Bearer

/-- What a directory knows about an account. -/
structure Account where
  /-- Whom the account belongs to. -/
  subject : String
  /-- The written hash of the password. -/
  passwordHash : String
  /-- What the subject acts as. -/
  role : Role
deriving DecidableEq, Repr

/-- Accounts by name. -/
abbrev Directory := Table Account

namespace Directory

/-- Adds an account, unless the name is taken, and says whether it was added. -/
def add (directory : Directory) (name : String) (account : Account) : Bool × Directory :=
  if (directory.find? name).isSome then (false, directory)
  else (true, directory.insert name account)

/-- The account under a name is the first that was added. -/
theorem find?_add (directory : Directory) (name other : String) (account : Account) :
    (directory.add name account).2.find? other =
      if other = name then some ((directory.find? name).getD account)
      else directory.find? other := by
  unfold add
  cases found : directory.find? name with
  | none => simp
  | some first =>
      by_cases same : other = name
      · simp [same, found]
      · simp [same]

/-- A directory that cannot be asked, and why. -/
structure Outage where
  /-- The reason. -/
  reason : String
deriving DecidableEq, Repr

/-- The wording of an outage. -/
def Outage.message (outage : Outage) : String :=
  "principal lookup failed: " ++ outage.reason

end Directory

end Bearer
