import BrowserFlow.Failure.Raised

/-!
# Signatures

The arguments that something takes, by name: those that have to be given, those with defaults, and
whether any number more can follow. Arguments are given by name or in order, and either way a wrong
lot of them is refused with an error that tells what is wrong.
-/
namespace BrowserFlow.Rehearsal

structure Signature where
  needed : List String := []
  optional : List String := []
  isOpen : Bool := false
deriving DecidableEq, Repr

/-- Names in quotes, the last one after an "and". -/
def listed : List String → String
  | [] => ""
  | [a] => "'" ++ a ++ "'"
  | [a, b] => "'" ++ a ++ "' and '" ++ b ++ "'"
  | names =>
    ", ".intercalate (names.dropLast.map fun name => "'" ++ name ++ "'") ++
      ", and '" ++ names.getLastD "" ++ "'"

namespace Signature

/-- What takes so many arguments and no more. -/
def takes (needed : List String) (optional : List String := []) : Signature := { needed, optional }

def plural (n : Nat) : String := if n = 1 then "" else "s"

/-- Refuses the lack of arguments that are needed. -/
def checkMissing (function : String) (missing : List String) : Except Raised Unit :=
  if missing.isEmpty then .ok ()
  else .error (.typeError
    (function ++ "() missing " ++ toString missing.length ++ " required positional argument" ++
      plural missing.length ++ ": " ++ listed missing))

/-- Checks arguments given by name: none is unknown, and none that is needed is missing. -/
def checkNames (s : Signature) (function : String) (names : List String) : Except Raised Unit :=
  match names.find? fun name => !s.needed.contains name && !s.optional.contains name with
  | some name =>
    if s.isOpen then checkMissing function (s.needed.filter (!names.contains ·))
    else .error (.typeError (function ++ "() got an unexpected keyword argument '" ++ name ++ "'"))
  | none => checkMissing function (s.needed.filter (!names.contains ·))

/-- Checks how many arguments are given in order, after `own` others that are always given. -/
def checkCount (s : Signature) (function : String) (own count : Nat) : Except Raised Unit :=
  let least := own + s.needed.length
  let most := least + s.optional.length
  let given := own + count
  if !s.isOpen && most < given then
    let taken := if s.optional.isEmpty then toString most ++ " positional argument" ++ plural most
      else "from " ++ toString least ++ " to " ++ toString most ++ " positional arguments"
    .error (.typeError
      (function ++ "() takes " ++ taken ++ " but " ++ toString given ++
        (if given = 1 then " was" else " were") ++ " given"))
  else checkMissing function (s.needed.drop count)

end Signature

end BrowserFlow.Rehearsal
